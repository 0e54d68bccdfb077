import ScriptWorkers.TypeScript.Types

/-!
# Classes and choices that exist elsewhere

A source can announce a class or a choice of named values that another one holds.  Nothing is left
of the announcement, but it has to be well formed: the members of such a class have types and no
bodies, and end like statements; the values of a choice have commas between.

Inside a class the strict rules always apply.
-/

namespace ScriptWorkers
namespace TypeScript

open Reader

def strictly {α : Type} (r : Reader α) : Reader α := do
  let before := (← get).strict
  modify fun p ↦ { p with strict := true }
  let a ← r
  modify fun p ↦ { p with strict := before }
  return a

/-- Reads the parameters of a function, inside of which one cannot wait for things. -/
def withoutWaiting {α : Type} (r : Reader α) : Reader α := do
  let before := (← get).isModule
  modify fun p ↦ { p with isModule := false }
  let a ← r
  modify fun p ↦ { p with isModule := before }
  return a

/-- Words in front of a member of a class. -/
def memberWords : List String :=
  accessWords ++ ["abstract", "accessor", "declare", "override", "readonly", "static"]

/-- Words in front of a parameter of a method. -/
def methodParameterWords : List String := accessWords ++ ["override", "readonly"]

section

variable (value : Reader Unit)

/-- Passes over names of types with their arguments and commas between. -/
def skipTypeNames : Nat → Reader Unit
  | 0 => failure
  | n + 1 => do
    discard word
    skipDots n
    skipArguments value n
    if ← eatMark "," then skipTypeNames n

/-! ## Classes -/

/-- Passes over the parameters and the result of a method. -/
def skipMethod (n : Nat) : Reader Unit := do
  strictly (withoutWaiting (do
    skipGenerics value n
    skipParameters value methodParameterWords true n
    if ← eatMark ":" then skipResult value true n))
  statementEnd

/-- Passes over a function that reads or writes a member: one that reads takes no parameter, one
that writes takes a single one. -/
def skipAccessor (writes : Bool) (n : Nat) : Reader Unit := do
  skipKey value
  check (atMark "(")
  let plain ← ahead (do
    mark "("
    if ← eatWord "this" then
      skipAnnotation value n
      if !(← atMark ")") then mark ","
    if ← atMark "..." then failure
    takeParameters value methodParameterWords n)
  if (plain.map List.length) ≠ some (if writes then 1 else 0) then failure
  skipMethod value n

/-- Passes over the type of a property and the value it starts with. -/
def skipProperty (n : Nat) : Reader Unit := do
  skipAnnotation value n
  skipDefault value
  statementEnd

/-- Passes over a member of a class. -/
def skipClassMember (n : Nat) : Reader Unit := do
  let found ← takeModifiers modifiers [] n
  allow memberWords found
  if ← would (do check (eatOneOf ["get", "set"]); check atKey) then
    let writes ← atWord "set"
    skip
    skipAccessor value writes n
  else if (← atMark "[") && (← would opensIndex) then
    skipIndex value n
    statementEnd
  else
    skipKey value
    if !(← eatMark "?") then discard (eatMark "!")
    if (← atMark "(") || (← atMark "<") then skipMethod value n
    else skipProperty value n

/-- Passes over the members of a class, up to the closing brace. -/
def skipClassBody : Nat → Reader Unit
  | 0 => failure
  | n + 1 => do
    if ← eatMark "\x7d" then return
    if !(← eatMark ";") then skipClassMember value n
    skipClassBody n

/-- Takes a class after its word and returns its name. -/
def takeClass (n : Nat) : Reader (List Char) := do
  let x ← newName
  skipGenerics value n
  if ← eatWord "extends" then
    discard word
    skipDots n
    skipArguments value n
  if ← eatWord "implements" then skipTypeNames value n
  mark "\x7b"
  skipClassBody value n
  return x

/-! ## Choices -/

/-- Takes one value of a choice and returns its name. -/
def takeChoice : Reader (List Char) := do
  let x ← match ← take with
    | .word cs | .string cs => pure cs
    | .mark ['['] =>
      match ← take with
      | .string cs | .template cs true true => do
        mark "]"
        pure cs
      | _ => failure
    | _ => failure
  skipDefault value
  return x

/-- Takes the values of a choice, up to the closing brace. -/
def takeChoices : Nat → Reader (List (List Char))
  | 0 => failure
  | n + 1 => do
    if ← eatMark "\x7d" then return []
    let x ← takeChoice value
    if ← eatMark "," then return x :: (← takeChoices n)
    mark "\x7d"
    return [x]

/-- Takes a choice after its word and returns its name; the values have different names. -/
def takeEnumeration (n : Nat) : Reader (List Char) := do
  let x ← newName
  mark "\x7b"
  countRepeated false (← takeChoices value n)
  return x

end

end TypeScript
end ScriptWorkers
