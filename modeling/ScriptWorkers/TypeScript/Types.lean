import ScriptWorkers.TypeScript.Reader

/-!
# Passing over types

Types leave nothing behind, so a type is read only to find out where it ends and whether it is well
formed.  `Shape` is all that is kept of it, because a few marks fit only some types.

A type that asks a question, `A extends B ? C : D`, cannot stand inside the `B` of another one
unless something closes it in; that is what the flag `asks` says: the question may be asked here.

Values can stand inside types, as the keys of members and behind parameters.  How they are read is a
parameter, `value`, because values have types inside in turn.
-/

namespace ScriptWorkers
namespace TypeScript

open Reader

/-- What a type looks like from outside. -/
inductive Shape where
  /-- An array or a tuple. -/
  | list
  /-- A type with a question mark behind it. -/
  | optional
  | other
deriving Repr, DecidableEq

/-- Words for types that take no arguments. -/
def plainTypes : List String :=
  ["any", "unknown", "string", "number", "bigint", "symbol", "boolean", "undefined", "never",
    "object", "null"]

/-- Reserved words that a type may start with. -/
def typeWords : List String :=
  ["this", "null", "true", "false", "void", "typeof", "new", "import", "function"]

/-- Marks that a type may start with. -/
def typeMarks : List (List Char) :=
  ["\x7b", "[", "<", "|", "&", "?", "!", "...", "*", "("].map String.toList

def startsType : Reader Bool := do
  match ← next? with
  | some ⟨.word w, _⟩ => return isName w || typeWords.contains (String.ofList w)
  | some ⟨.number .., _⟩ | some ⟨.string _, _⟩ => return true
  | some ⟨.template _ isFirst _, _⟩ => return isFirst
  | some ⟨.mark m, _⟩ => return typeMarks.contains m || m == ['-']
  | none => return false

/-- Takes a sign in front of what is added or taken away. -/
def eatSign : Reader Bool := do
  if ← eatMark "+" then return true else eatMark "-"

/-- Passes over further names after dots. -/
def skipDots : Nat → Reader Unit
  | 0 => failure
  | n + 1 => do
    if ← eatMark "." then
      discard word
      skipDots n

/-! ## Words in front of members and parameters -/

/-- Words that say something about the member or the parameter behind them. -/
def modifiers : List String :=
  ["abstract", "accessor", "async", "declare", "export", "in", "out", "override", "private",
    "protected", "public", "readonly", "static"]

/-- Something that a member may be called by comes next. -/
def atKey : Reader Bool := do
  match ← next? with
  | some ⟨.word _, _⟩ | some ⟨.string _, _⟩ | some ⟨.number .., _⟩ => return true
  | some ⟨.mark m, _⟩ => return m == ['[']
  | _ => return false

/-- What comes next can have a word in front that says something about it. -/
def atModified : Reader Bool := do
  if ← atKey then return true
  match ← next? with
  | some ⟨.mark m, _⟩ => return [['\x7b'], ['*'], ['.', '.', '.']].contains m
  | _ => return false

/-- The next word is one of those that say something about what comes behind it, in the same line
unless the word is `static`. -/
def atModifier (words : List String) : Reader (Option String) :=
  ahead (do
    let w := String.ofList (← word)
    if !words.contains w then failure
    if w != "static" then check sameLine
    check atModified
    return w)

/-- Words for who may use a member. -/
def accessWords : List String := ["public", "private", "protected"]

/-- Words that cannot stand before a word: itself, those that exclude it, and those that have to
follow it. -/
def notBefore (w : String) : List String :=
  if accessWords.contains w then
    accessWords ++ ["override", "static", "accessor", "readonly", "async"]
  else if w == "static" then [w, "readonly", "async", "accessor", "override"]
  else if w == "override" then [w, "readonly", "accessor", "async"]
  else if w == "abstract" then [w, "override", "accessor"]
  else [w]

/-- Takes the words in front of a member or a parameter, none of them twice and each in its
place. -/
def takeModifiers (words seen : List String) : Nat → Reader (List String)
  | 0 => failure
  | n + 1 => do
    match ← atModifier words with
    | none => return seen
    | some w =>
      if (notBefore w).any seen.contains then failure
      skip
      takeModifiers words (w :: seen) n

/-- Only the given words may stand in front here. -/
def allow (words : List String) (found : List String) : Reader Unit :=
  if found.all words.contains then return else failure

/-! ## Patterns -/

section

variable (value : Reader Unit)

/-- Passes over a value to fall back on, if there is one. -/
def skipDefault : Reader Unit := do
  if ← eatMark "=" then value

/-- Passes over the name of a member. -/
def skipKey : Reader Unit := do
  match ← take with
  | .word _ | .string _ | .number .. => return
  | .mark ['['] => do
    value
    mark "]"
  | _ => failure

/-- Passes over an object whose members are values or objects in turn. -/
def skipObject : Nat → Reader Unit
  | 0 => failure
  | n + 1 => do
    mark "\x7b"
    listUntil "\x7d" (do
      skipKey value
      mark ":"
      if ← atMark "\x7b" then skipObject n else value) n

mutual

/-- Takes a name, or a pattern of names that takes a value apart, and returns the names. -/
def takePattern : Nat → Reader (List (List Char))
  | 0 => failure
  | n + 1 => do
    if ← eatMark "[" then takeElements n
    else if ← eatMark "\x7b" then takeFields n
    else return [← newName]

/-- Takes the elements of a pattern, some of which may be missing, up to the closing bracket; one
that takes all the rest is the last. -/
def takeElements : Nat → Reader (List (List Char))
  | 0 => failure
  | n + 1 => do
    if ← eatMark "]" then return []
    if ← eatMark "," then return ← takeElements n
    if ← eatMark "..." then
      let xs ← takePattern n
      mark "]"
      return xs
    let xs ← takePattern n
    skipDefault value
    if ← eatMark "," then return xs ++ (← takeElements n)
    mark "]"
    return xs

/-- Takes the fields of a pattern, up to the closing brace; one that takes all the rest is the
last. -/
def takeFields : Nat → Reader (List (List Char))
  | 0 => failure
  | n + 1 => do
    if ← eatMark "\x7d" then return []
    if ← eatMark "..." then
      let x ← newName
      mark "\x7d"
      return [x]
    let xs ← takeField n
    if ← eatMark "," then return xs ++ (← takeFields n)
    mark "\x7d"
    return xs

/-- Takes a field of a pattern: a name for itself, or a key and the pattern for what it holds. -/
def takeField : Nat → Reader (List (List Char))
  | 0 => failure
  | n + 1 => do
    let short ← ahead newName
    skipKey value
    let xs ← if ← eatMark ":" then takePattern n
      else match short with
        | some x => pure [x]
        | none => failure
    skipDefault value
    return xs

end

/-! ## What starts here -/

/-- The bracket in front opens the parameters of a function and not just a type. -/
def opensParameters (n : Nat) : Reader Unit := do
  skip
  if (← atMark ")") || (← atMark "...") then return
  discard (takeModifiers modifiers [] n)
  if !(← eatWord "this") then discard (takePattern value n)
  if (← atMark ":") || (← atMark ",") || (← atMark "?") || (← atMark "=") then return
  mark ")"
  mark "=>"

/-- The type of a function starts here. -/
def startsFunction (n : Nat) : Reader Bool := do
  if (← atMark "<") || (← atWord "new") then return true
  if ← atMark "(" then return ← would (opensParameters value n)
  if ← atWord "abstract" then return ← would (do skip; check (atWord "new"))
  return false

/-- The brace in front opens a type with one member for each key. -/
def opensMapped : Reader Unit := do
  skip
  if ← eatSign then
    check (atWord "readonly")
  else
    discard (eatWord "readonly")
    mark "["
    discard name
    check (atWord "in")

/-- The bracket in front opens an index signature. -/
def opensIndex : Reader Unit := do
  skip
  discard name
  check (do return (← atMark ":") || (← atMark ","))

/-- A label stands in front of an element of a tuple. -/
def labelled : Reader Unit := do
  discard (eatMark "...")
  discard word
  discard (eatMark "?")
  check (atMark ":")

/-- Nothing is behind a question mark that stands for a type of its own. -/
def endsUnknown : Reader Bool := do
  match ← next? with
  | some ⟨.mark m, _⟩ => return [[','], ['\x7d'], [')'], ['>'], ['='], ['|']].contains m
  | _ => return false

/-! ## Parameters -/

/-- Counts the names of a list that stand in it before.  Without the strict rules a list of nothing
but names may repeat them. -/
def countRepeated (onlyNames : Bool) (names : List (List Char)) : Reader Unit :=
  modify fun p ↦
    if onlyNames && !p.strict then p
    else { p with repeated := p.repeated + (names.length - names.eraseDups.length) }

/-! ## Types -/

mutual

def skipType (asks : Bool) : Nat → Reader Shape
  | 0 => failure
  | n + 1 => do
    if ← startsFunction value n then
      discard (eatWord "abstract")
      let constructs ← eatWord "new"
      skipGenerics n
      skipParameters ["readonly"] (!constructs) n
      mark "=>"
      skipResult asks n
      return .other
    else
      let leading ← eatMark "|"
      let first ← skipMeet asks n
      let more ← skipUnion asks n
      if asks then
        if ← eatWordHere "extends" then
          discard (skipType false n)
          mark "?"
          discard (skipType true n)
          mark ":"
          discard (skipType true n)
          return .other
      return if leading || more then .other else first

/-- Passes over the further members of a union and tells whether there are any. -/
def skipUnion (asks : Bool) : Nat → Reader Bool
  | 0 => failure
  | n + 1 => do
    if ← eatMark "|" then
      discard (skipMeet asks n)
      discard (skipUnion asks n)
      return true
    return false

def skipMeet (asks : Bool) : Nat → Reader Shape
  | 0 => failure
  | n + 1 => do
    let leading ← eatMark "&"
    let first ← skipOperator asks n
    let more ← skipMoreMeet asks n
    return if leading || more then .other else first

/-- Passes over the further members of an intersection and tells whether there are any. -/
def skipMoreMeet (asks : Bool) : Nat → Reader Bool
  | 0 => failure
  | n + 1 => do
    if ← eatMark "&" then
      discard (skipOperator asks n)
      discard (skipMoreMeet asks n)
      return true
    return false

/-- Passes over a type with the words in front of it.  Only an array or a tuple can be told not to
change. -/
def skipOperator (asks : Bool) : Nat → Reader Shape
  | 0 => failure
  | n + 1 => do
    if ← eatOneOf ["keyof", "unique"] then
      discard (skipOperator asks n)
      return .other
    else if ← eatWord "readonly" then
      if (← skipOperator asks n) ≠ .list then failure
      return .other
    else if ← eatWord "infer" then
      discard newName
      discard (attempt (do
        check (eatWord "extends")
        discard (skipType false n)
        if asks && (← atMark "?") then failure))
      return .other
    else
      let first ← skipSimple n
      skipSuffixes first n

/-- Passes over what may follow a type in the same line. -/
def skipSuffixes (shape : Shape) : Nat → Reader Shape
  | 0 => failure
  | n + 1 => do
    if !(← sameLine) then return shape
    if ← eatMark "!" then
      skipSuffixes .other n
    else if ← atMark "?" then
      if ← would (do skip; check startsType) then return shape
      skip
      skipSuffixes .optional n
    else if ← eatMark "[" then
      if ← eatMark "]" then skipSuffixes .list n
      else
        discard (skipType true n)
        mark "]"
        skipSuffixes .other n
    else return shape

/-- Passes over a type without marks around it. -/
def skipSimple : Nat → Reader Shape
  | 0 => failure
  | n + 1 => do
    if ← atMark "\x7b" then
      if ← would opensMapped then skipMapped n
      else
        skip
        skipMembers n
      return .other
    match ← take with
    | .number .. | .string _ => return .other
    | .template _ true isLast => do
      if !isLast then
        discard (skipType true n)
        skipTemplate n
      return .other
    | .mark ['-'] =>
      match ← take with
      | .number .. => return .other
      | _ => failure
    | .mark ['['] => do
      listUntil "]" (skipElement n) n
      return .list
    | .mark ['('] => do
      discard (skipType true n)
      mark ")"
      return .other
    | .mark ['?'] => do
      if !(← endsUnknown) then discard (skipType true n)
      return .other
    | .mark ['!'] => do
      discard (skipSimple n)
      return .other
    | .word cs => do
      skipWord (String.ofList cs) n
      return .other
    | _ => failure

/-- Passes over what belongs to a type that starts with a word, after the word. -/
def skipWord (w : String) : Nat → Reader Unit
  | 0 => failure
  | n + 1 => do
    if w == "true" || w == "false" || w == "void" then return
    else if plainTypes.contains w && !(← atMark ".") then return
    else if w == "null" then failure
    else if w == "this" then
      if ← eatWordHere "is" then discard (skipType true n)
    else if w == "typeof" then
      if ← eatWord "import" then skipImport n
      else
        discard word
        skipDots n
        skipArguments n
    else if w == "import" then skipImport n
    else if w == "asserts" && (← would (do check sameLine; discard word)) then
      skip
      if ← eatWord "is" then discard (skipType true n)
    else
      skipDots n
      skipArguments n

/-- Passes over the rest of a template after the type in a hole.  Further types may follow in the
same hole. -/
def skipTemplate : Nat → Reader Unit
  | 0 => failure
  | n + 1 => do
    match ← next? with
    | some ⟨.template _ false isLast, _⟩ => do
      skip
      if isLast then return
      discard (skipType true n)
      skipTemplate n
    | _ => do
      discard (skipType true n)
      skipTemplate n

/-- Passes over what another file is asked for. -/
def skipImport : Nat → Reader Unit
  | 0 => failure
  | n + 1 => do
    mark "("
    match ← take with
    | .string _ => do
      if ← eatMark "," then skipObject value n
      mark ")"
    | _ => failure
    skipDots n
    skipArguments n

/-- Passes over the arguments of a type, if there are any in the same line. -/
def skipArguments : Nat → Reader Unit
  | 0 => failure
  | n + 1 => do
    if ← eatMarkHere "<" then
      if ← atMark ">" then failure
      listUntil ">" (discard (skipType true n)) n

/-- Passes over the parameters of a generic declaration, if there are any. -/
def skipGenerics : Nat → Reader Unit
  | 0 => failure
  | n + 1 => do
    if ← eatMark "<" then
      if ← atMark ">" then failure
      listUntil ">" (do
        allow ["const", "in", "out"] (← takeModifiers ("const" :: modifiers) [] n)
        discard newName
        if ← eatWord "extends" then discard (skipType true n)
        if ← eatMark "=" then discard (skipType true n)) n

/-- Passes over parameters in their brackets, with some words that may stand in front of them.  The
first may be `this` if `hasThis`. -/
def skipParameters (words : List String) (hasThis : Bool) : Nat → Reader Unit
  | 0 => failure
  | n + 1 => do
    mark "("
    if ← (if hasThis then eatWord "this" else pure false) then
      skipAnnotation n
      if !(← atMark ")") then mark ","
    let found ← takeParameters words n
    countRepeated (found.all (·.2)) (found.flatMap (·.1))

/-- Takes parameters up to the closing bracket, each with its names and with whether it is no more
than a name.  One that takes all the rest is the last, and its name is not told. -/
def takeParameters (words : List String) : Nat → Reader (List (List (List Char) × Bool))
  | 0 => failure
  | n + 1 => do
    if ← eatMark ")" then return []
    if ← eatMark "..." then
      discard (takePattern value n)
      skipAnnotation n
      mark ")"
      return []
    allow words (← takeModifiers modifiers [] n)
    let isName ← atName
    let xs ← takePattern value n
    discard (eatMark "?")
    skipAnnotation n
    skipDefault value
    if ← eatMark "," then return (xs, isName) :: (← takeParameters words n)
    mark ")"
    return [(xs, isName)]

/-- Passes over the type of a result, which may be what the result says about a parameter. -/
def skipResult (asks : Bool) : Nat → Reader Unit
  | 0 => failure
  | n + 1 => do
    discard (attempt (do
      discard name
      check (eatWordHere "is")))
    discard (skipType asks n)

/-- Passes over a colon and a type, if there is a colon. -/
def skipAnnotation : Nat → Reader Unit
  | 0 => failure
  | n + 1 => do
    if ← eatMark ":" then discard (skipType true n)

/-- Passes over parameters and the type of the result. -/
def skipSignature (constructs : Bool) : Nat → Reader Unit
  | 0 => failure
  | n + 1 => do
    skipGenerics n
    skipParameters ["readonly"] (!constructs) n
    if ← eatMark ":" then skipResult true n

/-- Passes over an element of a tuple.  One with a label says in front of the type whether it may be
missing. -/
def skipElement : Nat → Reader Unit
  | 0 => failure
  | n + 1 => do
    if ← would labelled then
      let isRest ← eatMark "..."
      discard word
      if ← eatMark "?" then
        if isRest then failure
      mark ":"
      if ← eatMark "..." then discard (skipType true n)
      else if (← skipType true n) = .optional then failure
    else
      discard (eatMark "...")
      discard (skipType true n)

/-- Passes over a type with one member for each key. -/
def skipMapped : Nat → Reader Unit
  | 0 => failure
  | n + 1 => do
    mark "\x7b"
    if ← eatSign then check (eatWord "readonly")
    else discard (eatWord "readonly")
    mark "["
    discard newName
    check (eatWord "in")
    discard (skipType true n)
    if ← eatWord "as" then discard (skipType true n)
    mark "]"
    if ← eatSign then mark "?" else discard (eatMark "?")
    skipAnnotation n
    discard (eatMark ";")
    mark "\x7d"

/-- Passes over the members of an object type, up to the closing brace.  Nothing has to stand
between them. -/
def skipMembers : Nat → Reader Unit
  | 0 => failure
  | n + 1 => do
    if ← eatMark "\x7d" then return
    skipMember n
    if !(← eatMark ",") then discard (eatMark ";")
    skipMembers n

/-- Passes over an index signature: a type for the keys and one for what they hold. -/
def skipIndex : Nat → Reader Unit
  | 0 => failure
  | n + 1 => do
    mark "["
    discard newName
    mark ":"
    discard (skipType true n)
    mark "]"
    mark ":"
    discard (skipType true n)

/-- Passes over one member of an object type. -/
def skipMember : Nat → Reader Unit
  | 0 => failure
  | n + 1 => do
    if (← atMark "(") || (← atMark "<") then skipSignature false n
    else if ← would (do
        check (eatWord "new")
        check (do return (← atMark "(") || (← atMark "<"))) then
      skip
      skipSignature true n
    else
      let found ← takeModifiers modifiers [] n
      if ← would (do check (eatWord "get"); check atKey) then
        skip
        skipKey value
        skipParameters ["readonly"] true n
        if ← eatMark ":" then skipResult true n
        allow ["readonly"] found
      else if ← would (do check (eatWord "set"); check atKey) then
        skip
        skipKey value
        skipParameters ["readonly"] true n
        allow ["readonly"] found
      else if (← atMark "[") && (← would opensIndex) then
        skipIndex n
        allow ["readonly", "static"] found
      else
        skipKey value
        discard (eatMark "?")
        if (← atMark "(") || (← atMark "<") then
          skipSignature false n
          allow [] found
        else
          skipAnnotation n
          allow ["readonly"] found

end

end

end TypeScript
end ScriptWorkers
