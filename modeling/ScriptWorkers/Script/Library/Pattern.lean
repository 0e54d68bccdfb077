import ScriptWorkers.Pattern.Match
import ScriptWorkers.Pattern.Reader
import ScriptWorkers.Script.Library.String

/-!
# Functions on patterns

A pattern looks for the next place in a string from where it has left off.  Finding all places,
replacing what is found and splitting a string there come down to that; a script may put a function
of its own in its place.
-/

namespace ScriptWorkers
namespace Script

open Eval

/-- The letters that change how a pattern is matched, each with the member that tells whether it is
there. -/
def patternFlags : List (UInt16 × String) :=
  [(100, "hasIndices"), (103, "global"), (105, "ignoreCase"), (109, "multiline"), (115, "dotAll"),
    (117, "unicode"), (118, "unicodeSets"), (121, "sticky")]

/-- What is wrong with the letters of a pattern, if anything. -/
def flagFault? (seen : Units) : Units → Option String
  | [] =>
    if seen.contains 117 && seen.contains 118 then some "cannot use both 'u' and 'v' flags"
    else none
  | u :: rest =>
    if !patternFlags.any (·.1 == u) then some ("invalid regular expression flag " ++ Units.text [u])
    else if seen.contains u then some ("repeated regular expression flag " ++ Units.text [u])
    else flagFault? (u :: seen) rest

def patternObj (parent : Ref) (source flags : Units) : Obj :=
  { kind := .regexp source flags
    parent := some parent
    fields := [(.ofString "lastIndex", .data (.ofNat 0) ⟨true, false, false⟩)] }

/-- The source and the letters of the pattern that a value is. -/
def pattern? (h : Heap) : Value → Option (Units × Units)
  | .object r =>
    match (h.get r).kind with
    | .regexp source flags => some (source, flags)
    | _ => none
  | _ => none

/-- The characters of a source: whole ones, or code units. -/
def patternChars (whole : Bool) : Units → List Nat
  | [] => []
  | hi :: lo :: rest =>
    if whole && Units.isHigh hi && Units.isLow lo then
      (Units.join hi lo).toNat :: patternChars whole rest
    else hi.toNat :: patternChars whole (lo :: rest)
  | [u] => [u.toNat]

/-- The pattern of a source and letters, or what is wrong with it. -/
def compilePattern (source flags : Units) : Except String Pattern.Compiled :=
  let whole := flags.contains 117 || flags.contains 118
  let options : Pattern.Options :=
    { ignoreCase := flags.contains 105, multiline := flags.contains 109,
      dotAll := flags.contains 115, whole := whole }
  Pattern.Compiled.ofChars options (patternChars whole source)

/-- A part of a pattern that an argument gives. -/
def patternPart (call : Caller) : Value → Eval Units
  | .undefined => return []
  | v => toUnits call v

/-- The pattern that arguments stand for. -/
def patternFrom (call : Caller) (parent : Ref) (args : List Value) : Eval Value := do
  let first := argument args 0
  let second := argument args 1
  let (source, flags) ← match pattern? (← heap) first, second with
    | some (source, flags), .undefined => pure (source, flags)
    | some (source, _), v => do pure (source, ← patternPart call v)
    | none, v => do pure (← patternPart call first, ← patternPart call v)
  match flagFault? [] flags with
  | some text => raise .grammar text
  | none =>
    match compilePattern source flags with
    | .error text => raise .grammar ("failed to create matcher: " ++ text)
    | .ok _ => makeValue (patternObj parent source flags)

/-- The source of a pattern as it stands between slashes; `escaped` tells that a backslash comes
before, and `inClass` that a bracket is open. -/
def slashed (escaped inClass : Bool) : Units → Units
  | [] => []
  | u :: rest =>
    if u = 10 then Units.ofString (if escaped then "n" else "\\n") ++ slashed false inClass rest
    else if u = 13 then Units.ofString (if escaped then "r" else "\\r") ++
      slashed false inClass rest
    else if escaped then u :: slashed false inClass rest
    else if u = 92 then u :: slashed true inClass rest
    else if u = 47 && !inClass then 92 :: 47 :: slashed false inClass rest
    else if u = 91 then u :: slashed false true rest
    else if u = 93 then u :: slashed false false rest
    else u :: slashed false inClass rest

/-- The source of a pattern as it can be written. -/
def shownSource (source : Units) : Units :=
  if source.isEmpty then Units.ofString "(?:)" else slashed false false source

/-- A method that tells whether a letter is there. -/
def flagGetter (u : UInt16) (name : String) : Builtin :=
  ⟨name, 0, fun _ this _ ↦ do
    match pattern? (← heap) this, this with
    | some (_, flags), _ => return .bool (flags.contains u)
    | none, .object r =>
      if r = Class.regexp.proto then return .undefined
      typeError ("RegExp.prototype." ++ name ++ " getter called on non-RegExp object")
    | none, _ =>
      typeError ("RegExp.prototype." ++ name ++ " getter called on non-object " ++
        (← shownValue this))⟩

/-- What can be read of patterns. -/
def patternGetters : List Builtin :=
  patternFlags.map (fun (u, name) ↦ flagGetter u name) ++ [
  ⟨"flags", 0, fun call this _ ↦ do
    match this with
    | .object _ =>
      let letters ← patternFlags.filterMapM fun (u, name) ↦ do
        return if truthy (← getNamed call this name) then some u else none
      return .string letters
    | _ => typeError "RegExp.prototype.flags getter called on non-object"⟩,
  ⟨"source", 0, fun _ this _ ↦ do
    match pattern? (← heap) this, this with
    | some (source, _), _ => return .string (shownSource source)
    | none, .object r =>
      if r = Class.regexp.proto then return .ofString "(?:)"
      typeError "RegExp.prototype.source method called on incompatible value"
    | none, _ => typeError "RegExp.prototype.source method called on incompatible value"⟩]

/-! ## Looking for a pattern -/

/-- The key of the place where a pattern goes on. -/
def lastIndexKey : Key := .ofString "lastIndex"

/-- Lets a pattern go on at a place. -/
def putLastIndex (call : Caller) (rx : Ref) (n : Nat) : Eval Unit :=
  setMember call true (.object rx) lastIndexKey (.ofNat n)

/-- The place where a pattern goes on. -/
def lastIndexOf (call : Caller) (rx : Ref) : Eval Nat := do
  return lengthOfFloat (← toNumber call (← getMember call (.object rx) lastIndexKey))

/-- The place behind the character at a place. -/
def placeAfter (whole : Bool) (s : Units) (i : Nat) : Nat :=
  match Pattern.charAfter? whole s.toArray i with
  | some (_, j) => j
  | none => i + 1

/-- A part that has been found, as a value. -/
def partValue (s : Units) : Option (Nat × Nat) → Value
  | some (a, b) => .string ((s.take b).drop a)
  | none => .undefined

/-- The two ends of a part that has been found, as a value. -/
def endsValue : Option (Nat × Nat) → Eval Value
  | some (a, b) => makeValue (.ofValues [.ofNat a, .ofNat b])
  | none => return .undefined

/-- An object that tells what the groups with a name have found, if there are any. -/
def namedGroups (c : Pattern.Compiled) (values : Array Value) : Eval Value := do
  if c.names.isEmpty then return .undefined
  makeValue (c.names.foldl (fun o (name, i) ↦
    o.withData (.ofUnits (name.flatMap fun c ↦ Units.ofChar (Char.ofNat c)))
      (values.getD i .undefined)) {})

/-- What has been found, as an array. -/
def findArray (c : Pattern.Compiled) (withEnds : Bool) (s : Units) (p : Pattern.Progress) :
    Eval Value := do
  let values := p.groups.map (partValue s)
  let place := ((p.groups[0]?).join.map (·.1)).getD 0
  let o := Obj.ofItems (values.toList.map some)
  let o := o.withData (.ofString "index") (.ofNat place)
  let o := o.withData (.ofString "input") (.string s)
  let o := o.withData (.ofString "groups") (← namedGroups c values)
  if withEnds then
    let ends ← p.groups.mapM endsValue
    let all :=
      (Obj.ofItems (ends.toList.map some)).withData (.ofString "groups") (← namedGroups c ends)
    makeValue (o.withData (.ofString "indices") (← makeValue all))
  else makeValue o

/-- Looks for a pattern from where it has left off. -/
def findNext (call : Caller) (rx : Ref) (source flags s : Units) : Eval Value := do
  let last ← lastIndexOf call rx
  let sticky := flags.contains 121
  let moves := flags.contains 103 || sticky
  let start := if moves then last else 0
  if s.length < start then
    if moves then putLastIndex call rx 0
    return .null
  match compilePattern source flags with
  | .error _ => return .null
  | .ok c =>
    let text := s.toArray
    match if sticky then c.at? text start else c.find? text start with
    | none =>
      if moves then putLastIndex call rx 0
      return .null
    | some p =>
      if moves then putLastIndex call rx p.place
      findArray c (flags.contains 100) s p

/-- Looks for a pattern, maybe by a function that a script has put there. -/
def findBy (call : Caller) (rx : Ref) (s : Units) : Eval Value := do
  let exec ← getNamed call (.object rx) "exec"
  match (← heap).function? exec with
  | some f =>
    match ← call f (.call (.object rx)) [.string s] with
    | .object r => return .object r
    | .null => return .null
    | _ => typeError "regexp exec returned neither object nor null"
  | none =>
    match pattern? (← heap) (.object rx) with
    | some (source, flags) => findNext call rx source flags s
    | none => typeError "RegExp.prototype.exec called with invalid value"

/-- All that a pattern finds, at most `n` times.  What is empty does not hold it up. -/
def findAll (call : Caller) (rx : Ref) (whole : Bool) (s : Units) : Nat → Eval (List Value)
  | 0 => throwThe Stop .exhausted
  | n + 1 => do
    match ← findBy call rx s with
    | .object r =>
      let text ← toUnits call (← getMember call (.object r) (.index 0))
      if text.isEmpty then putLastIndex call rx (placeAfter whole s (← lastIndexOf call rx))
      return .object r :: (← findAll call rx whole s n)
    | _ => return []

/-- The letters of a pattern, as it says itself. -/
def flagsOf (call : Caller) (rx : Ref) : Eval Units := do
  toUnits call (← getNamed call (.object rx) "flags")

/-- The letters ask for whole characters. -/
def asksForWhole (flags : Units) : Bool := flags.contains 117 || flags.contains 118

/-- The object that a method of patterns is called on. -/
def thisPattern (name : String) (this : Value) : Eval Ref := do
  match this with
  | .object r => return r
  | _ => typeError ("RegExp.prototype." ++ name ++ " method called on incompatible value")

/-- What has been found, for a replacement. -/
def foundOf (call : Caller) (s : Units) (result : Value) : Eval Found := do
  let n ← lengthOf call result
  let text ← toUnits call (← getMember call result (.index 0))
  let place ← toWhole call (← getNamed call result "index")
  let groups ← (List.range (n - 1)).mapM fun i ↦ do
    match ← getMember call result (.index (i + 1)) with
    | .undefined => return Value.undefined
    | v => return .string (← toUnits call v)
  let names ← getNamed call result "groups"
  return { text := text, place := clampedPlace s.length place, groups := groups, names := names }

/-- A pattern like another one, with other letters. -/
def similarPattern (call : Caller) (rx : Ref) (flags : Units) : Eval Ref := do
  toObject (← patternFrom call Class.regexp.proto [.object rx, .string flags])

/-- The parts of a string between what a pattern finds, from the place `q` on; the last part that
has been taken ends at `p`.  At most `n` places are tried. -/
def splitBy (call : Caller) (splitter : Ref) (whole : Bool) (s : Units) (limit : Nat)
    (acc : Array Value) (p q : Nat) : Nat → Eval (Array Value)
  | 0 => throwThe Stop .exhausted
  | n + 1 => do
    if s.length ≤ q then return acc.push (.string (s.drop p))
    putLastIndex call splitter q
    match ← findBy call splitter s with
    | .object r =>
      let e := min (← lastIndexOf call splitter) s.length
      if e = p then splitBy call splitter whole s limit acc p (placeAfter whole s q) n
      else
        let acc := acc.push (.string ((s.take q).drop p))
        if limit ≤ acc.size then return acc
        let count ← lengthOf call (.object r)
        let groups ← (List.range (count - 1)).mapM fun i ↦
          getMember call (.object r) (.index (i + 1))
        let acc := acc ++ (groups.take (limit - acc.size)).toArray
        if limit ≤ acc.size then return acc
        splitBy call splitter whole s limit acc e e n
    | _ => splitBy call splitter whole s limit acc p (placeAfter whole s q) n

/-! ## Tables -/

def patternMethods : List Builtin := [
  ⟨"exec", 1, fun call this args ↦ do
    match this, pattern? (← heap) this with
    | .object rx, some (source, flags) => do
      findNext call rx source flags (← toUnits call (argument args 0))
    | _, _ => typeError "RegExp.prototype.exec method called on incompatible value"⟩,
  ⟨"test", 1, fun call this args ↦ do
    let rx ← thisPattern "test" this
    match ← findBy call rx (← toUnits call (argument args 0)) with
    | .object _ => return .bool true
    | _ => return .bool false⟩,
  ⟨"toString", 0, fun call this _ ↦ do
    let _ ← thisPattern "toString" this
    let source ← toUnits call (← getNamed call this "source")
    let flags ← toUnits call (← getNamed call this "flags")
    return .string (47 :: (source ++ 47 :: flags))⟩,
  ⟨"[Symbol.match]", 1, fun call this args ↦ do
    let rx ← thisPattern "match" this
    let s ← toUnits call (argument args 0)
    let flags ← flagsOf call rx
    if !flags.contains 103 then return ← findBy call rx s
    putLastIndex call rx 0
    let finds ← findAll call rx (asksForWhole flags) s (2 * s.length + 3)
    if finds.isEmpty then return .null
    let texts ← finds.mapM fun v ↦ do toUnits call (← getMember call v (.index 0))
    makeValue (.ofItems (texts.map fun t ↦ some (.string t)))⟩,
  ⟨"[Symbol.matchAll]", 1, fun call this args ↦ do
    let rx ← thisPattern "matchAll" this
    let s ← toUnits call (argument args 0)
    let flags ← flagsOf call rx
    let matcher ← similarPattern call rx flags
    putLastIndex call matcher (← lastIndexOf call rx)
    makeWalk .patternIterator (.finds matcher s (flags.contains 103) (asksForWhole flags))⟩,
  ⟨"[Symbol.replace]", 2, fun call this args ↦ do
    let rx ← thisPattern "replace" this
    let s ← toUnits call (argument args 0)
    let replacement ← replacementOf call (argument args 1)
    let flags ← flagsOf call rx
    let finds ← if flags.contains 103 then do
        putLastIndex call rx 0
        findAll call rx (asksForWhole flags) s (2 * s.length + 3)
      else do
        match ← findBy call rx s with
        | .object r => pure [Value.object r]
        | _ => pure []
    return .string (← replaceAt call replacement s (← finds.mapM (foundOf call s)))⟩,
  ⟨"[Symbol.search]", 1, fun call this args ↦ do
    let rx ← thisPattern "search" this
    let s ← toUnits call (argument args 0)
    let before ← getMember call this lastIndexKey
    if !before.same (.ofNat 0) then putLastIndex call rx 0
    let result ← findBy call rx s
    let after ← getMember call this lastIndexKey
    if !after.same before then setMember call true this lastIndexKey before
    match result with
    | .object _ => getNamed call result "index"
    | _ => return minusOne⟩,
  ⟨"[Symbol.split]", 2, fun call this args ↦ do
    let rx ← thisPattern "split" this
    let s ← toUnits call (argument args 0)
    let flags ← flagsOf call rx
    let splitter ← similarPattern call rx (if flags.contains 121 then flags else flags ++ [121])
    let limit ← match argument args 1 with
      | .undefined => pure (UInt32.size - 1)
      | v => do pure (← toWord call v).toNat
    if limit = 0 then return ← makeArray []
    if s.isEmpty then
      match ← findBy call splitter s with
      | .object _ => return ← makeArray []
      | _ => return ← makeArray [.string s]
    let parts ← splitBy call splitter (asksForWhole flags) s limit #[] 0 0 (2 * s.length + 3)
    makeArray parts.toList⟩]

/-- Takes the next step of a walk through all that a pattern finds. -/
def nextFind (call : Caller) (this : Value) (_ : List Value) : Eval Value := do
  let complain {α : Type} : Eval α := typeError "\x60this\x60 is not a RegExpStringIterator"
  match this with
  | .object r =>
    match (← object r).kind with
    | .walk .patternIterator (.finds rx s all whole) =>
      match ← findBy call rx s with
      | .object f =>
        if all then
          let text ← toUnits call (← getMember call (.object f) (.index 0))
          if text.isEmpty then putLastIndex call rx (placeAfter whole s (← lastIndexOf call rx))
        else change r fun o ↦ { o with kind := .walk .patternIterator .ended }
        stepResult (.object f) false
      | _ =>
        change r fun o ↦ { o with kind := .walk .patternIterator .ended }
        stepResult .undefined true
    | .walk .patternIterator _ => stepResult .undefined true
    | _ => complain
  | _ => complain

/-- A method of strings that hands its work over to a pattern, which is made of anything else. -/
def byPattern (symbol : String) (flags : Units) (call : Caller) (this : Value) (args : List Value) :
    Eval Value := do
  requireSomething this
  delegated symbol call this [argument args 0] do
    let s ← toUnits call this
    let rx ← patternFrom call Class.regexp.proto [argument args 0, .string flags]
    callFor call (← getMember call rx (Builtin.key symbol)) rx [.string s]

/-- Methods of strings that deal with patterns. -/
def patternStringMethods : List Builtin := [
  ⟨"match", 1, byPattern "[Symbol.match]" []⟩,
  ⟨"matchAll", 1, fun call this args ↦ do
    requireSomething this
    let first := argument args 0
    if !first.isNothing && (← isPattern call first) then
      let flags ← getNamed call first "flags"
      requireSomething flags
      if !(← toUnits call flags).contains 103 then
        typeError "String.prototype.matchAll called with a non-global RegExp argument"
    byPattern "[Symbol.matchAll]" [103] call this args⟩,
  ⟨"search", 1, byPattern "[Symbol.search]" []⟩]

end Script
end ScriptWorkers
