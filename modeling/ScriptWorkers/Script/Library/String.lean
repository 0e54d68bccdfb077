import ScriptWorkers.Script.Library.Array
import ScriptWorkers.Text.Case
import ScriptWorkers.Text.Normal

/-!
# Strings

The functions of the class of strings and the methods of strings.  Places in a string are counted in
code units.
-/

namespace ScriptWorkers
namespace Script

open Eval

/-! ## Parts of strings -/

/-- The first place from `i` on where a string stands in another. -/
def findUnits (part : Units) (i : Nat) : Units → Option Nat
  | [] => if part.isEmpty then some i else none
  | u :: rest => if part.isPrefixOf (u :: rest) then some i else findUnits part (i + 1) rest

/-- The last place up to `n` where a string stands in another. -/
def findLastUnits (part s : Units) : Nat → Option Nat
  | 0 => if part.isPrefixOf s then some 0 else none
  | n + 1 => if part.isPrefixOf (s.drop (n + 1)) then some (n + 1) else findLastUnits part s n

/-- The pieces of a string between the places where another one stands. -/
def splitUnits (separator : Units) (piece : Units) (s : Units) : Nat → List Units
  | 0 => [piece.reverse ++ s]
  | n + 1 =>
    match s with
    | [] => [piece.reverse]
    | u :: rest =>
      if separator.isPrefixOf s then
        piece.reverse :: splitUnits separator [] (s.drop separator.length) n
      else splitUnits separator (u :: piece) rest n

def isBlankUnit (u : UInt16) : Bool := isSpace (Char.ofNat u.toNat)

/-- A string without the blanks at its start. -/
def trimStart (s : Units) : Units := s.dropWhile isBlankUnit

/-- A string without the blanks at its end. -/
def trimEnd (s : Units) : Units := (s.reverse.dropWhile isBlankUnit).reverse

/-- The characters at the front of a string, up to a surrogate that stands alone, and what
follows. -/
def splitText : Units → List Char × Units
  | [] => ([], [])
  | hi :: lo :: rest =>
    if Units.isHigh hi && Units.isLow lo then
      let (cs, tail) := splitText rest
      (Units.join hi lo :: cs, tail)
    else if Units.isHigh hi || Units.isLow hi then ([], hi :: lo :: rest)
    else
      let (cs, tail) := splitText (lo :: rest)
      (Char.ofNat hi.toNat :: cs, tail)
  | [u] => if Units.isHigh u || Units.isLow u then ([], [u]) else ([Char.ofNat u.toNat], [])

/-- A string with its texts between lone surrogates changed; there are at most `n` of those. -/
def mapTexts (f : List Char → List Char) (s : Units) : Nat → Units
  | 0 => s
  | n + 1 =>
    let (cs, rest) := splitText s
    (f cs).flatMap Units.ofChar ++
      (match rest with
        | [] => []
        | u :: rest => u :: mapTexts f rest n)

/-- A string with something else in place of its lone surrogates. -/
def mapLone (f : UInt16 → UInt16) : Units → Units
  | [] => []
  | hi :: lo :: rest =>
    if Units.isHigh hi && Units.isLow lo then hi :: lo :: mapLone f rest
    else (if Units.isHigh hi || Units.isLow hi then f hi else hi) :: mapLone f (lo :: rest)
  | [u] => [if Units.isHigh u || Units.isLow u then f u else u]

/-- A string repeated until it has a length. -/
def filledTo (n : Nat) (filler : Units) : Units :=
  (List.replicate (n / filler.length + 1) filler).flatten.take n

/-! ## Replacements -/

/-- What is found in a string: its place, the groups inside it, and their names. -/
structure Found where
  text : Units
  place : Nat
  groups : List Value := []
  names : Value := .undefined

/-- The text that a template stands for, with references to what has been found.  There are at most
`n` characters. -/
def substitute (call : Caller) (s : Units) (found : Found) (template : Units) : Nat → Eval Units
  | 0 => return template
  | n + 1 => do
    let go (rest : Units) : Eval Units := substitute call s found rest n
    let group (k : Nat) : Eval Units :=
      match (found.groups[k - 1]?).getD .undefined with
      | .undefined => return []
      | v => toUnits call v
    match template with
    | [] => return []
    | 36 :: 36 :: rest => do return 36 :: (← go rest)
    | 36 :: 38 :: rest => do return found.text ++ (← go rest)
    | 36 :: 96 :: rest => do return s.take found.place ++ (← go rest)
    | 36 :: 39 :: rest => do return s.drop (found.place + found.text.length) ++ (← go rest)
    | 36 :: 60 :: rest =>
      let name := rest.takeWhile (· ≠ 62)
      match found.names, rest.drop name.length with
      | .undefined, _ | _, [] => do return 36 :: 60 :: (← go rest)
      | names, _ :: tail => do
        match ← getMember call names (.ofUnits name) with
        | .undefined => go tail
        | v => do return (← toUnits call v) ++ (← go tail)
    | 36 :: d :: rest =>
      let one := if Units.isDigit d then d.toNat - 48 else 0
      let two := match rest with
        | e :: _ => if Units.isDigit d && Units.isDigit e then one * 10 + (e.toNat - 48) else 0
        | [] => 0
      if 0 < two && two ≤ found.groups.length then return (← group two) ++ (← go rest.tail)
      else if 0 < one && one ≤ found.groups.length then return (← group one) ++ (← go rest)
      else return 36 :: (← go (d :: rest))
    | u :: rest => do return u :: (← go rest)

/-- What stands for something that has been found: what a function makes of it, or a template. -/
def replacementFor (call : Caller) (replacement : Ref ⊕ Units) (s : Units) (found : Found) :
    Eval Units := do
  match replacement with
  | .inl f =>
    let names := match found.names with
      | .undefined => []
      | v => [v]
    let args := Value.string found.text :: found.groups ++ [.ofNat found.place, .string s] ++ names
    toUnits call (← call f (.call .undefined) args)
  | .inr template => substitute call s found template (template.length + 1)

/-- The function or the template that a replacement is. -/
def replacementOf (call : Caller) (v : Value) : Eval (Ref ⊕ Units) := do
  match (← heap).function? v with
  | some f => return .inl f
  | none => return .inr (← toUnits call v)

/-- All places where a string stands in another, without overlap; there are at most `n`. -/
def placesOf (part s : Units) (i : Nat) : Nat → List Nat
  | 0 => []
  | n + 1 =>
    match findUnits part i (s.drop i) with
    | some j => if s.length < j then [] else j :: placesOf part s (j + max 1 part.length) n
    | none => []

/-- A string with the given parts replaced. -/
def replaceAt (call : Caller) (replacement : Ref ⊕ Units) (s : Units) (finds : List Found) :
    Eval Units := do
  let (result, done) ← finds.foldlM (fun (result, done) found ↦ do
    let text ← replacementFor call replacement s found
    if found.place < done then return (result, done)
    return (result ++ (s.take found.place).drop done ++ text, found.place + found.text.length))
      ([], 0)
  return result ++ s.drop done

/-! ## Methods -/

/-- The string that a method is called on. -/
def thisUnits (call : Caller) (this : Value) : Eval Units := do
  requireSomething this
  toUnits call this

/-- The value is a pattern, or says so. -/
def isPattern (call : Caller) (v : Value) : Eval Bool := do
  match v with
  | .object r =>
    match ← getMember call v (Builtin.key "[Symbol.match]") with
    | .undefined =>
      match (← object r).kind with
      | .regexp .. => return true
      | _ => return false
    | b => return truthy b
  | _ => return false

/-- The string to look for, which is no pattern. -/
def soughtUnits (call : Caller) (name : String) (v : Value) : Eval Units := do
  if ← isPattern call v then
    typeError ("First argument to String.prototype." ++ name ++ " must not be a regular expression")
  toUnits call v

/-- A place from the front, cut off at the ends of a string. -/
def clampedPlace (length : Nat) (f : Float) : Nat := placeIn length (if f < 0.0 then 0.0 else f)

/-- A place that an argument gives, cut off at the ends of a string. -/
def clampedOf (call : Caller) (length : Nat) (v : Value) (default : Nat) : Eval Nat := do
  match v with
  | .undefined => return default
  | v => return clampedPlace length (← toWhole call v)

/-- The code unit at a place that an argument gives, counted from the front. -/
def unitAt (call : Caller) (s : Units) (v : Value) : Eval (Option UInt16) := do
  let f ← toWhole call v
  return if f < 0.0 || f ≥ s.length.toFloat then none else s[f.toUInt64.toNat]?

/-- Fills a string up to a length. -/
def padded (atStart : Bool) : Caller → Value → List Value → Eval Value :=
  fun call this args ↦ do
    let s ← thisUnits call this
    let n := lengthOfFloat (← toNumber call (argument args 0))
    if n ≤ s.length then return .string s
    let filler ← match argument args 1 with
      | .undefined => pure [32]
      | v => toUnits call v
    if filler.isEmpty then return .string s
    let filling := filledTo (n - s.length) filler
    return .string (if atStart then filling ++ s else s ++ filling)

/-- Changes the string that a method is called on. -/
def changing (f : Units → Units) : Caller → Value → List Value → Eval Value :=
  fun call this _ ↦ do return .string (f (← thisUnits call this))

def changingText (f : List Char → List Char) : Caller → Value → List Value → Eval Value :=
  changing fun s ↦ mapTexts f s (s.length + 1)

/-- Hands the work over to a method of an argument under a symbol, if it has one. -/
def delegated (symbol : String) (call : Caller) (this : Value) (args : List Value)
    (otherwise : Eval Value) : Eval Value := do
  let first := argument args 0
  if first.isNothing then otherwise
  else
    match ← getMethod call first (Builtin.key symbol) with
    | some m => call m (.call first) (this :: args.tail)
    | none => otherwise

/-- Replaces the first place, or all places, where a string stands. -/
def replacing (all : Bool) : Caller → Value → List Value → Eval Value :=
  fun call this args ↦ do
    requireSomething this
    delegated "[Symbol.replace]" call this [argument args 0, argument args 1] do
      let s ← toUnits call this
      let part ← toUnits call (argument args 0)
      let replacement ← replacementOf call (argument args 1)
      let places := if all then placesOf part s 0 (s.length + 1) else (findUnits part 0 s).toList
      return .string
        (← replaceAt call replacement s (places.map fun i ↦ { text := part, place := i }))

/-- Functions of the class of strings. -/
def stringStatics : List Builtin := [
  ⟨"raw", 1, fun call _ args ↦ do
    let cooked ← toObject (argument args 0)
    let raw ← toObject (← getNamed call (.object cooked) "raw")
    let n ← lengthOf call (.object raw)
    let parts ← (List.range n).mapM fun i ↦ do
      let part ← toUnits call (← itemAt call raw i)
      let next ← match (args.tail)[i]? with
        | some v => if i + 1 < n then toUnits call v else pure []
        | none => pure []
      return part ++ next
    return .string parts.flatten⟩,
  ⟨"fromCharCode", 1, fun call _ args ↦ do
    return .string (← args.mapM fun v ↦ do return (← toWord call v).toUInt16)⟩,
  ⟨"fromCodePoint", 1, fun call _ args ↦ do
    let parts ← args.mapM fun v ↦ do
      let f ← toNumber call v
      if !(f.isFinite && f.floor == f) then
        rangeError ("codepoint \x60" ++ plainNumber f ++ "\x60 is not an integer")
      if f < 0.0 || f > 1114111.0 then
        rangeError ("codepoint \x60" ++ plainNumber f ++ "\x60 outside of Unicode range")
      let n := f.toUInt64.toNat
      return if n < 0x10000 then [n.toUInt16] else Units.ofChar (Char.ofNat n)
    return .string parts.flatten⟩]

def stringMethods : List Builtin := [
  ⟨"at", 1, fun call this args ↦ do
    let s ← thisUnits call this
    match ← insideOf call s.length (argument args 0) with
    | some i => return .string ((s.drop i).take 1)
    | none => return .undefined⟩,
  ⟨"charAt", 1, fun call this args ↦ do
    let s ← thisUnits call this
    return .string (← unitAt call s (argument args 0)).toList⟩,
  ⟨"charCodeAt", 1, fun call this args ↦ do
    let s ← thisUnits call this
    match ← unitAt call s (argument args 0) with
    | some u => return .ofNat u.toNat
    | none => return .number .nan⟩,
  ⟨"codePointAt", 1, fun call this args ↦ do
    let s ← thisUnits call this
    let f ← toWhole call (argument args 0)
    if f < 0.0 || f ≥ s.length.toFloat then return .undefined
    match s.drop f.toUInt64.toNat with
    | hi :: lo :: _ =>
      return .ofNat (if Units.isHigh hi && Units.isLow lo then (Units.join hi lo).toNat
        else hi.toNat)
    | [u] => return .ofNat u.toNat
    | [] => return .undefined⟩,
  ⟨"concat", 1, fun call this args ↦ do
    let s ← thisUnits call this
    return .string (s ++ (← args.mapM (toUnits call)).flatten)⟩,
  ⟨"endsWith", 1, fun call this args ↦ do
    let s ← thisUnits call this
    let part ← soughtUnits call "endsWith" (argument args 0)
    let stop ← clampedOf call s.length (argument args 1) s.length
    return .bool (part.isSuffixOf (s.take stop))⟩,
  ⟨"includes", 1, fun call this args ↦ do
    let s ← thisUnits call this
    let part ← soughtUnits call "includes" (argument args 0)
    let start ← clampedOf call s.length (argument args 1) 0
    return .bool (findUnits part start (s.drop start)).isSome⟩,
  ⟨"indexOf", 1, fun call this args ↦ do
    let s ← thisUnits call this
    let part ← toUnits call (argument args 0)
    let start ← clampedOf call s.length (argument args 1) 0
    return ((findUnits part start (s.drop start)).map .ofNat).getD minusOne⟩,
  ⟨"isWellFormed", 0, fun call this _ ↦ do
    let s ← thisUnits call this
    return .bool (mapLone (fun _ ↦ 0xFFFD) s == s)⟩,
  ⟨"lastIndexOf", 1, fun call this args ↦ do
    let s ← thisUnits call this
    let part ← toUnits call (argument args 0)
    let f ← toNumber call (argument args 1)
    let start := if f.isNaN then s.length else clampedPlace s.length (wholePart f)
    return ((findLastUnits part s start).map .ofNat).getD minusOne⟩,
  ⟨"localeCompare", 1, fun call this args ↦ do
    let s ← thisUnits call this
    let t ← toUnits call (argument args 0)
    return if s == t then .ofNat 0 else if s < t then minusOne else .ofNat 1⟩,
  ⟨"normalize", 0, fun call this args ↦ do
    let s ← thisUnits call this
    let form ← match argument args 0 with
      | .undefined => pure "NFC"
      | v => do pure (← toUnits call v).text
    match Text.NormalForm.ofName? form with
    | some f => return .string (mapTexts (Text.normal f) (mapLone (fun _ ↦ 0xFFFD) s) 1)
    | none => rangeError "The normalization form is invalid."⟩,
  ⟨"padEnd", 1, padded false⟩,
  ⟨"padStart", 1, padded true⟩,
  ⟨"repeat", 1, fun call this args ↦ do
    let s ← thisUnits call this
    let f ← toWhole call (argument args 0)
    if f < 0.0 || f.isInf || f * s.length.toFloat > 4294967295.0 then
      rangeError
        ("repeat count must be a positive finite number " ++
          "that doesn't overflow the maximum string length (2^32 - 1)")
    if s.isEmpty then return .string []
    return .string (List.replicate f.toUInt64.toNat s).flatten⟩,
  ⟨"replace", 2, replacing false⟩,
  ⟨"replaceAll", 2, fun call this args ↦ do
    requireSomething this
    let first := argument args 0
    if !first.isNothing && (← isPattern call first) then
      let flags ← getNamed call first "flags"
      requireSomething flags
      if !(← toUnits call flags).contains 103 then
        typeError "String.prototype.replaceAll called with a non-global RegExp argument"
    replacing true call this args⟩,
  ⟨"slice", 2, fun call this args ↦ do
    let s ← thisUnits call this
    let start ← placeOf call s.length (argument args 0) 0
    let stop ← placeOf call s.length (argument args 1) s.length
    return .string ((s.take stop).drop start)⟩,
  ⟨"split", 2, fun call this args ↦ do
    requireSomething this
    delegated "[Symbol.split]" call this [argument args 0, argument args 1] do
      let s ← toUnits call this
      let limit ← match argument args 1 with
        | .undefined => pure (UInt32.size - 1)
        | v => do pure (← toWord call v).toNat
      let pieces ← match argument args 0 with
        | .undefined => pure [s]
        | v => do
          let separator ← toUnits call v
          pure (if separator.isEmpty then s.map fun u ↦ [u]
            else splitUnits separator [] s (s.length + 1))
      makeValue (.ofValues ((pieces.take limit).map .string))⟩,
  ⟨"startsWith", 1, fun call this args ↦ do
    let s ← thisUnits call this
    let part ← soughtUnits call "startsWith" (argument args 0)
    let start ← clampedOf call s.length (argument args 1) 0
    return .bool (part.isPrefixOf (s.drop start))⟩,
  ⟨"substring", 2, fun call this args ↦ do
    let s ← thisUnits call this
    let a ← clampedOf call s.length (argument args 0) 0
    let b ← clampedOf call s.length (argument args 1) s.length
    return .string ((s.take (max a b)).drop (min a b))⟩,
  ⟨"toLocaleLowerCase", 0, changingText Text.inSmall⟩,
  ⟨"toLocaleUpperCase", 0, changingText Text.inCapitals⟩,
  ⟨"toLowerCase", 0, changingText Text.inSmall⟩,
  ⟨"toUpperCase", 0, changingText Text.inCapitals⟩,
  ⟨"toWellFormed", 0, changing (mapLone fun _ ↦ 0xFFFD)⟩,
  ⟨"trim", 0, changing fun s ↦ trimEnd (trimStart s)⟩,
  ⟨"trimEnd", 0, changing trimEnd⟩,
  ⟨"trimStart", 0, changing trimStart⟩,
  ⟨"[Symbol.iterator]", 0, fun call this _ ↦ do
    makeWalk .stringIterator (.units (← thisUnits call this))⟩]

end Script
end ScriptWorkers
