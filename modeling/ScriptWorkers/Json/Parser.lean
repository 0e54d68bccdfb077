import ScriptWorkers.Json.Printer

/-!
# Reading JSON

`Json.parse` reads one value and nothing after it but blanks.  Arrays and objects may be nested 127
deep; the bracket that goes deeper is an error of its own, `Json.ParseError.tooDeep`, with its place
in the text.

## Numbers

A number without point and exponent that fits in 64 bits is whole; every other number is a double,
computed in three steps: the digits, point left out, are collected in a 64-bit word as long as they
fit, further digits before the point counting only for the exponent and further digits behind it not
at all; the word is rounded to a double; and that is multiplied or divided by a power of ten, which
rounds once more.  A quotient is therefore not always the nearest double: `9007199254740991.0` is
read as `9007199254740990`.  Minus zero is a double.
-/

namespace ScriptWorkers.Json

/-- Why a text is no JSON value. -/
inductive ParseError where
  /-- The bracket at this place, counted in bytes from one, is nested too deep. -/
  | tooDeep (column : Nat)
  | malformed
deriving Repr, DecidableEq

def ParseError.message : ParseError → String
  | tooDeep column => s!"recursion limit exceeded at line 1 column {column}"
  | malformed => "malformed text"

/-- The number of arrays and objects that may not be entered. -/
def depthLimit : Nat := 128

/-! ## Strings -/

def hexValue? (c : Char) : Option Nat :=
  if '0' ≤ c ∧ c ≤ '9' then some (c.toNat - '0'.toNat)
  else if 'a' ≤ c ∧ c ≤ 'f' then some (c.toNat - 'a'.toNat + 10)
  else if 'A' ≤ c ∧ c ≤ 'F' then some (c.toNat - 'A'.toNat + 10)
  else none

/-- The value of four hexadecimal digits. -/
def hexWord? (a b c d : Char) : Option Nat := do
  return (← hexValue? a) * 4096 + (← hexValue? b) * 256 + (← hexValue? c) * 16 + (← hexValue? d)

/-- The character of a short escape. -/
def unescape? (c : Char) : Option Char :=
  if c = '"' ∨ c = '\\' ∨ c = '/' then some c
  else if c = 'n' then some '\n'
  else if c = 'r' then some '\r'
  else if c = 't' then some '\t'
  else if c = 'b' then some (Char.ofNat 8)
  else if c = 'f' then some (Char.ofNat 12)
  else none

/-- A unit of the first half of a surrogate pair. -/
def isHigh (n : Nat) : Bool := 0xD800 ≤ n && n < 0xDC00

/-- A unit of the second half. -/
def isLow (n : Nat) : Bool := 0xDC00 ≤ n && n < 0xE000

/-- The rest of a string up to its closing quote; `acc` holds the characters so far, the last one
first. -/
def stringBody (acc : List Char) : List Char → Option (List Char × List Char)
  | [] => none
  | '"' :: rest => some (acc.reverse, rest)
  | '\\' :: 'u' :: a :: b :: c :: d :: '\\' :: 'u' :: e :: f :: g :: h :: rest =>
    match hexWord? a b c d with
    | none => none
    | some n =>
      if isHigh n then
        match hexWord? e f g h with
        | none => none
        | some m =>
          if isLow m then
            stringBody (Char.ofNat (0x10000 + (n - 0xD800) * 0x400 + (m - 0xDC00)) :: acc) rest
          else none
      else if isLow n then none
      else stringBody (Char.ofNat n :: acc) ('\\' :: 'u' :: e :: f :: g :: h :: rest)
  | '\\' :: 'u' :: a :: b :: c :: d :: rest =>
    match hexWord? a b c d with
    | none => none
    | some n => if isHigh n || isLow n then none else stringBody (Char.ofNat n :: acc) rest
  | '\\' :: c :: rest =>
    match unescape? c with
    | none => none
    | some x => stringBody (x :: acc) rest
  | c :: rest => if c.toNat < 32 ∨ c = '\\' then none else stringBody (c :: acc) rest

/-! ## Numbers -/

/-- Adds digits to `word` as long as the result fits in 64 bits. -/
def collect (word : Nat) : List Char → Nat × List Char
  | [] => (word, [])
  | c :: rest =>
    if c.isDigit ∧ word * 10 + (c.toNat - '0'.toNat) < UInt64.size then
      collect (word * 10 + (c.toNat - '0'.toNat)) rest
    else (word, c :: rest)

/-- `f * 10 ^ e` by one multiplication or division; exponents below the smallest power of ten are
taken in steps. -/
def scale (f : Float) (e : Int) : Nat → Option Float
  | 0 => none
  | fuel + 1 =>
    if e.natAbs ≤ 308 then
      let power := Float.ofScientific 1 false e.natAbs
      if 0 ≤ e then
        let product := f * power
        if product.isInf then none else some product
      else some (f / power)
    else if f == 0.0 then some f
    else if 0 ≤ e then none
    else scale (f / 1e308) (e + 308) fuel

/-- The double with the given sign, collected digits and exponent. -/
def assemble (negative : Bool) (word : Nat) (e : Int) : Option Float :=
  (scale word.toUInt64.toFloat e 8).map fun f ↦ if negative then -f else f

/-- An exponent part, if there is one, and the double it completes. -/
def exponent (negative : Bool) (word : Nat) (e : Int) : List Char → Option (Float × List Char)
  | c :: rest =>
    if c = 'e' ∨ c = 'E' then
      let (minus, rest) := Decimal.splitSign rest
      let ds := rest.takeWhile Char.isDigit
      if ds.isEmpty then none
      else
        let x : Int := Decimal.valueOf ds
        (assemble negative word (if minus then e - x else e + x)).map
          fun f ↦ (f, rest.dropWhile Char.isDigit)
    else (assemble negative word e).map fun f ↦ (f, c :: rest)
  | [] => (assemble negative word e).map fun f ↦ (f, [])

/-- The digits behind the point and what follows them. -/
def fraction (negative : Bool) (word : Nat) (e : Int) (cs : List Char) :
    Option (Float × List Char) :=
  let (word', rest) := collect word cs
  let used := cs.length - rest.length
  if (cs.takeWhile Char.isDigit).isEmpty then none
  else exponent negative word' (e - used) (rest.dropWhile Char.isDigit)

/-- What a number without point and exponent is. -/
def whole (negative : Bool) (word : Nat) : Json :=
  if !negative then int word
  else if word = 0 ∨ UInt64.size < 2 * word then float (-word.toUInt64.toFloat)
  else int (-word)

/-- The number after its sign. -/
def magnitude (negative : Bool) : List Char → Option (Json × List Char)
  | [] => none
  | c :: rest =>
    if !c.isDigit then none
    else if c = '0' ∧ (rest.takeWhile Char.isDigit).length ≠ 0 then none
    else
      let (word, rest') := collect 0 (c :: rest)
      let extra := (rest'.takeWhile Char.isDigit).length
      let tail := rest'.dropWhile Char.isDigit
      match tail with
      | '.' :: places => (fraction negative word extra places).map fun r ↦ (float r.1, r.2)
      | 'e' :: _ | 'E' :: _ => (exponent negative word extra tail).map fun r ↦ (float r.1, r.2)
      | _ =>
        if extra = 0 then some (whole negative word, tail)
        else (assemble negative word extra).map fun f ↦ (float f, tail)

def number : List Char → Option (Json × List Char)
  | '-' :: rest => magnitude true rest
  | cs => magnitude false cs

/-! ## Values -/

/-- A blank between the parts of a text. -/
def isBlank (c : Char) : Bool := c = ' ' || c = '\n' || c = '\t' || c = '\r'

/-- The text without its leading blanks. -/
def skipBlanks (cs : List Char) : List Char := cs.dropWhile isBlank

/-- Why reading stopped: at a bracket nested too deep, with the text from it on, or at anything
else. -/
inductive Stop where
  | tooDeep (rest : List Char)
  | malformed

/-- The text after `word`, if it starts with it. -/
def expect (word rest : List Char) : Except Stop (List Char) :=
  if word.isPrefixOf rest then .ok (rest.drop word.length) else .error .malformed

mutual

/-- One value, with at most `room` further levels of nesting, and the text after it. -/
def value (room : Nat) (cs : List Char) : Nat → Except Stop (Json × List Char)
  | 0 => .error .malformed
  | fuel + 1 =>
    match skipBlanks cs with
    | [] => .error .malformed
    | '"' :: rest =>
      match stringBody [] rest with
      | none => .error .malformed
      | some (s, rest) => .ok (str (String.ofList s), rest)
    | '[' :: rest =>
      match room with
      | 0 => .error (.tooDeep ('[' :: rest))
      | room + 1 =>
        match skipBlanks rest with
        | ']' :: rest => .ok (arr [], rest)
        | rest => do
          let (items, rest) ← values room rest fuel
          return (arr items, rest)
    | '{' :: rest =>
      match room with
      | 0 => .error (.tooDeep ('{' :: rest))
      | room + 1 =>
        match skipBlanks rest with
        | '}' :: rest => .ok (obj [], rest)
        | rest => do
          let (fields, rest) ← members room rest fuel
          return (object fields, rest)
    | c :: rest =>
      if c = 'n' then (expect "ull".toList rest).map fun r ↦ (null, r)
      else if c = 't' then (expect "rue".toList rest).map fun r ↦ (bool true, r)
      else if c = 'f' then (expect "alse".toList rest).map fun r ↦ (bool false, r)
      else
        match number (c :: rest) with
        | none => .error .malformed
        | some r => .ok r

/-- The items of an array from the next one on, up to the closing bracket. -/
def values (room : Nat) (cs : List Char) : Nat → Except Stop (List Json × List Char)
  | 0 => .error .malformed
  | fuel + 1 => do
    let (v, rest) ← value room cs fuel
    match skipBlanks rest with
    | ',' :: rest =>
      let (vs, rest) ← values room rest fuel
      return (v :: vs, rest)
    | ']' :: rest => return ([v], rest)
    | _ => .error .malformed

/-- The fields of an object from the next one on, up to the closing brace. -/
def members (room : Nat) (cs : List Char) : Nat → Except Stop (List (String × Json) × List Char)
  | 0 => .error .malformed
  | fuel + 1 =>
    match skipBlanks cs with
    | '"' :: rest =>
      match stringBody [] rest with
      | none => .error .malformed
      | some (k, rest) =>
        match skipBlanks rest with
        | ':' :: rest => do
          let (v, rest) ← value room rest fuel
          match skipBlanks rest with
          | ',' :: rest =>
            let (fs, rest) ← members room rest fuel
            return ((String.ofList k, v) :: fs, rest)
          | '}' :: rest => return ([(String.ofList k, v)], rest)
          | _ => .error .malformed
        | _ => .error .malformed
    | _ => .error .malformed

end

/-- The number of bytes of a text. -/
def byteLength (cs : List Char) : Nat := cs.foldr (fun c n ↦ c.utf8Size + n) 0

/-- The value of a text. -/
def read (cs : List Char) : Except ParseError Json :=
  match value (depthLimit - 1) cs (2 * cs.length + 2) with
  | .error .malformed => .error .malformed
  | .error (.tooDeep rest) => .error (.tooDeep (byteLength cs - byteLength rest + 1))
  | .ok (v, rest) => if (skipBlanks rest).isEmpty then .ok v else .error .malformed

/-- The value of a text. -/
def parse (s : String) : Except ParseError Json := read s.toList

end ScriptWorkers.Json
