import ScriptWorkers.Decimal.Layout
import ScriptWorkers.Json.Basic

/-!
# Writing JSON

Compact text: no blanks, the fields of an object in their order.  In strings the quote, the
backslash and the characters below U+0020 are escaped, everything else is written as it is.  Doubles
are written in `Decimal.Layout.wire`; those that are no numbers have no JSON form and are written as
`null`.

`Json.write` gives characters, which is what proofs are about, and `Json.render` a string.
-/

namespace ScriptWorkers.Json

/-- A hexadecimal digit, lower case. -/
def hexDigit (n : Nat) : Char := Nat.digitChar (n % 16)

/-- The written form of a character inside a string. -/
def escape (c : Char) : List Char :=
  if c = '"' then ['\\', '"']
  else if c = '\\' then ['\\', '\\']
  else if c = '\n' then ['\\', 'n']
  else if c = '\r' then ['\\', 'r']
  else if c = '\t' then ['\\', 't']
  else if c.toNat = 8 then ['\\', 'b']
  else if c.toNat = 12 then ['\\', 'f']
  else if c.toNat < 32 then ['\\', 'u', '0', '0', hexDigit (c.toNat / 16), hexDigit c.toNat]
  else [c]

def quoted (s : String) : List Char :=
  '"' :: (s.toList.flatMap escape ++ ['"'])

/-- The digits of a whole number. -/
def intText : Int → List Char
  | .ofNat n => Decimal.digitText n
  | .negSucc n => '-' :: Decimal.digitText (n + 1)

/-- A double, `null` unless it is finite. -/
def floatText (f : Float) : List Char :=
  if f.isFinite then Decimal.Layout.wire.render f else "null".toList

/-- Pieces with commas between them. -/
def separated : List (List Char) → List Char
  | [] => []
  | [p] => p
  | p :: rest => p ++ ',' :: separated rest

mutual

/-- The text of a value. -/
def write : Json → List Char
  | null => "null".toList
  | bool true => "true".toList
  | bool false => "false".toList
  | int n => intText n
  | float f => floatText f
  | str s => quoted s
  | arr items => '[' :: (separated (writeItems items) ++ [']'])
  | obj fields => '{' :: (separated (writeFields fields) ++ ['}'])

/-- The texts of the items of an array. -/
def writeItems : List Json → List (List Char)
  | [] => []
  | v :: rest => write v :: writeItems rest

/-- The texts of the fields of an object. -/
def writeFields : List (String × Json) → List (List Char)
  | [] => []
  | (k, v) :: rest => (quoted k ++ ':' :: write v) :: writeFields rest

end

/-- The text of a value. -/
def render (v : Json) : String := String.ofList (write v)

end ScriptWorkers.Json
