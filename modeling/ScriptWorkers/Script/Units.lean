/-!
# Strings of scripts

A script string is a list of 16-bit code units.  A character beyond the first 65536 takes two of
them, a high and a low surrogate.  A surrogate may also stand alone, and such a string has no text;
`Units.text` then shows the unit by an escape.
-/

namespace ScriptWorkers

abbrev Units := List UInt16

namespace Units

def ofChar (c : Char) : Units :=
  let n := c.toNat
  if n < 0x10000 then [n.toUInt16]
  else [(0xD800 + (n - 0x10000) / 0x400).toUInt16, (0xDC00 + (n - 0x10000) % 0x400).toUInt16]

def ofString (s : String) : Units := s.toList.flatMap ofChar

def isHigh (u : UInt16) : Bool := 0xD800 ≤ u && u < 0xDC00

def isLow (u : UInt16) : Bool := 0xDC00 ≤ u && u < 0xE000

def join (hi lo : UInt16) : Char :=
  Char.ofNat (0x10000 + (hi.toNat - 0xD800) * 0x400 + (lo.toNat - 0xDC00))

def hexDigit (upper : Bool) (n : Nat) : Char :=
  let c := Nat.digitChar (n % 16)
  if upper then c.toUpper else c

/-- A unit as an escape of six characters. -/
def escaped (upper : Bool) (u : UInt16) : List Char :=
  let n := u.toNat
  ['\\', 'u'] ++ [n / 4096, n / 256, n / 16, n].map (hexDigit upper)

/-- The characters of a string, each lone surrogate shown by `lone`. -/
def chars (lone : UInt16 → List Char) : Units → List Char
  | [] => []
  | hi :: lo :: rest =>
    if isHigh hi && isLow lo then join hi lo :: chars lone rest
    else if isHigh hi || isLow hi then lone hi ++ chars lone (lo :: rest)
    else Char.ofNat hi.toNat :: chars lone (lo :: rest)
  | [u] => if isHigh u || isLow u then lone u else [Char.ofNat u.toNat]

/-- The text of a string; a lone surrogate is shown by an escape. -/
def text (s : Units) : String := String.ofList (chars (escaped true) s)

def isDigit (u : UInt16) : Bool := 48 ≤ u && u ≤ 57

/-- The number that a string spells as an array index would be: decimal, without leading zeros, and
below the greatest of 32 bits. -/
def index? (s : Units) : Option Nat :=
  if s.isEmpty || !s.all isDigit || s.length > 10 || (s.head? == some 48 && s.length > 1) then none
  else
    let n := s.foldl (fun n u ↦ 10 * n + (u.toNat - 48)) 0
    if n < UInt32.size - 1 then some n else none

end Units

end ScriptWorkers
