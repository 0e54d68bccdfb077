import ScriptWorkers.Text.Ranges

/-!
# Characters of names

A name starts with a letter, a dollar sign or an underscore, and goes on with these, with digits,
and with marks that belong to a letter.  What is a letter or a mark is a matter of tables.
-/

namespace ScriptWorkers
namespace Text

/-- Where letters start and stop, beyond the first 128 characters. -/
def letterPlaces : Array Nat := placesOf
    "AA 1 A 1 4 1 5 17 1 1F 1 1CA 4 C E 5 7 1 1 1 81 5 1 2 2 4 1 1 6 1 1 3 1 1 1 14 1 53 1 8B 8 A6
    1 26 2 1 6 29 47 1B 4 4 2D 2B 23 2 1 63 1 1 F 2 7 2 A 3 2 1 10 1 1 1E 1D 59 B 1 18 21 9 2 4 1 5
    16 4 1 9 1 3 1 17 19 7 B 5 18 1 6 11 2A 3A 36 3 1 12 1 7 A F 10 4 8 2 2 2 16 1 7 1 1 3 4 3 1 10
    1 D 2 1 3 E 2 A 1 8 6 4 2 2 16 1 7 1 2 1 2 1 2 1F 4 1 1 13 3 10 9 1 3 1 16 1 7 1 2 1 5 3 1 12 1
    F 2 17 1 B 8 2 2 2 16 1 7 1 2 1 5 3 1 1E 2 1 3 F 1 11 1 1 6 3 3 1 4 3 2 1 1 1 2 3 2 3 3 3 C 16
    1 34 8 1 3 1 17 1 10 3 1 1A 3 2 1 2 2 1E 1 4 8 1 3 1 17 1 A 1 5 3 1 1F 2 1 2 F 2 11 9 1 3 1 29
    2 1 10 1 5 3 8 3 18 6 5 12 3 18 1 9 1 1 2 7 3A 30 1 2 C 7 3A 2 1 1 1 5 1 18 1 1 1 A 1 2 9 1 2 5
    1 1 15 4 20 1 3F 8 1 24 1B 5 73 2B 14 1 10 6 4 4 3 1 3 2 7 3 4 D C 1 11 26 1 1 5 1 2 2B 1 14D 1
    4 2 7 1 1 1 4 2 29 1 4 2 21 1 4 2 7 1 1 1 4 2 F 1 39 1 4 2 43 25 10 10 56 2 6 3 26C 2 11 1 1A 5
    4B 3 B 7 12 D 13 E 12 E D 1 3 F 34 23 1 4 1 43 59 7 29 1 1 5 46 A 1F 31 1E 2 5 B 2C 4 1A 36 17
    9 35 52 1 5D 2F 11 8 36 1E D 2 A 2C 1A 24 29 3 A 24 2 9 7 2B 2 3 29 4 1 6 1 2 3 1 5 C0 40 116 2
    6 2 26 2 6 2 8 1 1 1 1 1 1 1 1F 2 35 1 7 1 1 3 3 1 7 3 4 2 6 4 D 5 3 1 7 74 1 D 1 10 D 65 1 4 1
    2 A 1 1 2 6 6 1 1 1 1 1 1 10 2 4 5 5 4 1 11 29 A77 E5 6 4 3 2 C 26 1 1 5 1 2 38 7 1 10 17 9 7 1
    7 1 7 1 7 1 7 1 7 1 7 1 7 226 3 19 9 7 5 2 5 4 56 4 5 1 5A 1 4 5 2B 1 5E 11 20 30 10 200 19C0
    40 568D 43 2E 2 10D 3 10 A 2 14 2F 10 1F 2 50 27 9 2 67 2 40 5 2 1 1 1 5 18 10 1 3 1 4 1 17 1D
    34 E 32 3E 6 3 1 1 2 B 1C A 17 19 1D 7 2F 1C 1 10 5 1 A A 5 1 29 17 3 1 8 14 17 3 1 3 32 1 1 3
    2 2 5 2 1 1 1 18 3 2 B 7 3 C 6 2 6 2 6 9 7 1 7 1 2B 1 E 6 73 1D 2BA4 C 17 4 31 2104 16E 2 6A 26
    7 C 5 5 1 1 A 1 D 1 5 1 1 1 2 1 2 1 6C 21 16B 12 40 2 36 28 C 74 5 1 87 24 1A 6 1A B 59 3 6 2 6
    2 6 2 3 23 C 1 1A 1 13 1 2 1 F 2 E 22 7B 45 35 10B 1D 3 31 2F 20 D 1E 5 26 A 1E 2 24 4 8 1 5 2A
    9E 12 24 4 24 4 28 8 34 C B 1 F 1 7 1 2 1 B 1 F 1 7 1 2 43 137 9 16 A 8 18 6 1 2A 1 9 45 6 2 1
    1 2C 1 2 3 1 2 17 A 17 9 1F 41 13 1 2 A 16 A 1A 46 38 6 2 40 1 F 4 1 3 1 1D 2A 1D 3 1D 23 8 1
    1C 1B 36 A 16 A 13 D 12 6E 49 37 33 D 33 D 24 15C 2A 6 2 4E 1D A 1 8 16 2A 12 2E 15 1B 17 C 35
    39 2 2 1 D 2D 20 19 1A 24 1D 1 2 1 8 23 3 1 C 30 E 4 15 1 1 1 23 12 1 19 54 7 1 1 1 4 1 F 1 A 7
    2F 26 8 2 2 2 16 1 7 1 2 1 5 3 1 12 1 C 5 9E 35 12 4 14 3 1E 30 14 2 1 1 B8 2F 29 4 24 30 14 1
    3B 2B D 1 47 1B 25 7 B9 2C 74 40 1F 8 2 1 2 8 1 2 1 18 F 1 1 1 5E 8 2 27 10 1 1 1 1C 1 A 28 7 1
    15 1 B 2E 13 1 12 49 107 9 1 25 11 1 31 1E 70 7 1 2 1 26 15 1 19 6 1 2 1 20 E 1 147 13 BD 1 4F
    39A 66 6F 11 C4 A4C 61 F 42F FD1 247 21B9 239 7 1F 11 4F 11 1E 12 30 10 4 1F 15 5 13 2B0 40 80
    4B 5 1 42 D 40 2 1 1 1C 17F8 8 4D6 2A 9 22E7 4 1 7 1 2 1 123 2D 3 11 4 8 18C 904 6B 5 D 3 9 7 A
    1766 55 1 47 1 2 2 1 2 2 2 4 1 C 1 1 1 7 1 41 1 4 2 8 1 7 1 1C 1 4 1 5 1 1 3 7 1 154 2 19 1 19
    1 1F 1 19 1 1F 1 19 1 1F 1 19 1 1F 1 19 1 8 734 1F 1E1 2D A 7 10 1 141 1E 12 2C 4F4 7 1 4 1 2 1
    F 1 C5 3B 44 7 1 4B4 4 1 1B 1 2 1 1 2 1 1 A 1 4 1 1 1 1 6 1 4 1 1 1 1 1 1 3 1 2 1 1 2 1 1 1 1 1
    1 1 1 1 1 2 1 1 2 4 1 7 1 4 1 4 1 1 1 A 1 11 5 3 1 5 1 11 1144 A6E0 20 1039 7 DE 2 1682 E 1D31
    F 26E 9A2 21E 5E2 134B 5 1060"

/-- Where characters start and stop that a name can hold but not start with, beyond the first 128
characters. -/
def innerPlaces : Array Nat := placesOf
    "B7 1 248 70 17 1 FB 5 109 2D 1 1 1 2 1 2 1 1 48 B 30 1F 6 1 65 7 2 6 2 2 1 4 2 A 17 1 1E 1B 5B
    B F A 21 9 9 1 18 4 1 9 1 3 1 5 2B 3 3C 8 2A 18 1 21 36 3 1 12 1 7 A 2 2 A 11 3 38 1 1 7 2 2 2
    3 9 1 A 2 2 A E 1 2 3 38 1 1 5 4 2 2 3 3 1 14 C 3 1 B 3 38 1 1 8 1 3 1 3 14 2 2 A A 6 1 3 38 1
    1 7 2 2 2 3 7 3 A 2 2 A 12 1 3B 5 3 3 1 4 9 1 E A 10 5 37 1 1 7 1 3 1 4 7 2 B 2 2 A 11 3 38 1 1
    7 1 3 1 4 7 2 B 2 2 A 10 4 37 2 1 7 1 3 1 4 9 1 A 2 2 A 11 3 46 1 4 6 1 1 1 8 6 A 2 2 3D 1 2 7
    C 8 1 A 57 1 2 9 B 6 2 A 3E 2 6 A B 1 1 1 1 1 4 2 31 14 1 2 5 B 1 24 9 1 64 14 1 A C 4 4 3 1 3
    2 7 3 4 D C 1 F 2BF 3 9 9 3A0 4 1C 3 1D 2 1E 2 40 20 9 1 2 A 21 3 1 B 8F 1 76 C 4 C A A 80 B 3C
    5 39 A 1 1D 2 B 6 A 16 E 1 10 31 5 2F 11 B A 11 9 C 3 1E D 2 A 2C E 30 14 8 A 6 A 76 3 1 15 4 1
    6 1 2 3 C6 40 20C 2 31 2 13 1 7B D 4 1 3 C BFE 3 8D 1 60 20 22A 6 69 2 60 1 7524 A 45 1 4 A 20
    2 50 2 110 1 3 1 4 1 17 5 4 1 53 2 32 12 A A 6 12 D B 1C 8 19 D 2C 4 2F E F A B 1 A A 2F E C 1
    8 2 2 A 21 3 32 1 1 3 2 2 5 2 1 1 29 5 5 2 EC 8 1 2 2 A 4F24 1 2E1 10 10 10 3 2 18 3 C0 A 25 1
    25 1 297 1 E2 1 95 5 125 A 557 3 1 2 5 4 28 3 4 1 A5 2 23D 4 8 A 171 2 99 B 31 4 7A 3 35 F 1F B
    2 2 A 4 2D B 7 1 2D A 6 3 24 E 1 A 5 2 2C 1 C 3 30 E 8 4 1 C 52 C 6 1 A0 C 5 A 6 4 37 2 1 7 2 2
    2 3 9 1 A 2 2 7 3 5 C0 12 9 A 4 1 51 14 C A D5 7 2 9 1B 2 52 11 F A 51 D 8 A 53 F 4 A F2 F A5 A
    46 6 1 2 2 4 1 1 1 2 C A 77 7 2 7 3 1 1C A 28 7 1 4 8 1 9 B 2E 10 195 8 1 8 10 A 38 16 1 E 7A 6
    3 1 1 2 1 7 1 1 8 A 30 5 1 2 1 5 8 A 149 4 4B69 A 56 A 26 5 3B 7 19 A 3F5 1 1 37 7 4 51 1 B 2
    4CAB 2 1261 2E 2 17 21E 5 3 6 8 8 2 7 1E 4 94 3 589 32 200 37 4 32 8 1 E 1 16 5 1 F 550 7 1 11
    2 7 1 2 1 5 105 7 9 A 164 1 3D E 5D6 7 6D 7 5 A 1296 A C0506 F0"

/-- A name may start with this character. -/
def startsName (c : Char) : Bool :=
  if c.toNat < 128 then c.isAlpha || c == '_' || c == '$' else holdsAt letterPlaces c

/-- A name may go on with this character. -/
def inName (c : Char) : Bool := startsName c || c.isDigit || holdsAt innerPlaces c

def isWord : List Char → Bool
  | [] => false
  | c :: rest => startsName c && rest.all inName

end Text
end ScriptWorkers
