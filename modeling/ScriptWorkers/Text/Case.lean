import ScriptWorkers.Text.Ranges

/-!
# Capital and small letters

The capital letter of a small one and the small letter of a capital one, beyond the first 128
characters by tables.  A table lists runs of letters that are equally far from their partners, with
every letter or every second one in the run (`LetterRun`).  A few letters have a capital that is
more than one character, and one has two small letters, of which the second stands at the end of a
word.  Whole texts are turned by `inSmall` and `inCapitals`.
-/

namespace ScriptWorkers
namespace Text

/-- Letters in regular distance, all equally far from their partners. -/
structure LetterRun where
  first : Nat
  last : Nat
  step : Nat
  distance : Int

/-- The run of an entry that comes after the character `before`.  Its value is the distance, and a
semicolon in the place of the colon says that only every second letter is in the run. -/
def LetterRun.ofText (before : Nat) (s : String) : LetterRun :=
  let t := s.replace ";" ":"
  let r := TableRun.ofText before t
  let distance : Int := r.value.headD 0
  ⟨r.first, r.last, if t = s then 1 else 2,
    if (t.splitOn ":-").length = 1 then distance else -distance⟩

def LetterRun.table (s : String) : Array LetterRun :=
  (entriesOf s).foldl (fun runs e ↦ runs.push (ofText ((runs.back?.map last).getD 0) e)) #[]

/-- The place of the partner of a letter, if the letter is in the run. -/
def LetterRun.partner? (r : LetterRun) (n : Nat) : Option Nat :=
  if r.first ≤ n && n ≤ r.last && (n - r.first) % r.step == 0 then
    some ((n : Int) + r.distance).toNat
  else none

/-- Small letters that have a capital. -/
def smallRuns : Array LetterRun := LetterRun.table
    "B4:2E7 2A-16:-20 1-6:-20 :79 1-2E;-1 1:-E8 1-4;-1 2-E;-1 2-2C;-1 2-4;-1 :-12C :C3 2-2;-1 2:-1
    3:-1 5:-1 2:61 3:-1 :A3 3:82 2-4;-1 2:-1 4:-1 2:-1 3-2;-1 2:-1 3:-1 1:38 5:-1 :-2 1:-1 :-2 1:-1
    :-2 1-E;-1 :-4F 1-10;-1 2:-1 :-2 1:-1 3-26;-1 3-10;-1 8:-1 2-1:2A3F 1:-1 4-8;-1 :2A1F :2A1C
    :2A1E :-D2 :-CE 1-1:-CD 1:-CA 1:-CB :A54F 3:-CD :A54B 1:-CF 1:A528 :A544 1:-D1 :-D3 :A544 :29F7
    :A541 2:-D3 1:29FD :-D5 2:-D6 7:29E7 2:-DA 1:A543 :-DA 3:A52A :-DA :-45 -1:-D9 :-47 5:-DB
    A:A515 :A512 A6:54 2B-2;-1 3:-1 3-2:82 2E:-26 -2:-25 1-10:-20 :-1F -8:-20 :-40 -1:-3F 1:-3E
    :-39 3:-2F :-36 :-8 1-16;-1 :-56 :-50 :7 :-74 1:-60 2:-1 2:-1 34-1F:-20 -F:-50 1-20;-1 9-34;-1
    2-C;-1 :-F 1-5E;-1 31-25:-30 B49-2A:BC0 2-2:BC0 2F8-5:-8 882:-186E :-186D :-1864 -1:-1862
    :-1863 :-185C :-1825 :89C2 F0:8A04 3:EE6 10:8A38 72-94;-1 5:-3B 5-5E;-1 -7:8 8-5:8 A-7:8 8-7:8
    8-5:8 B-6;8 8-7:8 8-1:4A -3:56 -1:64 -1:80 -1:70 -1:7E 32-1:8 C:-1C25 11-1:8 E-1:8 3:7 168:-1C
    21-F:-10 4:-1 34B-19:-1A 746-2F:-30 1:-1 3:-2A2B :-2A28 1-4;-1 6:-1 2:-1 A-62;-1 8-2;-1 4:-1
    C-25:-1C60 1:-1C60 5:-1C60 7913-2C;-1 13-1A;-1 87-C;-1 3-3C;-1 A-2;-1 2-8;-1 4:-1 4-2;-1 :30
    2-12;-1 B-E;-1 4-2;-1 6:-1 5-2;-1 1C:-1 35C:-3A0 1C-4F:-97D0 5381-19:-20 4CD-27:-28 88-23:-28
    9B-A:-27 1-E:-27 1-6:-27 1-1:-27 703-32:-40 BCD-1F:-20 5580-1F:-20 7AA2-21:-22"

/-- Capital letters that have a small one. -/
def capitalRuns : Array LetterRun := LetterRun.table
    "BF-16:20 1-6:20 21-2E;1 3-4;1 2-E;1 2-2C;1 1:-79 -4;1 3:D2 -2;1 1:CE :1 1-1:CD :1 2:4F :CA :CB
    :1 1:CD :CF 1:D3 :D1 :1 3:D3 :D5 1:D6 -4;1 1:DA :1 1:DA 2:1 1:DA :1 1-1:D9 -2;1 1:DB :1 3:1 7:2
    :1 1:2 :1 1:2 -10;1 2-10;1 2:2 -2;1 1:-61 :-38 -26;1 1:-82 1-10;1 7:2A2B :1 1:-A3 :2A28 2:1
    1:-C3 :45 :47 -8;1 121-2;1 3:1 8:74 6:26 1-2:25 1:40 1-1:3F 1-10:20 1-8:20 23:8 8-16;1 5:-3C
    2:1 1:-7 :1 2-2:-82 -F:50 -1F:20 30-20;1 9-34;1 1:F -C;1 2-5E;1 2-25:30 B49-25:1C60 1:1C60
    5:1C60 2D2-4F:97D0 -5:8 89A-2A:-BC0 2-2:-BC0 140-94;1 9:-1DBF 1-5E;1 9-7:-8 8-5:-8 A-7:-8
    8-7:-8 8-5:-8 B-6;-8 8-7:-8 18-7:-8 8-7:-8 8-7:-8 8-1:-8 -1:-4A :-9 B-3:-56 :-9 B-1:-8 -1:-64
    C-1:-8 -1:-70 :-7 B-1:-80 -1:-7E :-9 129:-1D5D 3:-20BF :-2046 6:1C 2D-F:10 13:1 332-19:1A
    730-2F:30 30:1 1:-29F7 :-EE6 :-29E7 2-4;1 1:-2A1C :-29FD :-2A1F :-2A1E 1:1 2:1 8-1:-2A3F -62;1
    8-2;1 4:1 794D-2C;1 13-1A;1 87-C;1 3-3C;1 A-2;1 1:-8A04 -8;1 4:1 1:-A528 2-2;1 3-12;1 1:-A544
    :-A54F :-A54B :-A541 :-A544 1:-A512 :-A52A :-A515 :3A0 -E;1 1:-30 :-A543 :-8A38 -2;1 6:1 5-2;1
    1C:1 572B-19:20 4C5-27:28 88-23:28 9C-A:27 1-E:27 1-6:27 1-1:27 6EA-32:40 BED-1F:20 5580-1F:20
    7AA0-21:22"

/-- Letters whose capital is more than one character. -/
def longCapitals : Array TableRun := TableRun.table
    "DE:53+53 69:2BC+4E A6:4A+30C 19F:399+308+301 1F:3A5+308+301 1D6:535+552 190E:48+331 :54+308
    :57+30A :59+30A :41+2BE B5:3A5+313 1:3A5+313+300 1:3A5+313+301 1:3A5+313+342 29:1F08+399
    :1F09+399 :1F0A+399 :1F0B+399 :1F0C+399 :1F0D+399 :1F0E+399 :1F0F+399 :1F08+399 :1F09+399
    :1F0A+399 :1F0B+399 :1F0C+399 :1F0D+399 :1F0E+399 :1F0F+399 :1F28+399 :1F29+399 :1F2A+399
    :1F2B+399 :1F2C+399 :1F2D+399 :1F2E+399 :1F2F+399 :1F28+399 :1F29+399 :1F2A+399 :1F2B+399
    :1F2C+399 :1F2D+399 :1F2E+399 :1F2F+399 :1F68+399 :1F69+399 :1F6A+399 :1F6B+399 :1F6C+399
    :1F6D+399 :1F6E+399 :1F6F+399 :1F68+399 :1F69+399 :1F6A+399 :1F6B+399 :1F6C+399 :1F6D+399
    :1F6E+399 :1F6F+399 2:1FBA+399 :391+399 :386+399 1:391+342 :391+342+399 4:391+399 5:1FCA+399
    :397+399 :389+399 1:397+342 :397+342+399 4:397+399 5:399+308+300 :399+308+301 2:399+342
    :399+308+342 A:3A5+308+300 :3A5+308+301 :3A1+313 1:3A5+342 :3A5+308+342 A:1FFA+399 :3A9+399
    :38F+399 1:3A9+342 :3A9+342+399 4:3A9+399 DB03:46+46 :46+49 :46+4C :46+46+49 :46+46+4C :53+54
    :53+54 C:544+546 :544+535 :544+53B :54E+546 :544+53D"

/-- The partner of a character, itself if it has none. -/
def partner (runs : Array LetterRun) (c : Char) : Char :=
  match runs.findSome? (·.partner? c.toNat) with
  | some n => Char.ofNat n
  | none => c

def capital (c : Char) : List Char :=
  if c.toNat < 128 then [c.toUpper]
  else
    match TableRun.find? longCapitals c.toNat with
    | some r => r.value.map Char.ofNat
    | none => [partner smallRuns c]

/-- The small letter of a character, wherever it stands. -/
def small (c : Char) : List Char :=
  if c.toNat < 128 then [c.toLower]
  else if c.toNat = 0x130 then [Char.ofNat 0x69, Char.ofNat 0x307]
  else [partner capitalRuns c]

/-- The character is a letter that comes capital and small. -/
def isCased (c : Char) : Bool := capital c != [c] || small c != [c]

/-- Marks that may stand inside a word. -/
def isInsideMark (c : Char) : Bool :=
  let n := c.toNat
  [0x27, 0x2E, 0x3A, 0x5E, 0x60, 0xA8, 0xAD, 0xAF, 0xB4, 0xB7, 0xB8, 0x2019].contains n
    || (0x300 ≤ n && n ≤ 0x36F)

def goesOn (cs : List Char) : Bool := (cs.dropWhile isInsideMark).head?.any isCased

/-- A text in small letters; `before` are the characters before it, the last one first. -/
def smallFrom (before : List Char) : List Char → List Char
  | [] => []
  | c :: rest =>
    let here :=
      if c.toNat = 0x3A3 && goesOn before && !goesOn rest then [Char.ofNat 0x3C2] else small c
    here ++ smallFrom (c :: before) rest

def inSmall (cs : List Char) : List Char := smallFrom [] cs

def inCapitals (cs : List Char) : List Char := cs.flatMap capital

end Text
end ScriptWorkers
