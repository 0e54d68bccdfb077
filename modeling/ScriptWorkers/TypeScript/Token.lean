import ScriptWorkers.Text.Name
import ScriptWorkers.Text.Numeral

/-!
# Tokens of a source

A source is cut into words, numbers, quoted strings, pieces of templates and marks.  Blanks
and comments only separate, but a line end before a token is remembered, because a statement
may end there.

A template is cut at the braces that hold its types, so that the closing brace of such a hole goes
on with the template; how many braces are open inside each hole is kept while scanning.
-/

namespace ScriptWorkers

/-- A token. -/
inductive Token where
  | word (cs : List Char)
  /-- A number as it is written. -/
  | number (cs : List Char)
  | string (cs : List Char)
  /-- A piece of a template: whether it is the first one, and whether it is the last. -/
  | template (cs : List Char) (isFirst isLast : Bool)
  | mark (cs : List Char)
deriving Repr, DecidableEq

/-- A token where it stands. -/
structure Lexeme where
  token : Token
  /-- A line ends between it and the token before. -/
  afterLine : Bool
deriving Repr, DecidableEq

namespace Token

def isLineEnd (c : Char) : Bool :=
  c == '\n' || c == '\r' || c.toNat == 0x2028 || c.toNat == 0x2029

def isGap (c : Char) : Bool :=
  [' ', '\t', '\x0b', '\x0c', '\x85', '\xa0', '\u1680', '\u202f', '\u205f', '\u3000',
    '\ufeff'].contains c
    || (0x2000 ≤ c.toNat && c.toNat ≤ 0x200B)

/-- Marks of more than one character, the longest first.  Angles always stand alone, because they
may close one list of types inside another. -/
def longMarks : List (List Char) :=
  ["===", "!==", "...", "**=", "=>", "==", "!=", "&&", "||", "??", "?.", "++", "--", "+=", "-=",
    "*=", "/=", "**"].map String.toList

def marks : List Char := "\x7b\x7d()[];,<>=:+-*/%|&^~?.!@".toList

/-- The mark at the front of a text. -/
def mark? (cs : List Char) : Option (List Char) :=
  match longMarks.find? (·.isPrefixOf cs) with
  | some m => some m
  | none =>
    match cs with
    | c :: _ => if marks.contains c then some [c] else none
    | [] => none

/-- The character that an escape stands for, and what follows; a line end stands for nothing. -/
def escape? : List Char → Option (List Char × List Char)
  | [] => none
  | 'n' :: rest => some (['\n'], rest)
  | 't' :: rest => some (['\t'], rest)
  | 'r' :: rest => some (['\r'], rest)
  | 'b' :: rest => some (['\x08'], rest)
  | 'v' :: rest => some (['\x0b'], rest)
  | 'f' :: rest => some (['\x0c'], rest)
  | '0' :: rest => some (['\x00'], rest)
  | 'x' :: a :: b :: rest => (Text.wholeOf? 16 [a, b]).map fun n ↦ ([Char.ofNat n], rest)
  | 'u' :: '\x7b' :: rest =>
    let ds := rest.takeWhile (· ≠ '\x7d')
    (Text.wholeOf? 16 ds).map fun n ↦ ([Char.ofNat n], rest.drop (ds.length + 1))
  | 'u' :: a :: b :: c :: d :: '\\' :: 'u' :: e :: f :: g :: h :: rest => do
    let n ← Text.wholeOf? 16 [a, b, c, d]
    match Text.wholeOf? 16 [e, f, g, h] with
    | some m =>
      if 0xD800 ≤ n && n < 0xDC00 && 0xDC00 ≤ m && m < 0xE000 then
        some ([Char.ofNat (0x10000 + (n - 0xD800) * 0x400 + (m - 0xDC00))], rest)
      else some ([Char.ofNat n], '\\' :: 'u' :: e :: f :: g :: h :: rest)
    | none => some ([Char.ofNat n], '\\' :: 'u' :: e :: f :: g :: h :: rest)
  | 'u' :: a :: b :: c :: d :: rest =>
    (Text.wholeOf? 16 [a, b, c, d]).map fun n ↦ ([Char.ofNat n], rest)
  | 'x' :: _ | 'u' :: _ => none
  | '\r' :: '\n' :: rest => some ([], rest)
  | c :: rest => if isLineEnd c then some ([], rest) else some ([c], rest)

/-- The body of a string up to its closing quote, and what follows; there are at most `n` characters
and escapes. -/
def body? (quote : Char) (cs : List Char) : Nat → Option (List Char × List Char)
  | 0 => none
  | n + 1 =>
    match cs with
    | [] => none
    | '\\' :: rest => do
      let (c, rest) ← escape? rest
      let (b, r) ← body? quote rest n
      some (c ++ b, r)
    | c :: rest =>
      if c == quote then some ([], rest)
      else if c == '\n' || c == '\r' then none
      else (body? quote rest n).map fun (b, r) ↦ (c :: b, r)

/-- A piece of a template, whether it is the last one, and what follows. -/
def piece? : List Char → Option (List Char × Bool × List Char)
  | [] => none
  | '\x60' :: rest => some ([], true, rest)
  | '$' :: '\x7b' :: rest => some ([], false, rest)
  | '\\' :: c :: rest => (piece? rest).map fun (b, r) ↦ ('\\' :: c :: b, r)
  | c :: rest => (piece? rest).map fun (b, r) ↦ (c :: b, r)

/-- What follows a comment that ends at a mark, and whether a line ends inside. -/
def afterComment? : List Char → Option (Bool × List Char)
  | [] => none
  | '*' :: '/' :: rest => some (false, rest)
  | c :: rest => (afterComment? rest).map fun (line, r) ↦ (line || isLineEnd c, r)

/-- The number at the front of a text, and what follows; no name may follow directly. -/
def number? (cs : List Char) : Option (List Char × List Char) := do
  let ds ← Text.Numeral.atFront? cs
  let rest := cs.drop ds.length
  match rest with
  | c :: _ => if Text.inName c then none else some (ds, rest)
  | [] => some (ds, [])

def startsNumber : List Char → Bool
  | '.' :: c :: _ => c.isDigit
  | c :: _ => c.isDigit
  | [] => false

/-- The braces that are open inside each hole of a template, after one more mark. -/
def countBraces (holes : List Nat) (m : List Char) : List Nat :=
  match holes with
  | [] => []
  | k :: ks =>
    if m == ['\x7b'] then (k + 1) :: ks else if m == ['\x7d'] then (k - 1) :: ks else holes

/-- Cuts a text into tokens, at most `n` of them or of the blanks between; `none` if there is
something that is no token. -/
def scanWithin (afterLine : Bool) (holes : List Nat) (cs : List Char) : Nat → Option (List Lexeme)
  | 0 => none
  | n + 1 =>
    match cs with
    | [] => some []
    | '/' :: '/' :: rest =>
      scanWithin afterLine holes (rest.dropWhile (!isLineEnd ·)) n
    | '/' :: '*' :: rest =>
      match afterComment? rest with
      | none => none
      | some (line, rest) => scanWithin (afterLine || line) holes rest n
    | c :: rest =>
      if isLineEnd c then scanWithin true holes rest n
      else if isGap c then scanWithin afterLine holes rest n
      else if Text.startsName c then
        let w := cs.takeWhile Text.inName
        (scanWithin false holes (cs.drop w.length) n).map (⟨.word w, afterLine⟩ :: ·)
      else if startsNumber cs then
        match number? cs with
        | none => none
        | some (ds, rest) => (scanWithin false holes rest n).map (⟨.number ds, afterLine⟩ :: ·)
      else if c == '"' || c == '\'' then
        match body? c rest (rest.length + 1) with
        | none => none
        | some (b, rest) => (scanWithin false holes rest n).map (⟨.string b, afterLine⟩ :: ·)
      else if c == '\x60' then
        match piece? rest with
        | none => none
        | some (b, isLast, rest) =>
          (scanWithin false (if isLast then holes else 0 :: holes) rest n).map
            (⟨.template b true isLast, afterLine⟩ :: ·)
      else if c == '\x7d' && holes.head? == some 0 then
        match piece? rest with
        | none => none
        | some (b, isLast, rest) =>
          (scanWithin false (if isLast then holes.tail else holes) rest n).map
            (⟨.template b false isLast, afterLine⟩ :: ·)
      else
        match mark? cs with
        | none => none
        | some m =>
          (scanWithin false (countBraces holes m) (cs.drop m.length) n).map
            (⟨.mark m, afterLine⟩ :: ·)

def scan (cs : List Char) : Option (List Lexeme) := scanWithin false [] cs (cs.length + 1)

end Token

end ScriptWorkers
