import ScriptWorkers.Text.Numeral
import ScriptWorkers.TypeScript.Tree

/-!
# Writing a source

Two layouts: one statement to a line with blanks between the tokens, or everything as short as it
gets.

A string at the front of a program means something, so one that is there only because the statements
before it are gone is put in brackets; in the short layout its quotes are enough to tell it apart.
-/

namespace ScriptWorkers
namespace TypeScript

/-- The layout of the output. -/
structure Layout where
  /-- Between tokens where the eye wants something. -/
  gap : String
  /-- After a statement. -/
  line : String
  /-- The quotes that can be chosen from, the best first. -/
  quotes : List Char

namespace Layout

def spacious : Layout := ⟨" ", "\n", ['"']⟩

def compact : Layout := ⟨"", "", ['\x60', '"', '\'']⟩

end Layout

/-! ## Numbers and strings -/

/-- The shorter of two texts, the first if they are equally long. -/
def shorter (a b : List Char) : List Char := if b.length < a.length then b else a

/-- The digits of a natural number. -/
def digitsOf (n : Nat) : List Char := Nat.toDigits 10 n

/-- Zeros at the end of a text as an exponent. -/
def foldZeros (cs : List Char) : List Char :=
  let zeros := (cs.reverse.takeWhile (· == '0')).length
  if zeros = 0 then cs else shorter cs (cs.take (cs.length - zeros) ++ 'e' :: digitsOf zeros)

/-- Zeros behind the point at the front of a text as an exponent. -/
def foldPlaces (cs : List Char) : List Char :=
  match cs with
  | '.' :: '0' :: rest =>
    let ds := rest.dropWhile (· == '0')
    shorter cs (ds ++ 'e' :: '-' :: digitsOf (rest.length + 1))
  | _ => cs

/-- A point in front of an exponent is moved to the end of the digits. -/
def foldPoint (cs : List Char) : List Char :=
  let whole := cs.takeWhile (· ≠ '.')
  let places := (cs.drop (whole.length + 1)).takeWhile (· ≠ 'e')
  match cs.drop (whole.length + 1 + places.length) with
  | 'e' :: '-' :: ds =>
    shorter cs (whole ++ places ++ 'e' :: '-' :: digitsOf (Decimal.valueOf ds + places.length))
  | 'e' :: ds =>
    let e := Decimal.valueOf ds
    let exponent := if places.length ≤ e then digitsOf (e - places.length)
      else '-' :: digitsOf (places.length - e)
    shorter cs (whole ++ places ++ 'e' :: exponent)
  | _ => cs

/-- The whole part of a double that has no sign. -/
def wholeOf (f : Float) : Nat :=
  let s := Decimal.Span.ofFloat f
  s.num / s.den

/-- A number in as few characters as possible. -/
def shortNumber (f : Float) : List Char :=
  let text := if f.isFinite then Decimal.Layout.script.render f else "Infinity".toList
  if !f.isFinite then text
  else if f < 1000.0 && f.floor == f then text
  else
    let text := match text with
      | '0' :: '.' :: rest => '.' :: rest
      | cs => cs.filter (· ≠ '+')
    if f.floor == f then
      let hex := '0' :: 'x' :: Nat.toDigits 16 (wholeOf f)
      if hex.length < text.length then hex else foldPoint (foldZeros text)
    else foldPoint (foldZeros (foldPlaces text))

/-- A number as it is written in the output. -/
def numberText (cs : List Char) : List Char :=
  match Text.Numeral.ofChars? cs with
  | some (.double f) => shortNumber f
  | some (.big n) => digitsOf n ++ ['n']
  | none => cs

/-- A member of a number has to be kept apart from digits without a point. -/
def needsGap (cs : List Char) : Bool := cs.all Char.isDigit

def quotedChar (q c : Char) : List Char :=
  if c == q || c == '\\' then ['\\', c]
  else if c == '\n' then (if q == '\x60' then [c] else ['\\', 'n'])
  else if c == '\r' then ['\\', 'r']
  else if c == '\x00' then ['\\', '0']
  else if c == '\x07' then ['\\', 'x', '0', '7']
  else if c == '\x08' then ['\\', 'b']
  else if c == '\x0b' then ['\\', 'v']
  else if c == '\x0c' then ['\\', 'f']
  else if c == '\x1b' then ['\\', 'x', '1', 'B']
  else if c.toNat == 0x2028 then "\\u2028".toList
  else if c.toNat == 0x2029 then "\\u2029".toList
  else if c.toNat == 0xA0 then "\\xA0".toList
  else [c]

/-- The text would end a script that stands inside a page. -/
def endsScript (cs : List Char) : Bool := (cs.take 6).map Char.toLower == "script".toList

/-- The characters of a string inside quotes.  In those of a template, nothing may look like a hole;
a zero is kept apart from digits. -/
def quotedChars (q : Char) : List Char → List Char
  | [] => []
  | '\x00' :: c :: rest =>
    (if c.isDigit then "\\x00".toList else "\\0".toList) ++ quotedChars q (c :: rest)
  | '<' :: '/' :: rest =>
    (if endsScript rest then "<\\/".toList else "</".toList) ++ quotedChars q rest
  | '$' :: '\x7b' :: rest =>
    (if q == '\x60' then "\\$\x7b".toList else "$\x7b".toList) ++ quotedChars q rest
  | c :: rest => quotedChar q c ++ quotedChars q rest

def quoted (q : Char) (cs : List Char) : String := String.ofList (q :: quotedChars q cs ++ [q])

/-- The places in a string that look like a hole of a template. -/
def holes : List Char → Nat
  | '$' :: '\x7b' :: rest => holes rest + 1
  | _ :: rest => holes rest
  | [] => 0

/-- What it costs to have a string in quotes. -/
def cost (q : Char) (cs : List Char) : Int :=
  ((cs.filter (· == q)).length : Int) +
    (if q == '\x60' then (holes cs : Int) - (cs.filter (· == '\n')).length else 0)

/-- A string in the quotes of a layout; where they can be chosen, in those that cost least. -/
def stringText (quotes : List Char) (cs : List Char) : String :=
  let best :=
    quotes.foldl (fun best q ↦ if cost q cs < cost best cs then q else best) (quotes.headD '"')
  quoted best cs

/-- A text in brackets, if need be. -/
def bracketed (need : Bool) (s : String) : String := if need then "(" ++ s ++ ")" else s

/-- A blank that keeps a mark apart from the same mark at the front of a text. -/
def apart (op : List Char) (s : String) : String :=
  match op, s.toList with
  | [c], d :: _ => if c == d && (c == '+' || c == '-') then " " else ""
  | _ :: _ :: _, _ => " "
  | _, _ => ""

mutual

def Expr.write (l : Layout) : Expr → String
  | .number cs => String.ofList (numberText cs)
  | .string cs => stringText l.quotes cs
  | .template cs => "\x60" ++ String.ofList cs ++ "\x60"
  | .name cs => String.ofList cs
  | .unary op e =>
    let s := bracketed (e.tightness < 5) (e.write l)
    String.ofList op ++ apart op s ++ s
  | .binary op a b =>
    let t := (Expr.tightness? [op]).getD 3
    let s := bracketed (b.tightness ≤ t) (b.write l)
    bracketed (a.tightness < t) (a.write l) ++ l.gap ++ String.ofList [op] ++
      (if l.gap.isEmpty then apart [op] s else l.gap) ++ s
  | .call f args =>
    bracketed (f.tightness < 6) (f.write l) ++ "(" ++
      ("," ++ l.gap).intercalate (writeArgs l args) ++ ")"
  | .member (.number cs) name =>
    let ds := numberText cs
    String.ofList ds ++ (if needsGap ds then " ." else ".") ++ String.ofList name
  | .member e name => bracketed (e.tightness < 6) (e.write l) ++ "." ++ String.ofList name
  | .element e key => bracketed (e.tightness < 6) (e.write l) ++ "[" ++ key.write l ++ "]"
  | .assign t e => t.write l ++ l.gap ++ "=" ++ l.gap ++ bracketed (e.tightness < 1) (e.write l)
  | .comma a b => a.write l ++ "," ++ l.gap ++ b.write l

def writeArgs (l : Layout) : List Expr → List String
  | [] => []
  | e :: rest => bracketed (e.tightness < 1) (e.write l) :: writeArgs l rest

end

def Declarator.write (l : Layout) (d : Declarator) : String :=
  match d.value with
  | some e =>
    String.ofList d.name ++ l.gap ++ "=" ++ l.gap ++ bracketed (e.tightness < 1) (e.write l)
  | none => String.ofList d.name

def Stmt.write (l : Layout) : Stmt → String
  | .declare kind ds =>
    kind.word ++ " " ++ ("," ++ l.gap).intercalate (ds.map (·.write l)) ++ ";" ++ l.line
  | .erased .. => ""
  | .expression e => e.write l ++ ";" ++ l.line
  | .labelled label s =>
    String.ofList label ++ ":" ++ (match s with | .empty => "" | _ => l.gap) ++ s.write l
  | .directive cs => quoted '"' cs ++ ";" ++ l.line
  | .empty => ";" ++ l.line

def writeStmts (l : Layout) (ss : List Stmt) : String := String.join (ss.map (·.write l))

def write (l : Layout) (ss : List Stmt) : String :=
  match ss.filter (·.isKept) with
  | .expression (.string cs) :: rest =>
    bracketed (!l.gap.isEmpty) (stringText l.quotes cs) ++ ";" ++ l.line ++ writeStmts l rest
  | ss => writeStmts l ss

end TypeScript
end ScriptWorkers
