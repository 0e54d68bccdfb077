import ScriptWorkers.Json.Parser

/-!
# JSON texts with places

`Document.parse` reads a JSON text and keeps its numbers as they are written.  What is wrong with a
text is told by its cause and by its place, a line and a column.  The column is the number of bytes
up to and including the character that was looked at.

This is how scripts read JSON texts; messages are read by `ScriptWorkers.Json.Parser`.
-/

namespace ScriptWorkers.Json

/-- A JSON text that has been read. -/
inductive Document where
  | null
  | bool (b : Bool)
  /-- A number as it is written. -/
  | number (cs : List Char)
  | text (cs : List Char)
  | list (items : List Document)
  | record (fields : List (List Char × Document))

namespace Document

/-- Why a text is no JSON text. -/
inductive Cause where
  | endOfList
  | endOfObject
  | endOfString
  | endOfValue
  | expectedColon
  | expectedListEnd
  | expectedObjectEnd
  | expectedWord
  | expectedValue
  | invalidEscape
  | invalidNumber
  | numberOutOfRange
  | controlCharacter
  | keyMustBeText
  | loneSurrogate
  | trailingComma
  | trailingCharacters
  | endOfEscape
  | tooDeep
deriving Repr, DecidableEq

def Cause.message : Cause → String
  | endOfList => "EOF while parsing a list"
  | endOfObject => "EOF while parsing an object"
  | endOfString => "EOF while parsing a string"
  | endOfValue => "EOF while parsing a value"
  | expectedColon => "expected \x60:\x60"
  | expectedListEnd => "expected \x60,\x60 or \x60]\x60"
  | expectedObjectEnd => "expected \x60,\x60 or \x60\x7d\x60"
  | expectedWord => "expected ident"
  | expectedValue => "expected value"
  | invalidEscape => "invalid escape"
  | invalidNumber => "invalid number"
  | numberOutOfRange => "number out of range"
  | controlCharacter => "control character (\\u0000-\\u001F) found while parsing a string"
  | keyMustBeText => "key must be a string"
  | loneSurrogate => "lone leading surrogate in hex escape"
  | trailingComma => "trailing comma"
  | trailingCharacters => "trailing characters"
  | endOfEscape => "unexpected end of hex escape"
  | tooDeep => "recursion limit exceeded"

/-- A cause with the text that is left at its place. -/
structure Fault where
  cause : Cause
  rest : List Char

abbrev Reading := Except Fault

/-- The text before `rest` ends with what is to blame. -/
def blame {α : Type} (cause : Cause) (rest : List Char) : Reading α := .error ⟨cause, rest⟩

/-! ## Parts -/

def word : List Char → List Char → Reading (List Char)
  | [], cs => .ok cs
  | _ :: _, [] => blame .endOfValue []
  | w :: ws, c :: cs => if w = c then word ws cs else blame .expectedWord cs

/-- The value of four hexadecimal digits. -/
def hex : List Char → Reading (Nat × List Char)
  | a :: b :: c :: d :: rest =>
    match hexWord? a b c d with
    | some n => .ok (n, rest)
    | none => blame .invalidEscape rest
  | _ => blame .endOfString []

/-- A mark that has to follow the first half of a pair. -/
def pairMark (m : Char) : List Char → Reading (List Char)
  | [] => blame .endOfString []
  | c :: rest => if c = m then .ok rest else blame .endOfEscape rest

/-- The character of an escape by its number. -/
def numbered (cs : List Char) : Reading (Char × List Char) := do
  let (n, rest) ← hex cs
  if isLow n then blame .loneSurrogate rest
  else if !isHigh n then .ok (Char.ofNat n, rest)
  else
    let rest ← pairMark '\\' rest
    let rest ← pairMark 'u' rest
    let (m, rest) ← hex rest
    if isLow m then .ok (Char.ofNat (0x10000 + (n - 0xD800) * 0x400 + (m - 0xDC00)), rest)
    else blame .loneSurrogate rest

/-- The rest of a string, of at most `n` characters and escapes; `acc` holds the characters so far,
the last one first. -/
def textBody (acc : List Char) (cs : List Char) : Nat → Reading (List Char × List Char)
  | 0 => blame .endOfString []
  | n + 1 =>
    match cs with
    | [] => blame .endOfString []
    | '"' :: rest => .ok (acc.reverse, rest)
    | '\\' :: [] => blame .endOfString []
    | '\\' :: 'u' :: rest => do
      let (c, rest) ← numbered rest
      textBody (c :: acc) rest n
    | '\\' :: c :: rest =>
      match unescape? c with
      | some x => textBody (x :: acc) rest n
      | none => blame .invalidEscape rest
    | c :: rest => if c.toNat < 32 then blame .controlCharacter rest else textBody (c :: acc) rest n

/-- The text without the digits at its front. -/
def skipDigits (cs : List Char) : List Char := cs.dropWhile Char.isDigit

/-- Passes over an exponent after its letter. -/
def exponentTail (cs : List Char) : Reading (List Char) :=
  let cs := match cs with
    | '+' :: rest | '-' :: rest => rest
    | cs => cs
  match cs with
  | [] => blame .endOfValue []
  | c :: rest => if c.isDigit then .ok (skipDigits rest) else blame .invalidNumber rest

/-- Passes over an exponent, if there is one. -/
def afterExponent : List Char → Reading (List Char)
  | 'e' :: rest | 'E' :: rest => exponentTail rest
  | cs => .ok cs

/-- Passes over what follows the whole part of a number. -/
def afterWhole : List Char → Reading (List Char)
  | '.' :: rest =>
    match rest with
    | [] => blame .endOfValue []
    | c :: tail => if c.isDigit then afterExponent (skipDigits tail) else blame .invalidNumber tail
  | cs => afterExponent cs

/-- Passes over a number after its sign. -/
def afterSign : List Char → Reading (List Char)
  | [] => blame .endOfValue []
  | '0' :: rest =>
    match rest with
    | c :: tail => if c.isDigit then blame .invalidNumber tail else afterWhole rest
    | [] => .ok []
  | c :: rest => if c.isDigit then afterWhole (skipDigits rest) else blame .invalidNumber rest

/-- A number as it is written, and what follows. -/
def numberText (cs : List Char) : Reading (List Char × List Char) := do
  let rest ← afterSign (match cs with
    | '-' :: tail => tail
    | cs => cs)
  if (Json.number cs).isNone then blame .numberOutOfRange rest
  else .ok (cs.take (cs.length - rest.length), rest)

/-! ## Values -/

mutual

/-- One value, with at most `room` further levels of nesting, and the text after it. -/
def value (room : Nat) (cs : List Char) : Nat → Reading (Document × List Char)
  | 0 => blame .endOfValue []
  | fuel + 1 =>
    match skipBlanks cs with
    | [] => blame .endOfValue []
    | 'n' :: rest => do return (.null, ← word "ull".toList rest)
    | 't' :: rest => do return (.bool true, ← word "rue".toList rest)
    | 'f' :: rest => do return (.bool false, ← word "alse".toList rest)
    | '"' :: rest => do
      let (s, rest) ← textBody [] rest (rest.length + 1)
      return (.text s, rest)
    | '[' :: rest =>
      match room with
      | 0 => blame .tooDeep rest
      | room + 1 => do
        let (items, rest) ← items room true [] rest fuel
        return (.list items, rest)
    | '{' :: rest =>
      match room with
      | 0 => blame .tooDeep rest
      | room + 1 => do
        let (fields, rest) ← fields room true [] rest fuel
        return (.record fields, rest)
    | c :: rest =>
      if c = '-' ∨ c.isDigit then do
        let (n, rest) ← numberText (c :: rest)
        return (.number n, rest)
      else blame .expectedValue rest
termination_by structural fuel => fuel

/-- The items of a list up to its end; `acc` holds those before, the last one first. -/
def items (room : Nat) (first : Bool) (acc : List Document) (cs : List Char) :
    Nat → Reading (List Document × List Char)
  | 0 => blame .endOfList []
  | fuel + 1 =>
    match skipBlanks cs, first with
    | [], _ => blame .endOfList []
    | ']' :: rest, _ => .ok (acc.reverse, rest)
    | ',' :: rest, false =>
      match skipBlanks rest with
      | [] => blame .endOfValue []
      | ']' :: rest => blame .trailingComma rest
      | rest => do
        let (v, rest) ← value room rest fuel
        items room false (v :: acc) rest fuel
    | _ :: rest, false => blame .expectedListEnd rest
    | rest, true => do
      let (v, rest) ← value room rest fuel
      items room false (v :: acc) rest fuel
termination_by structural fuel => fuel

/-- The fields of an object up to its end; `acc` holds those before, the last one first. -/
def fields (room : Nat) (first : Bool) (acc : List (List Char × Document)) (cs : List Char) :
    Nat → Reading (List (List Char × Document) × List Char)
  | 0 => blame .endOfObject []
  | fuel + 1 =>
    match skipBlanks cs, first with
    | [], _ => blame .endOfObject []
    | '}' :: rest, _ => .ok (acc.reverse, rest)
    | ',' :: rest, false =>
      match skipBlanks rest with
      | [] => blame .endOfValue []
      | '"' :: rest => field room acc rest fuel
      | '}' :: rest => blame .trailingComma rest
      | _ :: rest => blame .keyMustBeText rest
    | _ :: rest, false => blame .expectedObjectEnd rest
    | '"' :: rest, true => field room acc rest fuel
    | _ :: rest, true => blame .keyMustBeText rest
termination_by structural fuel => fuel

/-- A field after the quote in front of its key, and those behind it. -/
def field (room : Nat) (acc : List (List Char × Document)) (cs : List Char) :
    Nat → Reading (List (List Char × Document) × List Char)
  | 0 => blame .endOfObject []
  | fuel + 1 => do
    let (k, rest) ← textBody [] cs (cs.length + 1)
    match skipBlanks rest with
    | [] => blame .endOfObject []
    | ':' :: rest => do
      let (v, rest) ← value room rest fuel
      fields room false ((k, v) :: acc) rest fuel
    | _ :: rest => blame .expectedColon rest
termination_by structural fuel => fuel

end

/-! ## Whole texts -/

def bytes (cs : List Char) : Nat := cs.foldr (fun c n ↦ c.utf8Size + n) 0

/-- The line and the column at the end of a text. -/
def place (cs : List Char) : Nat × Nat :=
  (1 + (cs.filter (· == '\n')).length, bytes (cs.reverse.takeWhile (· ≠ '\n')))

/-- The wording of a fault in a text. -/
def Fault.message (f : Fault) (cs : List Char) : String :=
  let (line, column) := place (cs.take (cs.length - f.rest.length))
  s!"{f.cause.message} at line {line} column {column}"

/-- Reads a JSON text, or tells what is wrong with it. -/
def parse (s : String) : Except String Document :=
  let cs := s.toList
  match value (depthLimit - 1) cs (2 * cs.length + 2) with
  | .error f => .error (f.message cs)
  | .ok (v, rest) =>
    match skipBlanks rest with
    | [] => .ok v
    | _ :: tail => .error (Fault.message ⟨.trailingCharacters, tail⟩ cs)

end Document

end ScriptWorkers.Json
