import ScriptWorkers.Pattern.Basic
import ScriptWorkers.Text.Numeral

/-!
# Reading patterns

A pattern is a choice between sequences of parts, each of which may be repeated.  The groups are
counted beforehand, because a reference may come before its group.  Patterns that deal with whole
characters are read strictly; in all others what makes no sense stands for itself.
-/

namespace ScriptWorkers
namespace Pattern

/-! ## Groups -/

/-- The name at the front, up to its end. -/
def nameAt (cs : List Nat) : Option (List Nat × List Nat) :=
  let name := cs.takeWhile (· ≠ 62)
  match cs.drop name.length with
  | _ :: rest => if name.isEmpty then none else some (name, rest)
  | [] => none

/-- The names of the groups of a pattern in order, `none` for those without one.  The `n` bounds the
number of characters. -/
def scanGroups (inClass : Bool) (cs : List Nat) : Nat → List (Option (List Nat))
  | 0 => []
  | n + 1 =>
    match cs with
    | [] => []
    | 92 :: _ :: rest => scanGroups inClass rest n
    | 91 :: rest => scanGroups true rest n
    | 93 :: rest => scanGroups false rest n
    | 40 :: rest =>
      if inClass then scanGroups inClass rest n
      else
        match rest with
        | 63 :: 60 :: 61 :: tail | 63 :: 60 :: 33 :: tail => scanGroups inClass tail n
        | 63 :: 60 :: tail => (nameAt tail).map (·.1) :: scanGroups inClass tail n
        | 63 :: tail => scanGroups inClass tail n
        | tail => none :: scanGroups inClass tail n
    | _ :: rest => scanGroups inClass rest n

/-! ## The reader -/

/-- What the reader knows of the pattern as a whole. -/
structure Frame where
  options : Options
  groups : List (Option (List Nat))

def Frame.count (f : Frame) : Nat := f.groups.length

def Frame.named (f : Frame) : Bool := f.groups.any Option.isSome

/-- The number of the group of a name. -/
def Frame.place? (f : Frame) (name : List Nat) : Option Nat :=
  (f.groups.findIdx? (· == some name)).map (· + 1)

/-- What is left of the pattern, and the number of the next group. -/
structure Reading where
  rest : List Nat
  next : Nat := 1

/-- The outcome of reading, or what is wrong with the pattern. -/
abbrev Reader := StateT Reading (Except String)

def fault {α : Type} (text : String) : Reader α := throw text

def rest : Reader (List Nat) := return (← get).rest

def goTo (cs : List Nat) : Reader Unit := modify fun r ↦ { r with rest := cs }

/-- Passes over a character if it comes next. -/
def eat (c : Char) : Reader Bool := do
  match ← rest with
  | d :: tail => if d = c.toNat then do goTo tail; return true else return false
  | [] => return false

/-- The number at the front, if there is one. -/
def numberAt? (cs : List Nat) : Option (Nat × List Nat) :=
  let ds := cs.takeWhile fun c ↦ 48 ≤ c && c ≤ 57
  if ds.isEmpty then none else some (ds.foldl (fun n d ↦ n * 10 + (d - 48)) 0, cs.drop ds.length)

/-- The bounds of a repetition between braces, behind the first one. -/
def bounds? (cs : List Nat) : Option ((Nat × Option Nat) × List Nat) := do
  let (least, cs) ← numberAt? cs
  match cs with
  | 125 :: rest => some ((least, some least), rest)
  | 44 :: 125 :: rest => some ((least, none), rest)
  | 44 :: cs =>
    let (most, cs) ← numberAt? cs
    match cs with
    | 125 :: rest => some ((least, some most), rest)
    | _ => none
  | _ => none

/-- The hexadecimal number of exactly `n` digits at the front. -/
def hexAt? (n : Nat) (cs : List Nat) : Option (Nat × List Nat) := do
  let ds := cs.take n
  if ds.length ≠ n then none
  let v ← Text.wholeOf? 16 (ds.map Char.ofNat)
  some (v, cs.drop n)

/-- The character of an escape by its number, behind the letter. -/
def unicodeAt? (whole : Bool) (cs : List Nat) : Option (Nat × List Nat) :=
  match cs with
  | 123 :: tail =>
    if whole then do
      let ds := tail.takeWhile (· ≠ 125)
      let v ← Text.wholeOf? 16 (ds.map Char.ofNat)
      if v ≤ 0x10FFFF && ds.length < tail.length then some (v, tail.drop (ds.length + 1)) else none
    else none
  | cs => do
    let (v, tail) ← hexAt? 4 cs
    if whole && 0xD800 ≤ v && v < 0xDC00 then
      match tail with
      | 92 :: 117 :: more =>
        match hexAt? 4 more with
        | some (w, after) =>
          if 0xDC00 ≤ w && w < 0xE000 then
            some (0x10000 + (v - 0xD800) * 0x400 + (w - 0xDC00), after)
          else some (v, tail)
        | none => some (v, tail)
      | _ => some (v, tail)
    else some (v, tail)

/-- The number of up to three octal digits at the front, below 256. -/
def octalAt (cs : List Nat) : Nat × List Nat :=
  let isOctal (c : Nat) : Bool := 48 ≤ c && c ≤ 55
  match cs with
  | a :: b :: c :: rest =>
    if isOctal a && isOctal b && isOctal c && a ≤ 51 then
      ((a - 48) * 64 + (b - 48) * 8 + (c - 48), rest)
    else if isOctal a && isOctal b then ((a - 48) * 8 + (b - 48), c :: rest)
    else (a - 48, b :: c :: rest)
  | [a, b] => if isOctal a && isOctal b then ((a - 48) * 8 + (b - 48), []) else (a - 48, [b])
  | [a] => (a - 48, [])
  | [] => (0, [])

/-- The set that a letter behind a backslash stands for. -/
def setOf? (c : Nat) : Option Ranges :=
  if c = 100 then some Ranges.digits
  else if c = 68 then some (Ranges.complement Ranges.digits)
  else if c = 119 then some Ranges.words
  else if c = 87 then some (Ranges.complement Ranges.words)
  else if c = 115 then some Ranges.blanks
  else if c = 83 then some (Ranges.complement Ranges.blanks)
  else none

/-- The control character that a letter behind a backslash stands for. -/
def controlOf? (c : Nat) : Option Nat :=
  if c = 116 then some 9 else if c = 110 then some 10 else if c = 118 then some 11
  else if c = 102 then some 12 else if c = 114 then some 13 else none

/-- Characters that have a meaning of their own in patterns. -/
def isMark (c : Nat) : Bool := "^$\\.*+?()[]\x7b\x7d|/".toList.any (·.toNat == c)

/-- The character that an escape stands for, behind the backslash. -/
def escapedChar (whole : Bool) (inClass : Bool) : Reader Nat := do
  match ← rest with
  | [] => fault "Incomplete escape"
  | c :: tail =>
    match controlOf? c with
    | some d => do goTo tail; return d
    | none =>
      if c = 48 && !(tail.head?.any fun d ↦ 48 ≤ d && d ≤ 57) then do goTo tail; return 0
      else if 48 ≤ c && c ≤ 57 then
        if whole then fault "Invalid character escape"
        else if c ≤ 55 then
          let (d, after) := octalAt (c :: tail)
          goTo after
          return d
        else do goTo tail; return c
      else if c = 99 then
        match tail with
        | d :: after =>
          if (65 ≤ d && d ≤ 90) || (97 ≤ d && d ≤ 122) then do goTo after; return d % 32
          else if whole then fault "Invalid character escape"
          else return 92
        | [] => if whole then fault "Invalid character escape" else return 92
      else if c = 120 then
        match hexAt? 2 tail with
        | some (d, after) => do goTo after; return d
        | none => if whole then fault "Invalid character escape" else do goTo tail; return c
      else if c = 117 then
        match unicodeAt? whole tail with
        | some (d, after) => do goTo after; return d
        | none => if whole then fault "Invalid character escape" else do goTo tail; return c
      else if whole && !(isMark c || (inClass && c = 45)) then fault "Invalid character escape"
      else do goTo tail; return c

/-! ## Sets in brackets -/

/-- One item of a set: a character, or a set by a letter. -/
def classAtom (whole : Bool) : Reader (Nat ⊕ Ranges) := do
  match ← rest with
  | [] => fault "Unbalanced bracket"
  | 92 :: c :: tail =>
    match setOf? c with
    | some rs => do goTo tail; return .inr rs
    | none =>
      if c = 98 then do goTo tail; return .inl 8
      else do
        goTo (c :: tail)
        return .inl (← escapedChar whole true)
  | c :: tail => do goTo tail; return .inl c

def rangesOf : Nat ⊕ Ranges → Ranges
  | .inl c => [(c, c)]
  | .inr rs => rs

/-- The rest of a set up to its bracket, of at most `n` items. -/
def classItems (whole : Bool) (acc : Ranges) : Nat → Reader Ranges
  | 0 => fault "Unbalanced bracket"
  | n + 1 => do
    if ← eat ']' then return acc
    let a ← classAtom whole
    match ← rest with
    | 45 :: 93 :: _ => classItems whole (acc ++ rangesOf a) n
    | 45 :: tail =>
      goTo tail
      let b ← classAtom whole
      match a, b with
      | .inl lo, .inl hi =>
        if hi < lo then
          fault "Range values reversed, start char code is greater than end char code."
        else classItems whole (acc ++ [(lo, hi)]) n
      | a, b =>
        if whole then fault "Invalid character range"
        else classItems whole (acc ++ rangesOf a ++ [(45, 45)] ++ rangesOf b) n
    | _ => classItems whole (acc ++ rangesOf a) n

/-! ## Parts -/

/-- Repeats what has been read, if that is asked for. -/
def repetition (f : Frame) (n : Node) (first : Nat) : Reader Node := do
  let bounds ← match ← rest with
    | 42 :: tail => do goTo tail; pure (some (0, none))
    | 43 :: tail => do goTo tail; pure (some (1, none))
    | 63 :: tail => do goTo tail; pure (some (0, some 1))
    | 123 :: tail =>
      match bounds? tail with
      | some (b, after) => do goTo after; pure (some b)
      | none => if f.options.whole then fault "Invalid quantifier" else pure none
    | _ => pure none
  match bounds with
  | none => return n
  | some (least, most) =>
    if most.any (· < least) then fault "Invalid quantifier"
    let lazy ← eat '?'
    return .repeated n least most (!lazy) first ((← get).next - first)

/-- What an escape outside of brackets stands for, behind the backslash. -/
def escapedPart (f : Frame) : Reader Node := do
  match ← rest with
  | [] => fault "Incomplete escape"
  | c :: tail =>
    if c = 98 then do goTo tail; return .boundary false
    else if c = 66 then do goTo tail; return .boundary true
    else
      match setOf? c with
      | some rs => do goTo tail; return .set rs false
      | none =>
        if c = 107 && (f.named || f.options.whole) then
          match tail with
          | 60 :: more =>
            match nameAt more with
            | some (name, after) =>
              match f.place? name with
              | some i => do goTo after; return .back i
              | none => fault "Invalid capture group name"
            | none => fault "Invalid named reference"
          | _ => fault "Invalid named reference"
        else if 49 ≤ c && c ≤ 57 then
          match numberAt? (c :: tail) with
          | some (i, after) =>
            if i ≤ f.count then do goTo after; return .back i
            else if f.options.whole then fault "Invalid character escape"
            else return .char (← escapedChar false false)
          | none => return .char (← escapedChar f.options.whole false)
        else return .char (← escapedChar f.options.whole false)

mutual

/-- A choice between alternatives, up to a closing bracket or the end. -/
def choice (f : Frame) : Nat → Reader Node
  | 0 => fault "Pattern too long"
  | fuel + 1 => do
    let a ← sequence f .empty fuel
    if ← eat '|' then return .alt a (← choice f fuel) else return a

/-- The parts of an alternative, behind those in `acc`. -/
def sequence (f : Frame) (acc : Node) : Nat → Reader Node
  | 0 => fault "Pattern too long"
  | fuel + 1 => do
    match ← rest with
    | [] | 124 :: _ | 41 :: _ => return acc
    | _ =>
      let first := (← get).next
      let n ← part f fuel
      let n ← repetition f n first
      sequence f (match acc with
        | .empty => n
        | acc => .seq acc n) fuel

def part (f : Frame) : Nat → Reader Node
  | 0 => fault "Pattern too long"
  | fuel + 1 => do
    let closed (n : Node) : Reader Node := do
      if ← eat ')' then return n else fault "Unbalanced parenthesis"
    match ← rest with
    | 94 :: tail => do goTo tail; return .start
    | 36 :: tail => do goTo tail; return .stop
    | 46 :: tail => do
      goTo tail
      return if f.options.dotAll then .set [] true else .set Ranges.lineEnds true
    | 92 :: tail => do
      goTo tail
      escapedPart f
    | 91 :: 94 :: tail => do
      goTo tail
      return .set (← classItems f.options.whole [] (tail.length + 1)) true
    | 91 :: tail => do
      goTo tail
      return .set (← classItems f.options.whole [] (tail.length + 1)) false
    | 40 :: 63 :: 58 :: tail => do
      goTo tail
      closed (← choice f fuel)
    | 40 :: 63 :: 61 :: tail => do
      goTo tail
      closed (.look true false (← choice f fuel))
    | 40 :: 63 :: 33 :: tail => do
      goTo tail
      closed (.look true true (← choice f fuel))
    | 40 :: 63 :: 60 :: 61 :: tail => do
      goTo tail
      closed (.look false false (← choice f fuel))
    | 40 :: 63 :: 60 :: 33 :: tail => do
      goTo tail
      closed (.look false true (← choice f fuel))
    | 40 :: 63 :: tail =>
      match tail with
      | 60 :: more =>
        match nameAt more with
        | some (_, after) => do
          let i := (← get).next
          set (Reading.mk after (i + 1))
          closed (.group i (← choice f fuel))
        | none => fault "Invalid capture group name"
      | _ => fault "Invalid group"
    | 40 :: tail => do
      let i := (← get).next
      set (Reading.mk tail (i + 1))
      closed (.group i (← choice f fuel))
    | c :: tail =>
      if c = 42 || c = 43 || c = 63 then fault "Nothing to repeat"
      else if c = 123 && (f.options.whole || (bounds? tail).isSome) then fault "Nothing to repeat"
      else if f.options.whole && (c = 93 || c = 125) then fault "Unbalanced bracket"
      else do goTo tail; return .char c
    | [] => return .empty

end

def Compiled.ofChars (o : Options) (cs : List Nat) : Except String Compiled := do
  let groups := scanGroups false cs (cs.length + 1)
  let names := (groups.zipIdx.filterMap fun (g, i) ↦ g.map fun name ↦ (name, i + 1))
  if (names.map (·.1)).eraseDups.length ≠ names.length then throw "Duplicate capture group name"
  let f : Frame := ⟨o, groups⟩
  let (n, r) ← (choice f (3 * cs.length + 5)).run { rest := cs }
  match r.rest with
  | [] => return ⟨n, groups.length, names, o⟩
  | _ => throw "Unbalanced parenthesis"

end Pattern
end ScriptWorkers
