import ScriptWorkers.Decimal.Layout

/-!
# Dates

A date is a number of milliseconds since the start of 1970.  It is written out in full, as
`2020-02-29T12:00:00.000Z`, or for reading, as `Sat Feb 29 2020 12:00:00 GMT+0000`, and the first of
these can be read again, also with parts left off at the end.
-/

namespace ScriptWorkers
namespace Script
namespace Calendar

def day : Int := 86400000

/-- The year, month and day of a number of days since the start of 1970. -/
def civil (days : Int) : Int × Nat × Nat :=
  let z := days + 719468
  let era := z.fdiv 146097
  let doe := (z - era * 146097).toNat
  let yoe := (doe - doe / 1460 + doe / 36524 - doe / 146096) / 365
  let doy := doe - (365 * yoe + yoe / 4 - yoe / 100)
  let mp := (5 * doy + 2) / 153
  let d := doy - (153 * mp + 2) / 5 + 1
  let m := if mp < 10 then mp + 3 else mp - 9
  let y := (yoe : Int) + era * 400 + (if m ≤ 2 then 1 else 0)
  (y, m, d)

/-- The number of days from the start of 1970 to a date. -/
def daysTo (y : Int) (m d : Nat) : Int :=
  let y := if m ≤ 2 then y - 1 else y
  let era := y.fdiv 400
  let yoe := y - era * 400
  let doy := (153 * (if m > 2 then m - 3 else m + 9) + 2) / 5 + d - 1
  era * 146097 + (yoe * 365 + yoe / 4 - yoe / 100 + doy) - 719468

def padded (width n : Nat) : String :=
  let ds := Nat.toDigits 10 n
  String.ofList (List.replicate (width - ds.length) '0' ++ ds)

def clockText (ms : Nat) : String :=
  padded 2 (ms / 3600000) ++ ":" ++ padded 2 (ms / 60000 % 60) ++ ":" ++ padded 2 (ms / 1000 % 60)

def fullText (time : Int) : String :=
  let days := time.fdiv day
  let ms := (time - days * day).toNat
  let (y, m, d) := civil days
  let year :=
    if 0 ≤ y && y ≤ 9999 then padded 4 y.toNat
    else (if y < 0 then "-" else "+") ++ padded 6 y.natAbs
  year ++ "-" ++ padded 2 m ++ "-" ++ padded 2 d ++ "T" ++ clockText ms ++ "." ++
    padded 3 (ms % 1000) ++ "Z"

/-- The days of the week, from the one that 1970 started with. -/
def weekdays : List String := ["Thu", "Fri", "Sat", "Sun", "Mon", "Tue", "Wed"]

def months : List String :=
  ["Jan", "Feb", "Mar", "Apr", "May", "Jun", "Jul", "Aug", "Sep", "Oct", "Nov", "Dec"]

/-- A year of at least four digits, or of six behind a minus sign. -/
def yearText (y : Int) : String := (if y < 0 then "-" else "") ++ padded 4 y.natAbs

/-- The day of the week of a number of days since the start of 1970. -/
def weekday (days : Int) : String := (weekdays[(days.fmod 7).toNat]?).getD ""

def monthName (m : Nat) : String := (months[m - 1]?).getD ""

/-- The date of a time, for reading. -/
def plainDate (time : Int) : String :=
  let days := time.fdiv day
  let (y, m, d) := civil days
  weekday days ++ " " ++ monthName m ++ " " ++ padded 2 d ++ " " ++ yearText y

/-- The time of day, for reading. -/
def plainClock (time : Int) : String := clockText (time.fmod day).toNat ++ " GMT+0000"

/-- A time, written out for reading. -/
def plainText (time : Int) : String := plainDate time ++ " " ++ plainClock time

/-- A time, written out as in the head of a letter. -/
def formalText (time : Int) : String :=
  let days := time.fdiv day
  let (y, m, d) := civil days
  weekday days ++ ", " ++ padded 2 d ++ " " ++ monthName m ++ " " ++ yearText y ++ " " ++
    clockText (time.fmod day).toNat ++ " GMT"

/-- The double is a time that can be written out. -/
def isTime (f : Float) : Bool := f.isFinite && f.abs ≤ 8.64e15

/-! ## Reading -/

/-- A number of exactly `n` digits, and what follows. -/
def digits? (n : Nat) (cs : List Char) : Option (Nat × List Char) :=
  let ds := cs.take n
  if ds.length = n && ds.all Char.isDigit then some (Decimal.valueOf ds, cs.drop n) else none

/-- The year at the front: four digits, or a sign and six. -/
def year? : List Char → Option (Int × List Char)
  | '+' :: cs => (digits? 6 cs).map fun (n, r) ↦ ((n : Int), r)
  | '-' :: cs => (digits? 6 cs).bind fun (n, r) ↦ if n = 0 then none else some (-(n : Int), r)
  | cs => (digits? 4 cs).map fun (n, r) ↦ ((n : Int), r)

/-- Two digits after a mark, if the mark is there; otherwise what is left out stands for
`default`. -/
def part? (m : Char) (default : Nat) (cs : List Char) : Option (Nat × List Char) :=
  match cs with
  | c :: rest => if c = m then digits? 2 rest else some (default, cs)
  | [] => some (default, [])

/-- Milliseconds after a point, always three digits. -/
def fraction? : List Char → Option (Nat × List Char)
  | '.' :: cs => digits? 3 cs
  | cs => some (0, cs)

/-- The offset from the time of the zero meridian, in minutes, up to the end of the text. -/
def offset? : List Char → Option Int
  | [] => some 0
  | ['Z'] => some 0
  | sign :: cs => do
    let (h, cs) ← digits? 2 cs
    match cs with
    | ':' :: cs =>
      let (m, cs) ← digits? 2 cs
      if !cs.isEmpty || h > 23 || m > 59 then none
      else if sign = '+' then some (60 * h + m : Int)
      else if sign = '-' then some (-(60 * h + m : Int))
      else none
    | _ => none

/-- The time of day after its mark, in milliseconds; midnight can also end a day. -/
def clock? : List Char → Option Int
  | [] => some 0
  | 'T' :: cs => do
    let (h, cs) ← digits? 2 cs
    let cs ← match cs with
      | ':' :: cs => some cs
      | _ => none
    let (m, cs) ← digits? 2 cs
    let (s, cs) ← part? ':' 0 cs
    let (ms, cs) ← fraction? cs
    let offset ← offset? cs
    let total : Int := 3600000 * h + 60000 * m + 1000 * s + ms
    if m > 59 || s > 59 || total > day then none else some (total - 60000 * offset)
  | _ => none

/-- The time that a text written out in full spells.  A month may have too many days; they are then
some of the next one. -/
def readFull? (cs : List Char) : Option Int := do
  let (y, cs) ← year? cs
  let (m, cs) ← part? '-' 1 cs
  let (d, cs) ← part? '-' 1 cs
  if m < 1 || m > 12 || d < 1 || d > 31 then none
  else
    let t ← clock? cs
    some ((daysTo y m 1 + (d - 1 : Nat)) * day + t)

/-- The number of a month by its name. -/
def month? (cs : List Char) : Option Nat :=
  (months.findIdx? fun name ↦ name.toList == cs).map (· + 1)

/-- Hours, minutes and seconds, in milliseconds. -/
def plainClock? (cs : List Char) : Option Int := do
  let (h, cs) ← digits? 2 cs
  let (m, cs) ← part? ':' 60 cs
  let (s, cs) ← part? ':' 60 cs
  if !cs.isEmpty || h > 23 || m > 59 || s > 59 then none
  else some (3600000 * h + 60000 * m + 1000 * s)

def monthLength (y : Int) (m : Nat) : Nat :=
  if m = 12 then 31 else (daysTo y (m + 1) 1 - daysTo y m 1).toNat

/-- The time of a year, a month, a day and a time of day, each by its text. -/
def ofParts? (y m d clock : String) : Option Int := do
  let (year, rest) ← digits? 4 y.toList
  let month ← month? m.toList
  let (date, rest') ← digits? 2 d.toList
  let t ← plainClock? clock.toList
  if !rest.isEmpty || !rest'.isEmpty || date < 1 || date > monthLength year month then none
  else some (daysTo year month date * day + t)

/-- The offset from the time of the zero meridian behind its name, in minutes. -/
def zone? (cs : List Char) : Option Int := do
  match cs with
  | 'G' :: 'M' :: 'T' :: sign :: rest =>
    let (h, rest) ← digits? 2 rest
    let (m, rest) ← digits? 2 rest
    if !rest.isEmpty || m > 59 then none
    else if sign = '+' then some (60 * h + m : Int)
    else if sign = '-' then some (-(60 * h + m : Int))
    else none
  | _ => none

/-- The time that a text written for reading spells, in either of two orders of its parts. -/
def readPlain? (cs : List Char) : Option Int :=
  match (String.ofList cs).splitOn " " with
  | [w, m, d, y, clock, zone] => do
    if zone = "GMT" then
      -- The day stands in front of the month, and a comma in front of both.
      if weekdays.any (· ++ "," == w) then ofParts? y d m clock else none
    else
      let offset ← zone? zone.toList
      let t ← ofParts? y m d clock
      if weekdays.contains w then some (t - 60000 * offset) else none
  | _ => none

def read? (cs : List Char) : Option Int :=
  match readFull? cs with
  | some t => some t
  | none => readPlain? cs

end Calendar
end Script
end ScriptWorkers
