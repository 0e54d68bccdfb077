import ScriptWorkers.Script.Builtin

/-!
# Texts in addresses

In an address most characters are written as the bytes of their encoding, each behind
a percent sign.
-/

namespace ScriptWorkers
namespace Script

open Eval

/-- Characters that may always stand in an address. -/
def isPlainUnit (u : UInt16) : Bool :=
  let c := Char.ofNat u.toNat
  c.isAlphanum || "-_.!~*'()".toList.contains c

/-- Characters that divide an address into its parts. -/
def isDivider (u : UInt16) : Bool := ";/?:@&=+$,#".toList.contains (Char.ofNat u.toNat)

/-- A byte behind a percent sign. -/
def percented (b : Nat) : Units :=
  Units.ofString (String.ofList ['%', Units.hexDigit true (b / 16), Units.hexDigit true (b % 16)])

def charBytes (c : Char) : List Nat := (String.ofList [c]).toUTF8.toList.map UInt8.toNat

/-- A string as it stands in an address, where some characters stay as they are; `none` if there is
a surrogate without its partner. -/
def encoded? (stays : UInt16 → Bool) : Units → Option Units
  | [] => some []
  | hi :: lo :: rest =>
    if stays hi then (encoded? stays (lo :: rest)).map (hi :: ·)
    else if Units.isHigh hi && Units.isLow lo then
      (encoded? stays rest).map ((charBytes (Units.join hi lo)).flatMap percented ++ ·)
    else if Units.isHigh hi || Units.isLow hi then none
    else (encoded? stays (lo :: rest)).map
      ((charBytes (Char.ofNat hi.toNat)).flatMap percented ++ ·)
  | [u] =>
    if stays u then some [u]
    else if Units.isHigh u || Units.isLow u then none
    else some ((charBytes (Char.ofNat u.toNat)).flatMap percented)

def hexValue? (u : UInt16) : Option Nat :=
  (Text.digitValue? (Char.ofNat u.toNat)).bind fun d ↦ if d < 16 then some d else none

/-- The byte behind a percent sign, and what follows. -/
def byteAt (s : Units) : Except String (Nat × Units) :=
  match s with
  | a :: b :: rest =>
    match hexValue? a, hexValue? b with
    | some x, some y => .ok (16 * x + y, rest)
    | _, _ => .error "invalid hexadecimal digit found"
  | _ => .error "invalid escape character found"

/-- Further bytes of a character, each behind a percent sign, `n` of them. -/
def moreBytes (s : Units) : Nat → Except String (List Nat × Units)
  | 0 => .ok ([], s)
  | n + 1 =>
    match s with
    | 37 :: rest => do
      let (b, rest) ← byteAt rest
      if b / 64 ≠ 2 then .error "invalid UTF-8 encoding found"
      let (bs, rest) ← moreBytes rest n
      return (b :: bs, rest)
    | _ => .error "escape characters must be preceded with a % sign"

/-- The number of bytes of a character by its first byte. -/
def byteCount (b : Nat) : Nat :=
  if b < 0x80 then 1 else if b < 0xC2 then 0 else if b < 0xE0 then 2 else if b < 0xF0 then 3
  else if b < 0xF5 then 4 else 0

/-- A string without the percent signs, of at most `n` characters; some characters keep theirs. -/
def decoded (keeps : UInt16 → Bool) (s : Units) : Nat → Except String Units
  | 0 => .ok []
  | n + 1 =>
    match s with
    | [] => .ok []
    | 37 :: rest => do
      let (b, after) ← byteAt rest
      let count := byteCount b
      if count = 1 then
        let u := UInt16.ofNat b
        let front := if keeps u then 37 :: rest.take 2 else [u]
        return front ++ (← decoded keeps after n)
      else if count = 0 then .error "invalid UTF-8 encoding found"
      else
        let (bs, after) ← moreBytes after (count - 1)
        match String.fromUTF8? (ByteArray.mk ((b :: bs).map UInt8.ofNat).toArray) with
        | some t => return Units.ofString t ++ (← decoded keeps after n)
        | none => .error "invalid UTF-8 encoding found"
    | u :: rest => do return u :: (← decoded keeps rest n)

/-- A function that writes a string for an address. -/
def encoding (stays : UInt16 → Bool) : Caller → Value → List Value → Eval Value :=
  fun call _ args ↦ do
    match encoded? stays (← toUnits call (argument args 0)) with
    | some s => return .string s
    | none => raise .uri "trying to encode an invalid string"

/-- A function that reads a string in an address. -/
def decoding (keeps : UInt16 → Bool) : Caller → Value → List Value → Eval Value :=
  fun call _ args ↦ do
    let s ← toUnits call (argument args 0)
    match decoded keeps s (s.length + 1) with
    | .ok t => return .string t
    | .error text => raise .uri text

/-- Global functions on texts in addresses. -/
def uriFunctions : List Builtin := [
  ⟨"decodeURI", 1, decoding isDivider⟩,
  ⟨"decodeURIComponent", 1, decoding fun _ ↦ false⟩,
  ⟨"encodeURI", 1, encoding fun u ↦ isPlainUnit u || isDivider u⟩,
  ⟨"encodeURIComponent", 1, encoding isPlainUnit⟩]

end Script
end ScriptWorkers
