import ScriptWorkers.Script.Units

/-!
# Strings in quotes

A string as JSON and as programs write it: between double quotes, with escapes for what could not
stand there as it is.
-/

namespace ScriptWorkers
namespace Script

/-- A unit inside quotes; `lone` tells that it is a surrogate without its partner. -/
def quotedUnit (lone : Bool) (u : UInt16) : List UInt16 :=
  match u.toNat with
  | 8 => Units.ofString "\\b"
  | 9 => Units.ofString "\\t"
  | 10 => Units.ofString "\\n"
  | 12 => Units.ofString "\\f"
  | 13 => Units.ofString "\\r"
  | 34 => Units.ofString "\\\""
  | 92 => Units.ofString "\\\\"
  | n => if n < 32 || lone then Units.ofString (String.ofList (Units.escaped false u)) else [u]

def quotedBody : Units → Units
  | [] => []
  | hi :: lo :: rest =>
    if Units.isHigh hi && Units.isLow lo then hi :: lo :: quotedBody rest
    else quotedUnit (Units.isHigh hi || Units.isLow hi) hi ++ quotedBody (lo :: rest)
  | [u] => quotedUnit (Units.isHigh u || Units.isLow u) u

def quoted (s : Units) : Units := 34 :: (quotedBody s ++ [34])

end Script
end ScriptWorkers
