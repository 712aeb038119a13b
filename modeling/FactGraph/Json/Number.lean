import FactGraph.Json.Basic
import FactGraph.Number.Numeral

namespace FactGraph

inductive Overflow where
  | infiniteToInteger
  | integerToFloat
  deriving Repr, DecidableEq

def Overflow.message : Overflow → String
  | .infiniteToInteger => "cannot convert float infinity to integer"
  | .integerToFloat => "int too large to convert to float"

inductive NumberFault where
  | malformed
  | overflow (cause : Overflow)
  deriving Repr, DecidableEq

namespace Json

def toInteger : Json → Except NumberFault Int
  | .bool value => .ok (if value then 1 else 0)
  | .int value => .ok value
  | .float (.finite negative magnitude) => .ok (Binary64.truncated negative magnitude)
  | .float (.infinite _) => .error (.overflow .infiniteToInteger)
  | .text value =>
    match value.string?.bind (Numeral.integer? ·.toList) with
    | some number => .ok number
    | none => .error .malformed
  | .float .nan | .null | .list _ | .object _ => .error .malformed

def toFloat : Json → Except NumberFault Binary64
  | .bool value => .ok (.ofRatio false (if value then 1 else 0) 1)
  | .int value =>
    match Binary64.ofInt? value with
    | some number => .ok number
    | none => .error (.overflow .integerToFloat)
  | .float value => .ok value
  | .text value =>
    match value.string?.bind (Numeral.float? ·.toList) with
    | some number => .ok number
    | none => .error .malformed
  | .null | .list _ | .object _ => .error .malformed

end Json

end FactGraph
