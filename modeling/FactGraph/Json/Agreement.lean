import FactGraph.Json.Basic

namespace FactGraph.Json

/-- A number as a fraction. The truth values count as one and zero. -/
def fraction? : Json → Option (Int × Nat)
  | .bool value => some (if value then 1 else 0, 1)
  | .int value => some (value, 1)
  | .float (.finite negative magnitude) =>
    some (if negative then -magnitude.num else magnitude.num, magnitude.den)
  | .float _ | .null | .text _ | .list _ | .object _ => none

mutual

/-- Whether two values are equal whichever way their numbers are written and in whatever order their
    members stand. -/
def agrees : Json → Json → Bool
  | .list items, .list others => itemsAgree items others
  | .object members, .object others =>
    members.length = others.length && membersAgree members others
  | a, b =>
    match a.fraction?, b.fraction? with
    | some (m, k), some (n, l) => m * l = n * k
    | _, _ => a = b

def itemsAgree : List Json → List Json → Bool
  | [], [] => true
  | item :: items, other :: others => item.agrees other && itemsAgree items others
  | [], _ :: _ | _ :: _, [] => false

def membersAgree : List (Text × Json) → List (Text × Json) → Bool
  | [], _ => true
  | (key, value) :: members, others =>
    (match get? others key with
      | some other => value.agrees other
      | none => false) && membersAgree members others

end

end FactGraph.Json
