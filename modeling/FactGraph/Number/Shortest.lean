import FactGraph.Number.Binary64

namespace FactGraph

structure Decimal where
  digits : Nat
  exponent : Int
  deriving Repr, DecidableEq

namespace Magnitude

def compareDecimal (d : Decimal) (bound : Nat) (power : Int) : Ordering :=
  compare (withZeros d.digits d.exponent.toNat <<< (-power).toNat)
    (withZeros bound (-d.exponent).toNat <<< power.toNat)

/-- Whether the value nearest to a decimal is `x`: the decimal lies between the points halfway to
    the two neighbours of `x`, and on one of them only if `x` is even. The lower neighbour of a
    power of two is half as far away as the upper one. -/
def readsBack (x : Magnitude) (d : Decimal) : Bool :=
  let narrow := x.significand = 1 <<< 52 ∧ -1074 < x.exponent
  let low := if narrow then 4 * x.significand - 1 else 4 * x.significand - 2
  let high := 4 * x.significand + 2
  let even := x.significand % 2 = 0
  let above := compareDecimal d low (x.exponent - 2)
  let below := compareDecimal d high (x.exponent - 2)
  (above = .gt || (even && above = .eq)) && (below = .lt || (even && below = .eq))

/-- The least `k` with `x < 10 ^ k`, for a positive `x`. The binary logarithm gives it up to two. -/
def decimalScale (x : Magnitude) : Int :=
  let estimate := ((x.significand.log2 : Int) + x.exponent) * 30103 / 100000
  let fits (k : Int) : Bool := withZeros x.num (-k).toNat < withZeros x.den k.toNat
  if fits estimate then estimate
  else if fits (estimate + 1) then estimate + 1
  else estimate + 2

/-- The decimal on the grid `10 ^ exponent` that reads back as `x`, the nearer of the two neighbours
    of `x` on the grid if both do and the even one if they are as near. -/
def onGrid? (x : Magnitude) (exponent : Int) : Option Decimal :=
  let num := withZeros x.num (-exponent).toNat
  let den := withZeros x.den exponent.toNat
  let lower : Decimal := ⟨num / den, exponent⟩
  let upper : Decimal := ⟨num / den + 1, exponent⟩
  match x.readsBack lower, x.readsBack upper with
  | true, true => some ⟨nearestEven num den, exponent⟩
  | true, false => some lower
  | false, true => some upper
  | false, false => none

def exact (x : Magnitude) : Decimal :=
  ⟨x.num * Nat.pow 5 (-x.exponent).toNat, min x.exponent 0⟩

/-- The decimal with the fewest digits that reads back as a positive `x`. Seventeen digits suffice;
    without them it would be the exact one. -/
def shortest (x : Magnitude) : Decimal :=
  let scale := x.decimalScale
  ((List.range 17).findSome? fun (extra : Nat) => x.onGrid? (scale - 1 - extra)).getD x.exact

end Magnitude

end FactGraph
