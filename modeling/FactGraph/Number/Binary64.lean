namespace FactGraph

def withZeros (n zeros : Nat) : Nat := n * Nat.pow 10 zeros

/-- Which pairs `m * 2 ^ e` are in the form in which binary64 stores a finite value: 53 bits with
    the top bit set, or fewer at the least exponent. -/
def Magnitude.Canonical (m : Nat) (e : Int) : Prop :=
  m < 1 <<< 53 ∧ -1074 ≤ e ∧ e ≤ 971 ∧ (1 <<< 52 ≤ m ∨ e = -1074)

instance (m : Nat) (e : Int) : Decidable (Magnitude.Canonical m e) := by
  unfold Magnitude.Canonical
  infer_instance

/-- The finite value `significand * 2 ^ exponent`, not negative. -/
structure Magnitude where
  significand : Nat
  exponent : Int
  canonical : Magnitude.Canonical significand exponent
  deriving DecidableEq

/-- A floating-point number of 64 bits. There is one NaN, and zero has a sign. -/
inductive Binary64 where
  | nan
  | infinite (negative : Bool)
  | finite (negative : Bool) (magnitude : Magnitude)
  deriving DecidableEq

namespace Magnitude

def ofPair? (m : Nat) (e : Int) : Option Magnitude :=
  if canonical : Canonical m e then some ⟨m, e, canonical⟩ else none

def zero : Magnitude := ⟨0, -1074, by decide⟩

def num (x : Magnitude) : Nat := x.significand <<< x.exponent.toNat

def den (x : Magnitude) : Nat := 1 <<< (-x.exponent).toNat

end Magnitude

def nearestEven (num den : Nat) : Nat :=
  let floor := num / den
  match compare (2 * (num % den)) den with
  | .lt => floor
  | .gt => floor + 1
  | .eq => if floor % 2 = 0 then floor else floor + 1

/-- The exponent at which a positive `num / den` has 53 bits before the point, or the least one. -/
def unitExponent (num den : Nat) : Int :=
  let bits : Int := num.log2 - den.log2
  let below := num <<< (-bits).toNat < den <<< bits.toNat
  max (if below then bits - 53 else bits - 52) (-1074)

def Magnitude.nearest? (num den : Nat) : Option Magnitude :=
  if num = 0 then some .zero
  else
    let e := unitExponent num den
    let m := nearestEven (num <<< (-e).toNat) (den <<< e.toNat)
    if m = 1 <<< 53 then ofPair? (1 <<< 52) (e + 1) else ofPair? m e

namespace Binary64

def zero : Binary64 := .finite false .zero

def ofRatio (negative : Bool) (num den : Nat) : Binary64 :=
  match Magnitude.nearest? num den with
  | some magnitude => .finite negative magnitude
  | none => .infinite negative

def ofInt? (n : Int) : Option Binary64 :=
  (Magnitude.nearest? n.natAbs 1).map (.finite (n < 0))

/-- The value nearest to `significand * 10 ^ exponent`. Far outside the range of exponents the
    answer is known from the number of digits alone. -/
def ofDecimal (negative : Bool) (significand digits : Nat) (exponent : Int) : Binary64 :=
  if significand = 0 then .finite negative .zero
  else if 400 < exponent then .infinite negative
  else if exponent + digits < -400 then .finite negative .zero
  else ofRatio negative (withZeros significand exponent.toNat) (withZeros 1 (-exponent).toNat)

def isZero : Binary64 → Bool
  | .finite _ magnitude => magnitude.significand = 0
  | _ => false

def truncated (negative : Bool) (magnitude : Magnitude) : Int :=
  let whole : Int := magnitude.num / magnitude.den
  if negative then -whole else whole

end Binary64

end FactGraph
