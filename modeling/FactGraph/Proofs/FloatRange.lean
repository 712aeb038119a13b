import FactGraph.Number.Binary64
import Mathlib.Tactic.Positivity

namespace FactGraph

section NearestEven

variable {num den : Nat}

@[simp] theorem nearestEven_one : nearestEven num 1 = num := by
  have below : compare (2 * (num % 1)) 1 = .lt := Nat.compare_eq_lt.mpr (by omega)
  simp [nearestEven, below]

theorem nearestEven_eq_or :
    nearestEven num den = num / den ∨ nearestEven num den = num / den + 1 := by
  unfold nearestEven
  cases compare (2 * (num % den)) den with
  | lt => exact .inl rfl
  | gt => exact .inr rfl
  | eq =>
    by_cases even : num / den % 2 = 0
    · simp [even]
    · simp [even]

theorem nearestEven_eq_succ_iff_of_odd (odd : num / den % 2 = 1) :
    nearestEven num den = num / den + 1 ↔ den ≤ 2 * (num % den) := by
  unfold nearestEven
  cases order : compare (2 * (num % den)) den with
  | lt =>
    have below := Nat.compare_eq_lt.mp order
    change num / den = num / den + 1 ↔ _
    omega
  | gt =>
    have above := Nat.compare_eq_gt.mp order
    change num / den + 1 = num / den + 1 ↔ _
    omega
  | eq =>
    have half := Nat.compare_eq_eq.mp order
    simp [odd, half]

end NearestEven

theorem unitExponent_one {n : Nat} (positive : n ≠ 0) : unitExponent n 1 = (n.log2 : Int) - 52 := by
  have scale : 1 <<< n.log2 ≤ n := by
    rw [Nat.shiftLeft_eq, Nat.one_mul]
    exact Nat.log2_self_le positive
  have unit : Nat.log2 1 = 0 := rfl
  have reached : ¬ n < 1 <<< n.log2 := Nat.not_lt.mpr scale
  unfold unitExponent
  simp only [unit, Nat.cast_zero, sub_zero, Int.toNat_neg_natCast, Nat.shiftLeft_zero,
    Int.toNat_natCast, if_neg reached]
  omega

/-- The least natural number that is rounded beyond the largest finite value: it lies half a unit
    of the last place above it. -/
def Binary64.overflowBound : Nat := 2 ^ 1024 - 2 ^ 970

namespace Magnitude

variable {n : Nat}

theorem ofPair?_eq_none_iff {m : Nat} {e : Int} : ofPair? m e = none ↔ ¬ Canonical m e := by
  unfold ofPair?
  split <;> simp_all

theorem carried_eq_none_iff {m : Nat} {e : Int} (lower : 2 ^ 52 ≤ m) (upper : m ≤ 2 ^ 53)
    (least : -1074 ≤ e) :
    (if m = 1 <<< 53 then ofPair? (1 <<< 52) (e + 1) else ofPair? m e) = none ↔
      971 < e ∨ e = 971 ∧ m = 2 ^ 53 := by
  have top : (1 : Nat) <<< 53 = 2 ^ 53 := by decide
  have half : (1 : Nat) <<< 52 = 2 ^ 52 := by decide
  by_cases carried : m = 2 ^ 53
  -- A carry leaves the top bit alone, one exponent higher.
  · rw [top, if_pos carried, ofPair?_eq_none_iff, half]
    unfold Canonical
    omega
  · rw [top, if_neg carried, ofPair?_eq_none_iff]
    unfold Canonical
    omega

theorem nearest?_ne_none_of_lt (small : n < 2 ^ 53) : nearest? n 1 ≠ none := by
  by_cases zero : n = 0
  · simp [nearest?, zero]
  have low : 2 ^ n.log2 ≤ n := Nat.log2_self_le zero
  have high : n < 2 ^ (n.log2 + 1) := Nat.lt_log2_self
  have places : n.log2 < 53 := (Nat.log2_lt zero).mpr small
  have exponent : unitExponent n 1 = -((52 - n.log2 : Nat) : Int) := by
    rw [unitExponent_one zero]
    omega
  have shift : 2 ^ n.log2 * 2 ^ (52 - n.log2) = 2 ^ 52 := by
    rw [← Nat.pow_add]
    congr 1
    omega
  have lower : 2 ^ 52 ≤ n * 2 ^ (52 - n.log2) := shift ▸ Nat.mul_le_mul_right _ low
  have upper : n * 2 ^ (52 - n.log2) < 2 ^ 53 := by
    have wide : n * 2 ^ (52 - n.log2) < 2 ^ (n.log2 + 1) * 2 ^ (52 - n.log2) :=
      Nat.mul_lt_mul_of_pos_right high (by positivity)
    rw [Nat.pow_succ, Nat.mul_right_comm, shift] at wide
    exact wide
  unfold nearest?
  simp only [if_neg zero, exponent, Int.neg_neg, Int.toNat_natCast, Int.toNat_neg_natCast,
    Nat.shiftLeft_zero, nearestEven_one]
  rw [Nat.shiftLeft_eq, Ne, carried_eq_none_iff lower (by omega) (by omega)]
  omega

theorem nearest?_eq_none_iff_of_le (large : 2 ^ 53 ≤ n) :
    nearest? n 1 = none ↔ 1024 ≤ n.log2 ∨ n.log2 = 1023 ∧ nearestEven n (2 ^ 971) = 2 ^ 53 := by
  have positive : n ≠ 0 := by omega
  have places : 53 ≤ n.log2 := (Nat.le_log2 positive).mpr large
  have exponent : unitExponent n 1 = ((n.log2 - 52 : Nat) : Int) := by
    rw [unitExponent_one positive]
    omega
  have lower : 2 ^ 52 ≤ n / 2 ^ (n.log2 - 52) := by
    rw [Nat.le_div_iff_mul_le (by positivity), ← Nat.pow_add]
    have sum : 52 + (n.log2 - 52) = n.log2 := by omega
    rw [sum]
    exact Nat.log2_self_le positive
  have upper : n / 2 ^ (n.log2 - 52) < 2 ^ 53 := by
    rw [Nat.div_lt_iff_lt_mul (by positivity), ← Nat.pow_add]
    have sum : 53 + (n.log2 - 52) = n.log2 + 1 := by omega
    rw [sum]
    exact Nat.lt_log2_self
  have rounded := @nearestEven_eq_or n (2 ^ (n.log2 - 52))
  have unit : 1 <<< (n.log2 - 52) = 2 ^ (n.log2 - 52) := by rw [Nat.shiftLeft_eq, Nat.one_mul]
  unfold nearest?
  simp only [if_neg positive, exponent, Int.toNat_neg_natCast, Int.toNat_natCast,
    Nat.shiftLeft_zero]
  rw [unit, carried_eq_none_iff (by omega) (by omega) (by omega)]
  have last : ((n.log2 - 52 : Nat) : Int) = 971 ↔ n.log2 = 1023 := by omega
  have beyond : 971 < ((n.log2 - 52 : Nat) : Int) ↔ 1024 ≤ n.log2 := by omega
  have place : n.log2 = 1023 → n.log2 - 52 = 971 := by omega
  rw [last, beyond]
  refine or_congr_right (and_congr_right fun top => ?_)
  simp only [place top]

theorem carried_last_iff (last : n.log2 = 1023) :
    nearestEven n (2 ^ 971) = 2 ^ 53 ↔ Binary64.overflowBound ≤ n := by
  have positive : n ≠ 0 := by
    rintro rfl
    simp at last
  have size (k : Nat) : n.log2 < k ↔ n < 2 ^ k := Nat.log2_lt positive
  have bound : n < 2 ^ 1024 := (size 1024).mp (by omega)
  have parts := Nat.div_add_mod n (2 ^ 971)
  have rest : n % 2 ^ 971 < 2 ^ 971 := Nat.mod_lt _ (by positivity)
  have rounded := @nearestEven_eq_or n (2 ^ 971)
  -- The largest significand is odd, so that a tie above it is rounded away from it.
  have toward := @nearestEven_eq_succ_iff_of_odd n (2 ^ 971)
  unfold Binary64.overflowBound
  omega

theorem nearest?_eq_none_iff : nearest? n 1 = none ↔ Binary64.overflowBound ≤ n := by
  have bound : 2 ^ 1023 ≤ Binary64.overflowBound ∧ Binary64.overflowBound < 2 ^ 1024 := by
    unfold Binary64.overflowBound
    omega
  by_cases small : n < 2 ^ 53
  · exact iff_of_false (nearest?_ne_none_of_lt small) (by omega)
  have positive : n ≠ 0 := by omega
  have size (k : Nat) : n.log2 < k ↔ n < 2 ^ k := Nat.log2_lt positive
  have below := size 1023
  have within := size 1024
  rw [nearest?_eq_none_iff_of_le (Nat.le_of_not_lt small)]
  constructor
  · rintro (beyond | ⟨last, carried⟩)
    · omega
    · exact (carried_last_iff last).mp carried
  · intro reached
    by_cases beyond : 1024 ≤ n.log2
    · exact .inl beyond
    · have last : n.log2 = 1023 := by omega
      exact .inr ⟨last, (carried_last_iff last).mpr reached⟩

end Magnitude

theorem Binary64.ofInt?_eq_none_iff {n : Int} :
    Binary64.ofInt? n = none ↔ Binary64.overflowBound ≤ n.natAbs := by
  unfold Binary64.ofInt?
  rw [Option.map_eq_none_iff, Magnitude.nearest?_eq_none_iff]

end FactGraph
