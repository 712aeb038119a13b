import FactGraph.Uuid.Reader
import Mathlib.Data.List.Basic
import Mathlib.Tactic.IntervalCases

namespace FactGraph

namespace Text

theorem numberOf_append_singleton (base : Nat) (digits : List Nat) (last : Nat) :
    numberOf base (digits ++ [last]) = numberOf base digits * base + last := by
  simp only [numberOf, List.foldl_append, List.foldl_cons, List.foldl_nil]

theorem numberOf_fixedDigits (base width n : Nat) :
    numberOf base (fixedDigits base width n) = n % base ^ width := by
  induction width generalizing n with
  | zero =>
    rw [Nat.pow_zero, Nat.mod_one]
    rfl
  | succ width ih =>
    rw [fixedDigits, numberOf_append_singleton, ih, Nat.pow_succ', Nat.mod_mul, Nat.mul_comm,
      Nat.add_comm]

theorem length_fixedDigits (base width n : Nat) : (fixedDigits base width n).length = width := by
  induction width generalizing n with
  | zero => rfl
  | succ width ih => rw [fixedDigits, List.length_append, ih, List.length_singleton]

theorem lt_of_mem_fixedDigits {base width n digit : Nat} (positive : 0 < base)
    (member : digit ∈ fixedDigits base width n) : digit < base := by
  induction width generalizing n with
  | zero => cases member
  | succ width ih =>
    rw [fixedDigits, List.mem_append, List.mem_singleton] at member
    rcases member with earlier | rfl
    · exact ih earlier
    · exact Nat.mod_lt n positive

def lowerDigits : List Char :=
  ['0', '1', '2', '3', '4', '5', '6', '7', '8', '9', 'a', 'b', 'c', 'd', 'e', 'f']

theorem of_mem_lowerDigits {p : Char → Bool} (checked : lowerDigits.all p = true) {c : Char}
    (member : c ∈ lowerDigits) : p c = true :=
  List.all_eq_true.mp checked c member

theorem digitChar_mem {digit : Nat} (small : digit < 16) : digitChar digit ∈ lowerDigits := by
  interval_cases digit <;> decide

theorem digitIn?_digitChar {digit : Nat} (small : digit < 16) :
    digitIn? 16 (digitChar digit) = some digit := by
  interval_cases digit <;> decide

theorem mem_hexadecimal {width n : Nat} {c : Char} (member : c ∈ hexadecimal width n) :
    c ∈ lowerDigits := by
  obtain ⟨digit, listed, rfl⟩ := List.mem_map.mp member
  exact digitChar_mem (lt_of_mem_fixedDigits (by decide) listed)

theorem cut_ends_eq_self {s : List Char} {p : Char → Bool} (clean : ∀ c ∈ s, p c = false) :
    ((s.dropWhile p).reverse.dropWhile p).reverse = s := by
  have kept (t : List Char) (solid : ∀ c ∈ t, p c = false) : t.dropWhile p = t := by
    cases t with
    | nil => rfl
    | cons c t =>
      rw [List.dropWhile_cons_of_neg]
      simp [solid c (by simp)]
  rw [kept s clean, kept s.reverse (by simpa using clean), List.reverse_reverse]

end Text

namespace Numeral

open Text

theorem plain?_eq_self {s : List Char} (ascii : ∀ c ∈ s, c.toNat < 0x80)
    (solid : ∀ c ∈ s, isAsciiBlank c = false) : plain? s = some s := by
  have unchanged : s.mapM plainChar? = some s := by
    clear solid
    induction s with
    | nil => rfl
    | cons c s ih =>
      rw [List.forall_mem_cons] at ascii
      rw [List.mapM_cons, ih ascii.2, plainChar?, if_pos ascii.1]
      rfl
  have trimmed : trim s = s := cut_ends_eq_self solid
  rw [plain?, unchanged, Option.map_some, trimmed]

theorem signed_eq {s : List Char} (unsigned : ∀ c ∈ s, c ≠ '+' ∧ c ≠ '-') :
    signed s = (false, s) := by
  unfold signed
  split <;> simp at unsigned ⊢

theorem dropHexMarker_eq_self {s : List Char} (unmarked : ∀ c ∈ s, c ≠ 'x' ∧ c ≠ 'X') :
    dropHexMarker s = s := by
  unfold dropHexMarker
  split
  · rename_i marker rest
    have plainMarker := unmarked marker (by simp)
    rw [if_neg (by simp [plainMarker])]
  · rfl

theorem digits?_map_digitChar {digits : List Nat} (nonempty : digits ≠ [])
    (small : ∀ digit ∈ digits, digit < 16) :
    digits? 16 (digits.map digitChar) = some digits := by
  induction digits with
  | nil => exact absurd rfl nonempty
  | cons digit rest ih =>
    rw [List.forall_mem_cons] at small
    have read := digitIn?_digitChar small.1
    cases rest with
    | nil => simp [digits?, read]
    | cons next rest =>
      have later := ih (by simp) small.2
      have noMark : digitChar next ≠ '_' := by
        have listed := digitChar_mem (small.2 next (by simp))
        intro mark
        rw [mark] at listed
        exact absurd listed (by decide)
      simp only [List.map_cons] at later ⊢
      rw [digits?]
      · simp [read, later]
      · simp
      · intro after marked
        exact noMark (List.cons.inj marked).1

theorem hexadecimal?_map_digitChar {digits : List Nat} (nonempty : digits ≠ [])
    (small : ∀ digit ∈ digits, digit < 16) :
    hexadecimal? (digits.map digitChar) = some (numberOf 16 digits) := by
  have each : ∀ c ∈ digits.map digitChar, c ∈ lowerDigits := by
    intro c member
    obtain ⟨digit, listed, rfl⟩ := List.mem_map.mp member
    exact digitChar_mem (small digit listed)
  have read {p : Char → Bool} (checked : lowerDigits.all p = true) :
      ∀ c ∈ digits.map digitChar, p c = true :=
    fun c member => of_mem_lowerDigits checked (each c member)
  have plain : plain? (digits.map digitChar) = some (digits.map digitChar) := by
    apply plain?_eq_self
    · intro c member
      exact of_decide_eq_true (read (p := fun c => c.toNat < 0x80) (by decide) c member)
    · intro c member
      exact of_decide_eq_true (read (p := fun c => isAsciiBlank c = false) (by decide) c member)
  have unsigned : signed (digits.map digitChar) = (false, digits.map digitChar) := by
    apply signed_eq
    intro c member
    exact of_decide_eq_true (read (p := fun c => c ≠ '+' ∧ c ≠ '-') (by decide) c member)
  have unmarked : dropHexMarker (digits.map digitChar) = digits.map digitChar := by
    apply dropHexMarker_eq_self
    intro c member
    exact of_decide_eq_true (read (p := fun c => c ≠ 'x' ∧ c ≠ 'X') (by decide) c member)
  simp [hexadecimal?, plain, unsigned, unmarked, digits?_map_digitChar nonempty small]

end Numeral

namespace Uuid

open Text

theorem dropUrn_eq_self {s : List Char} (unnamed : 'u' ∉ s) : dropUrn s = s := by
  fun_induction dropUrn s with
  | case1 => rfl
  | case2 => simp at unnamed
  | case3 c rest _ ih => rw [ih fun later => unnamed (List.mem_cons_of_mem c later)]

theorem dropScheme_eq_self {s : List Char} (unnamed : 'u' ∉ s) : dropScheme s = s := by
  fun_induction dropScheme s with
  | case1 => rfl
  | case2 => simp at unnamed
  | case3 c rest _ ih => rw [ih fun later => unnamed (List.mem_cons_of_mem c later)]

theorem mem_dashed {digits : List Char} {c : Char} (member : c ∈ dashed digits) :
    c = '-' ∨ c ∈ digits := by
  have part {start : Nat} (later : c ∈ digits.drop start) : c ∈ digits :=
    List.mem_of_mem_drop later
  simp only [dashed, List.mem_append, List.mem_cons] at member
  rcases member with (((first | dash | group) | dash | group) | dash | group) | dash | last
  · exact .inr (List.mem_of_mem_take first)
  · exact .inl dash
  · exact .inr (part (List.mem_of_mem_take group))
  · exact .inl dash
  · exact .inr (part (List.mem_of_mem_take group))
  · exact .inl dash
  · exact .inr (part (List.mem_of_mem_take group))
  · exact .inl dash
  · exact .inr (part last)

theorem filter_dashed {digits : List Char} (undashed : '-' ∉ digits) :
    (dashed digits).filter (· ≠ '-') = digits := by
  have kept {part : List Char} (sub : part ⊆ digits) : part.filter (· ≠ '-') = part := by
    apply List.filter_eq_self.mpr
    intro c member
    apply decide_eq_true
    rintro rfl
    exact undashed (sub member)
  have group (start width : Nat) : ((digits.drop start).take width).filter (· ≠ '-') =
      (digits.drop start).take width :=
    kept fun _ member => List.mem_of_mem_drop (List.mem_of_mem_take member)
  have dash (rest : List Char) : ('-' :: rest).filter (· ≠ '-') = rest.filter (· ≠ '-') := rfl
  -- The groups follow one another in the digits.
  have join (start width : Nat) :
      digits.take start ++ (digits.drop start).take width = digits.take (start + width) :=
    List.take_add.symm
  unfold dashed
  simp only [List.filter_append, dash, group, kept (List.take_subset _ _),
    kept (List.drop_subset _ _), join, List.take_append_drop]

theorem core_text {digits : List Char} (hex : ∀ c ∈ digits, c ∈ lowerDigits) :
    core (dashed digits) = digits := by
  have plain : ∀ c ∈ dashed digits, c ≠ 'u' ∧ isBrace c = false := by
    intro c member
    rcases mem_dashed member with rfl | listed
    · decide
    · exact of_decide_eq_true
        (of_mem_lowerDigits (p := fun c => c ≠ 'u' ∧ isBrace c = false) (by decide) (hex c listed))
  have unnamed : 'u' ∉ dashed digits := fun member => (plain 'u' member).1 rfl
  have undashed : '-' ∉ digits := fun member => absurd (hex '-' member) (by decide)
  have unbraced : dropBraces (dashed digits) = dashed digits :=
    cut_ends_eq_self fun c member => (plain c member).2
  rw [core, dropUrn_eq_self unnamed, dropScheme_eq_self unnamed, unbraced, filter_dashed undashed]

theorem mem_text {id : Uuid} {c : Char} (member : c ∈ id.text.toList) :
    c = '-' ∨ c ∈ lowerDigits := by
  rw [text, String.toList_ofList] at member
  rcases mem_dashed member with dash | listed
  · exact .inl dash
  · exact .inr (mem_hexadecimal listed)

theorem length_text (id : Uuid) : id.text.toList.length = 36 := by
  have digits : (hexadecimal 32 id.bits.toNat).length = 32 := by
    rw [hexadecimal, List.length_map, length_fixedDigits]
  rw [text, String.toList_ofList]
  simp [dashed, digits]

theorem ofNat?_toNat (id : Uuid) : ofNat? id.bits.toNat = some id := by
  unfold ofNat?
  rw [BitVec.ofNat_toNat, BitVec.setWidth_eq]
  exact if_pos rfl

theorem ofText?_text (id : Uuid) : ofText? id.text = some id := by
  have cored : core id.text.toList = hexadecimal 32 id.bits.toNat := by
    rw [text, String.toList_ofList]
    exact core_text fun c member => mem_hexadecimal member
  have digits : (fixedDigits 16 32 id.bits.toNat).length = 32 := length_fixedDigits _ _ _
  have nonempty : fixedDigits 16 32 id.bits.toNat ≠ [] := by
    intro nothing
    rw [nothing] at digits
    cases digits
  have small : ∀ digit ∈ fixedDigits 16 32 id.bits.toNat, digit < 16 :=
    fun digit member => lt_of_mem_fixedDigits (by decide) member
  have value : numberOf 16 (fixedDigits 16 32 id.bits.toNat) = id.bits.toNat := by
    rw [numberOf_fixedDigits]
    exact Nat.mod_eq_of_lt id.bits.isLt
  have width : (hexadecimal 32 id.bits.toNat).length = 32 := by
    rw [hexadecimal, List.length_map, digits]
  rw [ofText?, Text.string?, Option.bind_some, ofString?]
  simp only [cored, width, if_true]
  rw [hexadecimal, Numeral.hexadecimal?_map_digitChar nonempty small, value, Option.bind_some,
    ofNat?_toNat]

end Uuid

end FactGraph
