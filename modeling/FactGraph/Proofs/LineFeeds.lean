import FactGraph.Json.Display
import FactGraph.Proofs.CodePoints
import FactGraph.Proofs.IdText

namespace FactGraph

namespace Text

def lineFeeds (text : Text) : Nat := text.points.count (.char '\n')

def lines (text : Text) : List Text := (text.points.splitOn (.char '\n')).map ofPoints

theorem lineFeeds_eq_zero_iff {text : Text} : lineFeeds text = 0 ↔ .char '\n' ∉ text.points :=
  List.count_eq_zero

theorem lineFeeds_plain_eq_zero_iff {s : String} : lineFeeds s = 0 ↔ '\n' ∉ s.toList := by
  rw [lineFeeds_eq_zero_iff]
  simp [points]

theorem lineFeeds_append (s t : Text) : lineFeeds (s ++ t) = lineFeeds s + lineFeeds t := by
  unfold lineFeeds
  rw [points_append, List.count_append]

theorem lineFeeds_plain_append (s t : String) :
    lineFeeds (plain (s ++ t)) = lineFeeds s + lineFeeds t := by
  rw [← plain_append, lineFeeds_append]

theorem lineFeeds_ofList {s : List Char} (solid : '\n' ∉ s) : lineFeeds (String.ofList s) = 0 := by
  rw [lineFeeds_plain_eq_zero_iff, String.toList_ofList]
  exact solid

theorem length_lines (text : Text) : (lines text).length = lineFeeds text + 1 := by
  have parts (points : List CodePoint) :
      (points.splitOn (.char '\n')).length = points.count (.char '\n') + 1 := by
    unfold List.splitOn
    induction points with
    | nil => rfl
    | cons point points ih =>
      rw [List.splitOnP_cons_eq_if_modifyHead, List.count_cons]
      by_cases feed : point = .char '\n'
      · simp [feed, ih]
      · simp [feed, ih]
  unfold lines lineFeeds
  rw [List.length_map, parts]

theorem lines_of_lineFeeds_eq_zero {text : Text} (solid : lineFeeds text = 0) :
    lines text = [text] := by
  have whole : text.points.splitOn (.char '\n') = [text.points] := by
    apply List.splitOnP_eq_singleton
    intro point member
    rw [beq_eq_false_iff_ne]
    rintro rfl
    exact lineFeeds_eq_zero_iff.mp solid member
  unfold lines
  rw [whole, List.map_singleton, ofPoints_points]

theorem lines_append_feed (s t : Text) : lines (s ++ "\n" ++ t) = lines s ++ lines t := by
  have parted : (s ++ "\n" ++ t).points = s.points ++ .char '\n' :: t.points := by
    rw [points_append, points_append, List.append_assoc]
    rfl
  have split : (s.points ++ .char '\n' :: t.points).splitOn (.char '\n') =
      s.points.splitOn (.char '\n') ++ t.points.splitOn (.char '\n') :=
    List.splitOnP_append_cons _ _ (beq_self_eq_true (CodePoint.char '\n'))
  unfold lines
  rw [parted, split, List.map_append]

def joined (texts : List Text) : Text := texts.foldr (· ++ ·) ""

theorem lines_joined (texts : List Text) :
    lines (joined (texts.map (· ++ "\n"))) = texts.flatMap lines ++ [.plain ""] := by
  induction texts with
  | nil => rfl
  | cons text texts ih =>
    change lines (text ++ "\n" ++ joined (texts.map (· ++ "\n"))) = _
    rw [lines_append_feed, ih, List.flatMap_cons, List.append_assoc]

theorem flatMap_lines {texts : List Text} (solid : ∀ text ∈ texts, lineFeeds text = 0) :
    texts.flatMap lines = texts := by
  rw [List.flatMap_congr fun text member => lines_of_lineFeeds_eq_zero (solid text member)]
  exact List.flatMap_singleton' texts

/-! What is written of numbers, ids and quoted texts holds no line feed. -/

theorem lineFeeds_nat (n : Nat) : lineFeeds (toString n) = 0 := by
  rw [lineFeeds_plain_eq_zero_iff, Nat.toString_eq_repr, Nat.toList_repr]
  intro member
  have digit := Nat.isDigit_of_mem_toDigits (by decide) (by decide) member
  exact absurd digit (by decide)

theorem lineFeeds_int (n : Int) : lineFeeds (toString n) = 0 := by
  cases n with
  | ofNat n => exact lineFeeds_nat n
  | negSucc n =>
    change lineFeeds (plain ("-" ++ toString (n + 1))) = 0
    rw [lineFeeds_plain_append, lineFeeds_nat]
    rfl

theorem newline_notMem_hexadecimal (width n : Nat) : '\n' ∉ hexadecimal width n := by
  intro member
  exact absurd (mem_hexadecimal member) (by decide)

theorem newline_notMem_quotedChar {quote : Char} (visible : quote ≠ '\n') (c : Char) :
    '\n' ∉ quotedChar quote c := by
  have number (width : Nat) : '\n' ∉ hexadecimal width c.toNat := newline_notMem_hexadecimal _ _
  unfold quotedChar
  split_ifs with marked feed
  · rcases marked with rfl | rfl
    · simp [visible.symm]
    · decide
  · decide
  · decide
  · decide
  · simp [Ne.symm feed]
  · simp [number]
  · simp [number]
  · simp [number]

theorem newline_notMem_quotedPoint {quote : Char} (visible : quote ≠ '\n') (point : CodePoint) :
    '\n' ∉ quotedPoint quote point := by
  cases point with
  | char c => exact newline_notMem_quotedChar visible c
  | surrogate offset => simp [quotedPoint, surrogateEscape, newline_notMem_hexadecimal]

theorem lineFeeds_quoted (text : Text) : lineFeeds (quoted text) = 0 := by
  have visible : quoteOf text.points ≠ '\n' := by
    unfold quoteOf
    split <;> decide
  apply lineFeeds_ofList
  simp [visible.symm, newline_notMem_quotedPoint visible]

end Text

open Text

theorem lineFeeds_exponentText (e : Int) : lineFeeds (exponentText e) = 0 := by
  have sign : lineFeeds (.plain (if e < 0 then "e-" else "e+")) = 0 := by
    split <;> rfl
  have padded (digits : String) (solid : lineFeeds digits = 0) :
      lineFeeds (.plain (if digits.length < 2 then "0" ++ digits else digits)) = 0 := by
    split
    · rw [lineFeeds_plain_append, solid]
      rfl
    · exact solid
  unfold exponentText
  rw [lineFeeds_plain_append, sign, padded _ (lineFeeds_nat _)]

theorem Decimal.lineFeeds_text (d : Decimal) : lineFeeds d.text = 0 := by
  have digits : '\n' ∉ (toString d.digits).toList :=
    lineFeeds_plain_eq_zero_iff.mp (lineFeeds_nat _)
  have kept : '\n' ∉ ((toString d.digits).toList.reverse.dropWhile (· = '0')).reverse := by
    intro member
    exact digits (List.mem_reverse.mp (List.dropWhile_subset _ (List.mem_reverse.mp member)))
  unfold Decimal.text
  dsimp only
  generalize ((toString d.digits).toList.reverse.dropWhile (· = '0')).reverse = significant at kept ⊢
  split_ifs with small whole
  · have leading (count : Nat) : '\n' ∉ List.replicate count '0' ++ significant := by simp [kept]
    rw [lineFeeds_plain_append, lineFeeds_ofList (leading _)]
    rfl
  · have padded (count : Nat) : '\n' ∉ significant ++ List.replicate count '0' := by simp [kept]
    rw [lineFeeds_plain_append, lineFeeds_plain_append,
      lineFeeds_ofList fun member => padded _ (List.mem_of_mem_take member),
      lineFeeds_ofList fun member => padded _ (List.mem_of_mem_drop member)]
    rfl
  · split
    · rw [lineFeeds_plain_append, lineFeeds_exponentText, lineFeeds_ofList]
      simpa using kept
    · rw [lineFeeds_plain_append, lineFeeds_exponentText, lineFeeds_ofList kept]

theorem Binary64.lineFeeds_text (x : Binary64) : lineFeeds x.text = 0 := by
  cases x with
  | nan => rfl
  | infinite negative => cases negative <;> rfl
  | finite negative magnitude =>
    have sign : lineFeeds (.plain (if negative then "-" else "")) = 0 := by
      cases negative <;> rfl
    unfold Binary64.text
    rw [lineFeeds_plain_append, sign]
    split
    · rfl
    · rw [Decimal.lineFeeds_text]

namespace Json

mutual

theorem lineFeeds_literal : (value : Json) → lineFeeds value.literal = 0
  | .null => rfl
  | .bool value => by cases value <;> rfl
  | .int value => lineFeeds_int value
  | .float value => value.lineFeeds_text
  | .text value => lineFeeds_quoted value
  | .list items => by
    rw [literal, lineFeeds_plain_append, lineFeeds_plain_append, lineFeeds_literalItems items]
    rfl
  | .object members => by
    rw [literal, lineFeeds_plain_append, lineFeeds_plain_append, lineFeeds_literalMembers members]
    rfl

theorem lineFeeds_literalItems : (items : List Json) → lineFeeds (literalItems items) = 0
  | [] => rfl
  | [item] => lineFeeds_literal item
  | item :: next :: items => by
    rw [literalItems, lineFeeds_plain_append, lineFeeds_plain_append, lineFeeds_literal item,
      lineFeeds_literalItems (next :: items)]
    · rfl
    · simp

theorem lineFeeds_literalMembers :
    (members : List (Text × Json)) → lineFeeds (literalMembers members) = 0
  | [] => rfl
  | [(key, value)] => by
    rw [literalMembers, lineFeeds_plain_append, lineFeeds_plain_append, lineFeeds_quoted,
      lineFeeds_literal value]
    rfl
  | (key, value) :: next :: members => by
    rw [literalMembers, lineFeeds_plain_append, lineFeeds_plain_append, lineFeeds_plain_append,
      lineFeeds_plain_append, lineFeeds_quoted, lineFeeds_literal value,
      lineFeeds_literalMembers (next :: members)]
    · rfl
    · simp

end

def lineFeeds : Json → Nat
  | .text value => Text.lineFeeds value
  | _ => 0

/-- Only a text is shown on more than one line, since a text within a value is quoted. -/
theorem lineFeeds_display (value : Json) : Text.lineFeeds value.display = value.lineFeeds := by
  cases value with
  | text => rfl
  | _ => exact lineFeeds_literal _

theorem lineFeeds_of_isBlank {value : Json} (blank : value.isBlank = true) :
    value.lineFeeds = 0 := by
  cases value with
  | text value =>
    cases value with
    | plain s =>
      rw [isBlank, isEmpty, String.isEmpty_iff] at blank
      rw [blank]
      rfl
    | broken => cases blank
  | _ => rfl

end Json

theorem Uuid.lineFeeds_text (id : Uuid) : lineFeeds id.text = 0 := by
  rw [lineFeeds_plain_eq_zero_iff]
  intro member
  rcases mem_text member with dash | digit
  · exact absurd dash (by decide)
  · exact absurd digit (by decide)

end FactGraph
