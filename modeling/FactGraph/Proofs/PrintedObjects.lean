import FactGraph.Proofs.CodePoints
import FactGraph.Proofs.IdText
import FactGraph.Report

namespace FactGraph.Report

def caption? (object : Object) : Option Text :=
  if object.value.isBlank then none else some object.value.display

def captioned (id : Uuid) : Option Text → Text
  | none => id.text
  | some caption => caption ++ " (" ++ id.text ++ ")"

theorem object_eq (shown : Object) : object (some shown) = captioned shown.id (caption? shown) := by
  unfold object caption?
  by_cases blank : shown.value.isBlank = true
  · simp [blank, captioned]
  · simp [blank, captioned]

def idAtEnd? (text : Text) : Option Uuid :=
  let backwards := text.points.reverse
  let ending := if backwards.head? = some (.char ')') then backwards.tail else backwards
  Uuid.ofText? (.ofPoints (ending.take 36).reverse)

section Spelling

variable {spelling : Text} (long : spelling.points.length = 36)

include long

theorem idAtEnd?_bare (unclosed : .char ')' ∉ spelling.points) :
    idAtEnd? spelling = Uuid.ofText? spelling := by
  have last : spelling.points.reverse.head? ≠ some (.char ')') :=
    fun closed => unclosed (List.mem_reverse.mp (List.mem_of_head? closed))
  have whole : spelling.points.reverse.take 36 = spelling.points.reverse :=
    List.take_of_length_le (by rw [List.length_reverse, long])
  simp only [idAtEnd?, last, if_false, whole, List.reverse_reverse, Text.ofPoints_points]

theorem idAtEnd?_parenthesized (before : Text) :
    idAtEnd? (before ++ spelling ++ ")") = Uuid.ofText? spelling := by
  have backwards : (before ++ spelling ++ ")").points.reverse =
      .char ')' :: (spelling.points.reverse ++ before.points.reverse) := by
    rw [Text.points_append, Text.points_append, List.reverse_append, List.reverse_append]
    rfl
  have ending : (spelling.points.reverse ++ before.points.reverse).take 36 =
      spelling.points.reverse :=
    List.take_left' (by rw [List.length_reverse, long])
  simp only [idAtEnd?, backwards, List.head?_cons, if_true, List.tail_cons, ending,
    List.reverse_reverse, Text.ofPoints_points]

end Spelling

theorem idAtEnd?_captioned (id : Uuid) (caption : Option Text) :
    idAtEnd? (captioned id caption) = some id := by
  have long : (Text.plain id.text).points.length = 36 := by
    rw [Text.points, List.length_map, id.length_text]
  cases caption with
  | none =>
    -- A bare id ends with one of its digits.
    have unclosed : .char ')' ∉ (Text.plain id.text).points := by
      rw [Text.points, List.mem_map_of_injective fun _ _ => CodePoint.char.inj]
      intro closed
      rcases Uuid.mem_text closed with dash | digit
      · exact absurd dash (by decide)
      · exact absurd digit (by decide)
    rw [captioned, idAtEnd?_bare long unclosed, id.ofText?_text]
  | some caption => rw [captioned, idAtEnd?_parenthesized long, id.ofText?_text]

theorem idAtEnd?_object (shown : Option Object) : idAtEnd? (object shown) = shown.map (·.id) := by
  cases shown with
  | none => decide +kernel
  | some shown =>
    rw [object_eq]
    exact idAtEnd?_captioned shown.id (caption? shown)

theorem captioned_injective (id : Uuid) : Function.Injective (captioned id) := by
  have longer (caption : Text) : captioned id none ≠ captioned id (some caption) := by
    intro same
    have lengths := congrArg (·.points.length) same
    have closing : (Text.plain ")").points.length = 1 := by decide
    simp only [captioned, Text.points_append, List.length_append, closing] at lengths
    omega
  intro left right same
  cases left with
  | none =>
    cases right with
    | none => rfl
    | some caption => exact absurd same (longer caption)
  | some caption =>
    cases right with
    | none => exact absurd same.symm (longer caption)
    | some other =>
      simp only [captioned, Text.append_left_inj] at same
      rw [same]

theorem object_eq_iff_of_ids {left right : Option Object}
    (ids : left.map (·.id) = right.map (·.id)) :
    object left = object right ↔ left.map caption? = right.map caption? := by
  cases left with
  | none => cases right with
    | none => simp
    | some b => cases ids
  | some a => cases right with
    | none => cases ids
    | some b =>
      have sameId : a.id = b.id := Option.some.inj ids
      rw [object_eq, object_eq, sameId, (captioned_injective b.id).eq_iff, Option.map_some,
        Option.map_some, Option.some.injEq]

theorem object_eq_iff {left right : Option Object} :
    object left = object right ↔
      left.map (·.id) = right.map (·.id) ∧ left.map caption? = right.map caption? := by
  constructor
  · intro same
    have ids : left.map (·.id) = right.map (·.id) := by
      rw [← idAtEnd?_object, same, idAtEnd?_object]
    exact ⟨ids, (object_eq_iff_of_ids ids).mp same⟩
  · rintro ⟨ids, captions⟩
    exact (object_eq_iff_of_ids ids).mpr captions

def isUnder (label line : Text) : Bool := label.points.isPrefixOf line.points

theorem isUnder_append {label lead : Text} (starts : label.points <+: lead.points) (rest : Text) :
    isUnder label (lead ++ rest) = true := by
  unfold isUnder
  rw [List.isPrefixOf_iff_prefix, Text.points_append]
  exact starts.trans (List.prefix_append _ _)

theorem not_isUnder_append {label lead : Text} (shorter : ¬ label.points <+: lead.points)
    (longer : ¬ lead.points <+: label.points) (rest : Text) :
    isUnder label (lead ++ rest) = false := by
  unfold isUnder
  rw [Bool.eq_false_iff, ne_eq, List.isPrefixOf_iff_prefix, Text.points_append]
  intro starts
  rcases List.prefix_or_prefix_of_prefix starts (List.prefix_append _ _) with inside | inside
  · exact shorter inside
  · exact longer inside

def lineUnder? (label : Text) (record : FactRecord) : Option Text :=
  (recordLines record).find? (isUnder label)

theorem sourceLine_eq (record : FactRecord) :
    lineUnder? "  Source:" record = some ("  Source:        " ++ object record.source) := by
  have rule : isUnder "  Source:" (String.ofList (List.replicate 50 '=')) = false := by
    decide +kernel
  unfold lineUnder? recordLines fieldLines
  simp (disch := decide +kernel) only [List.cons_append, List.find?_cons, rule,
    not_isUnder_append, isUnder_append]

theorem destinationLine_eq (record : FactRecord) :
    lineUnder? "  Destination:" record =
      some ("  Destination:   " ++ object record.destination) := by
  have rule : isUnder "  Destination:" (String.ofList (List.replicate 50 '=')) = false := by
    decide +kernel
  unfold lineUnder? recordLines fieldLines
  simp (disch := decide +kernel) only [List.cons_append, List.find?_cons, rule,
    not_isUnder_append, isUnder_append]

end FactGraph.Report
