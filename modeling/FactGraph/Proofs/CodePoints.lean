import FactGraph.Text.Basic

namespace FactGraph.Text

@[simp] theorem plain_append (s t : String) : plain s ++ plain t = plain (s ++ t) := rfl

theorem points_append (s t : Text) : (s ++ t).points = s.points ++ t.points := by
  induction s with
  | plain s =>
    cases t with
    | plain t => simp [points]
    | broken before surrogate after =>
      change (broken (s ++ before) surrogate after).points = _
      simp [points]
  | broken before surrogate after ih =>
    change (broken before surrogate (after ++ t)).points = _
    simp [points, ih]

theorem ofPointsAfter_characters (done characters : List Char) (points : List CodePoint) :
    ofPointsAfter done (characters.map .char ++ points) =
      ofPointsAfter (characters.reverse ++ done) points := by
  induction characters generalizing done with
  | nil => rfl
  | cons c characters ih =>
    rw [List.map_cons, List.cons_append, ofPointsAfter, ih, List.reverse_cons, List.append_assoc]
    rfl

theorem ofPoints_points (text : Text) : ofPoints text.points = text := by
  unfold ofPoints
  induction text with
  | plain s =>
    have whole := ofPointsAfter_characters [] s.toList []
    rw [List.append_nil, List.append_nil] at whole
    rw [points, whole, ofPointsAfter, List.reverse_reverse, String.ofList_toList]
  | broken before surrogate after ih =>
    rw [points, ofPointsAfter_characters, List.append_nil, ofPointsAfter, List.reverse_reverse,
      String.ofList_toList, ih]

theorem points_injective : Function.Injective points :=
  Function.LeftInverse.injective ofPoints_points

theorem append_assoc (s t u : Text) : s ++ t ++ u = s ++ (t ++ u) := by
  apply points_injective
  simp only [points_append, List.append_assoc]

theorem append_right_inj {s t u : Text} : s ++ t = s ++ u ↔ t = u := by
  rw [← points_injective.eq_iff, points_append, points_append, List.append_cancel_left_eq,
    points_injective.eq_iff]

theorem append_left_inj {s t u : Text} : s ++ u = t ++ u ↔ s = t := by
  rw [← points_injective.eq_iff, points_append, points_append, List.append_cancel_right_eq,
    points_injective.eq_iff]

end FactGraph.Text
