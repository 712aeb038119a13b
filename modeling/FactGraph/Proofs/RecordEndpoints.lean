import FactGraph.Proofs.RoundTrip

namespace FactGraph.Endpoints

/-- Whether parts name two Objects. One Object that is written in two ways does not count as two. -/
def TwoObjects : Option Object → Option Object → Prop
  | some a, some b => a.id ≠ b.id
  | _, _ => False

instance : (source destination : Option Object) → Decidable (TwoObjects source destination)
  | some a, some b => inferInstanceAs (Decidable (a.id ≠ b.id))
  | none, _ | some _, none => isFalse id

inductive PartsGive : Option Object → Option Object → Bool → Endpoints Object → Prop
  | nothing (isBidirectional : Bool) : PartsGive none none isBidirectional empty
  | sourceOnly (a : Object) : PartsGive (some a) none false (sourceOnly a)
  | destinationOnly (b : Object) : PartsGive none (some b) false (destinationOnly b)
  | asymmetric (a b : Object) : PartsGive (some a) (some b) false (asymmetric a b)
  | sourceAlone (a : Object) : PartsGive (some a) none true (reflexive a a)
  | destinationAlone (b : Object) : PartsGive none (some b) true (reflexive b b)
  | oneId {a b : Object} (same : a.id = b.id) : PartsGive (some a) (some b) true (reflexive a a)
  | twoIds {a b : Object} (different : a.id ≠ b.id) :
      PartsGive (some a) (some b) true (bidirectional a b)

theorem ofParts_given (source destination : Option Object) (isBidirectional : Bool) :
    PartsGive source destination isBidirectional (ofParts source destination isBidirectional) := by
  match source, destination, isBidirectional with
  | none, none, _ => exact .nothing _
  | some a, none, false => exact .sourceOnly a
  | none, some b, false => exact .destinationOnly b
  | some a, some b, false => exact .asymmetric a b
  | some a, none, true => exact .sourceAlone a
  | none, some b, true => exact .destinationAlone b
  | some a, some b, true =>
    by_cases same : a.id = b.id
    · have shape : ofParts (some a) (some b) true = reflexive a a := if_pos same
      rw [shape]
      exact .oneId same
    · have shape : ofParts (some a) (some b) true = bidirectional a b := if_neg same
      rw [shape]
      exact .twoIds same

namespace PartsGive

variable {source destination : Option Object} {isBidirectional : Bool}
  {endpoints : Endpoints Object} (given : PartsGive source destination isBidirectional endpoints)

include given

theorem empty_iff : endpoints.kind = .empty ↔ source = none ∧ destination = none := by
  cases given <;> simp [kind]

theorem bidirectional_iff :
    endpoints.kind = .bidirectional ↔
      isBidirectional = true ∧ TwoObjects source destination := by
  cases given with
  | oneId same => simp [kind, TwoObjects, same]
  | twoIds different => simp [kind, TwoObjects, different]
  | _ => simp [kind, TwoObjects]

/-- A Fact in both directions with one Object only has it on both sides, as it is written at the
    source if it is there. All other sides are kept. -/
theorem sides_eq :
    (endpoints.source?, endpoints.destination?) =
      if isBidirectional = true ∧ ¬ TwoObjects source destination then
        (source.or destination, source.or destination)
      else (source, destination) := by
  cases given with
  | nothing => split <;> rfl
  | oneId same => simp [TwoObjects, same, source?, destination?]
  | twoIds different => simp [TwoObjects, different, source?, destination?]
  | _ => rfl

theorem isBidirectional_eq :
    endpoints.isBidirectional = (isBidirectional && (source.isSome || destination.isSome)) := by
  cases given <;> simp [Endpoints.isBidirectional]

end PartsGive

theorem Normal.construct_eq {endpoints : Endpoints Object} (normal : endpoints.Normal) :
    construct endpoints.kind endpoints.source? endpoints.destination? none = .ok endpoints := by
  have unmarked : endpoints.diagnostic? = none := diagnostic_eq_none normal.sound
  refine construct_ok_iff.mpr ⟨⟨rfl, rfl, rfl, unmarked⟩, ?_⟩
  rintro a b rfl
  obtain rfl : a = b := normal
  exact Object.isSame_self a

/-- The parts of a record describe endpoints whatever they are. These can be made, are not corrupt,
    keep the sides but for the one Object of a Fact in both directions, and are described by their
    own parts. -/
theorem parts_always_describe (source destination : Option Object) (isBidirectional : Bool) :
    let endpoints := ofParts source destination isBidirectional
    construct endpoints.kind endpoints.source? endpoints.destination? none = .ok endpoints ∧
      endpoints.kind ≠ .corrupt ∧
      (endpoints.kind = .empty ↔ source = none ∧ destination = none) ∧
      (endpoints.kind = .bidirectional ↔
        isBidirectional = true ∧ TwoObjects source destination) ∧
      (endpoints.source?, endpoints.destination?) =
        (if isBidirectional = true ∧ ¬ TwoObjects source destination then
          (source.or destination, source.or destination)
        else (source, destination)) ∧
      endpoints.isBidirectional = (isBidirectional && (source.isSome || destination.isSome)) ∧
      ofParts endpoints.source? endpoints.destination? endpoints.isBidirectional = endpoints := by
  intro endpoints
  have normal : endpoints.Normal := ofParts_normal source destination isBidirectional
  have given : PartsGive source destination isBidirectional endpoints :=
    ofParts_given source destination isBidirectional
  exact ⟨normal.construct_eq, normal.sound, given.empty_iff, given.bidirectional_iff,
    given.sides_eq, given.isBidirectional_eq, normal.ofParts_eq⟩

example :
    let plain : Object := { id := ⟨7⟩, value := .text "x.example.org" }
    let typed : Object := { id := ⟨7⟩, typeId := some ⟨1⟩ }
    ofParts (some plain) (some typed) true = .reflexive plain plain := by decide

end FactGraph.Endpoints
