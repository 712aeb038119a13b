import FactGraph.Proofs.Views
import Mathlib.Data.List.Basic

namespace FactGraph

namespace Endpoints

/-- Whether two are of one kind and have the same ids at their ends, whatever else is said of their
    Objects. -/
structure SameShape (left right : Endpoints Object) : Prop where
  kind : left.kind = right.kind
  source : left.source?.map Object.id = right.source?.map Object.id
  destination : left.destination?.map Object.id = right.destination?.map Object.id

theorem eq_of_parts {α : Type} {left right : Endpoints α} (kind : left.kind = right.kind)
    (source : left.source? = right.source?) (destination : left.destination? = right.destination?)
    (diagnostic : left.diagnostic? = right.diagnostic?) : left = right := by
  cases left <;> cases right <;> simp_all [Endpoints.kind, source?, destination?, diagnostic?]

variable {left right : Endpoints Object}

theorem sameShape_iff_map_eq (soundLeft : left.kind ≠ .corrupt) (soundRight : right.kind ≠ .corrupt) :
    left.SameShape right ↔ left.map Object.id = right.map Object.id := by
  constructor
  · intro same
    have unmarked : (left.map Object.id).diagnostic? = (right.map Object.id).diagnostic? := by
      rw [diagnostic?_map, diagnostic?_map, diagnostic_eq_none soundLeft,
        diagnostic_eq_none soundRight]
    apply eq_of_parts _ _ _ unmarked
    · simpa using same.kind
    · simpa using same.source
    · simpa using same.destination
  · intro same
    constructor
    · simpa using congrArg Endpoints.kind same
    · simpa using congrArg source? same
    · simpa using congrArg destination? same

theorem bindings_eq_of_map_eq (same : left.map Object.id = right.map Object.id) :
    left.bindings = right.bindings := by
  have stored (endpoints : Endpoints Object) : endpoints.bindings =
      (endpoints.map Object.id).directions.map fun bound => ⟨bound.1, bound.2⟩ := by
    rw [directions_map, List.map_map]
    rfl
  rw [stored left, stored right, same]

theorem Normal.bindings_eq_iff (normalLeft : left.Normal) (normalRight : right.Normal) :
    left.bindings = right.bindings ↔ left.SameShape right := by
  rw [sameShape_iff_map_eq normalLeft.sound normalRight.sound]
  constructor
  · intro same
    have readLeft := normalLeft.ofBindings_bindings none
    rw [same, normalRight.ofBindings_bindings] at readLeft
    exact readLeft.symm
  · exact bindings_eq_of_map_eq

end Endpoints

def CriteriaField.required : List CriteriaField :=
  [.factTypeId, .originId, .organizationId, .accessMode, .confidence]

def FactHead.lacks (head : FactHead) : CriteriaField → Bool
  | .factTypeId => head.typeId.isNone
  | .originId => head.originId.isNone
  | .organizationId => head.organizationId.isNone
  | .accessMode => head.accessMode.isNone
  | .confidence => head.confidence.isNone

theorem CriteriaDraft.require_bind_error_iff {α β : Type} {field : CriteriaField}
    {given : Option α} {next : α → Except MissingField β} {lacks : CriteriaField → Bool}
    {fields : List CriteriaField} {missing : MissingField} (known : lacks field = given.isNone)
    (rest : ∀ a, next a = .error missing ↔ fields.find? lacks = some missing.field) :
    (require field given >>= next) = .error missing ↔
      (field :: fields).find? lacks = some missing.field := by
  cases given with
  | none =>
    obtain ⟨first⟩ := missing
    simp [require, known, bind, Except.bind]
  | some a =>
    simp only [Option.isNone_some] at known
    rw [List.find?_cons_of_neg (by simp [known])]
    exact rest a

theorem FactRecord.toCriteria_error_iff {record : FactRecord} {missing : MissingField} :
    record.toCriteria = .error missing ↔
      CriteriaField.required.find? record.toFactHead.lacks = some missing.field := by
  refine CriteriaDraft.require_bind_error_iff rfl fun typeId => ?_
  refine CriteriaDraft.require_bind_error_iff rfl fun originId => ?_
  refine CriteriaDraft.require_bind_error_iff rfl fun organizationId => ?_
  refine CriteriaDraft.require_bind_error_iff (Option.isNone_map ..).symm fun accessMode => ?_
  refine CriteriaDraft.require_bind_error_iff rfl fun confidence => ?_
  simp [pure, Except.pure]

theorem FactRecord.criteria_objects {record : FactRecord} {criteria : Criteria}
    (made : record.toCriteria = .ok criteria) :
    criteria.objects = record.endpoints.bindings.map fun binding =>
      (binding.objectId, binding.direction.wireName) := by
  rw [(toCriteria_ok made).2, Endpoints.bindings, List.map_map]
  rfl

theorem FactRecord.criteria_objects_eq_iff {first second : FactRecord} {asked other : Criteria}
    (made : first.toCriteria = .ok asked) (otherMade : second.toCriteria = .ok other) :
    asked.objects = other.objects ↔ first.endpoints.bindings = second.endpoints.bindings := by
  have apart : Function.Injective fun binding : Binding =>
      (binding.objectId, binding.direction.wireName) := by
    intro left right same
    obtain ⟨ids, names⟩ := Prod.mk.inj same
    rw [Direction.wireName_inj] at names
    cases left
    cases right
    exact congrArg₂ Binding.mk ids names
  rw [criteria_objects made, criteria_objects otherMade]
  exact (List.map_injective_iff.mpr apart).eq_iff

/-- What is stored, indexed and searched for of two records is the same exactly if their endpoints
    are of one kind with the same ids. -/
theorem encodings_identify_endpoints (first second : FactRecord) :
    let same := first.endpoints.SameShape second.endpoints
    (first.toStored.bindings = second.toStored.bindings ↔ same) ∧
      (first.toDocument.bindings = second.toDocument.bindings ↔ same) ∧
      (∀ asked other, first.toCriteria = .ok asked → second.toCriteria = .ok other →
        (asked.objects = other.objects ↔ same)) ∧
      ∀ missing, first.toCriteria = .error missing ↔
        CriteriaField.required.find? first.toFactHead.lacks = some missing.field := by
  intro same
  have normal (record : FactRecord) : record.endpoints.Normal := Endpoints.ofParts_normal _ _ _
  have stored : first.toStored.bindings = second.toStored.bindings ↔ same :=
    (normal first).bindings_eq_iff (normal second)
  refine ⟨stored, ?_, ?_, fun missing => FactRecord.toCriteria_error_iff⟩
  · rw [FactRecord.toDocument_bindings, FactRecord.toDocument_bindings]
    exact stored
  · intro asked other made otherMade
    rw [FactRecord.criteria_objects_eq_iff made otherMade]
    exact stored

theorem encodings_identify_endpoints_of_one_object :
    let first : FactRecord :=
      { id := ⟨7⟩
        typeId := some ⟨1⟩
        originId := some ⟨2⟩
        organizationId := some ⟨3⟩
        accessMode := some .everyone
        source := some { id := ⟨4⟩, value := .text "x.example.org" }
        isBidirectional := true }
    let second : FactRecord :=
      { first with id := ⟨8⟩, destination := some { id := ⟨4⟩, typeId := some ⟨5⟩ } }
    let oneWay : FactRecord := { second with isBidirectional := false }
    let unplaced : FactRecord := { second with originId := none, accessMode := none }
    first.toStored.bindings = second.toStored.bindings ∧
      (∃ asked other, first.toCriteria = .ok asked ∧ second.toCriteria = .ok other ∧
        asked.objects = other.objects) ∧
      second.toDocument.bindings ≠ oneWay.toDocument.bindings ∧
      unplaced.toCriteria = .error ⟨.originId⟩ := by
  intro first second oneWay unplaced
  have same : first.endpoints.SameShape second.endpoints := ⟨rfl, rfl, rfl⟩
  have different : ¬ second.endpoints.SameShape oneWay.endpoints := fun same => nomatch same.kind
  obtain ⟨stored, -, searched, -⟩ := encodings_identify_endpoints first second
  obtain ⟨-, indexed, -, -⟩ := encodings_identify_endpoints second oneWay
  obtain ⟨-, -, -, refused⟩ := encodings_identify_endpoints unplaced first
  exact ⟨stored.mpr same, ⟨_, _, rfl, rfl, (searched _ _ rfl rfl).mpr same⟩,
    fun equal => different (indexed.mp equal), (refused _).mpr rfl⟩

end FactGraph
