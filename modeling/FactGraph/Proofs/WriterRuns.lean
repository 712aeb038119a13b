import FactGraph.Proofs.BatchContents
import FactGraph.Proofs.CanonicalBindings
import FactGraph.Proofs.Updates

namespace FactGraph

namespace Change

def WritesRecords : Change → Prop
  | saveFact fact => ∃ record : FactRecord, record.toStored = fact
  | addBinding _ _ => False
  | saveObject _ | saveAclEntry _ | saveComment _ | indexDocument _ | addDocumentObject _ _ => True

def savedObject? : Change → Option Object
  | saveObject object => some object
  | _ => none

theorem savedObject?_eq_some_iff {change : Change} {object : Object} :
    change.savedObject? = some object ↔ change = saveObject object := by
  cases change <;> simp [savedObject?]

end Change

namespace Stores

theorem objects_run (stores : Stores) (changes : List Change) :
    (stores.run changes).objects =
      (changes.filterMap Change.savedObject?).foldl Table.put stores.objects := by
  induction changes generalizing stores with
  | nil => rfl
  | cons change changes ih =>
    have step : (stores.apply change).objects =
        (change.savedObject?.toList).foldl Table.put stores.objects := by
      cases change with
      | addBinding factId binding =>
        change (stores.addBinding factId binding).objects = _
        unfold addBinding
        split <;> rfl
      | addDocumentObject factId object =>
        change (stores.addDocumentObject factId object).objects = _
        unfold addDocumentObject
        split <;> rfl
      | _ => rfl
    have rest : (stores.run (change :: changes)).objects = _ := ih (stores.apply change)
    rw [rest, step]
    cases saved : change.savedObject? <;> simp [saved]

theorem getObject_run_eq_none_iff {changes : List Change} {id : Uuid} :
    (empty.run changes).getObject id = none ↔
      ∀ object, Change.saveObject object ∈ changes → object.id ≠ id := by
  unfold getObject
  rw [objects_run, Table.get?_foldl_put]
  have nothing : (empty.objects).get? id = none := rfl
  rw [nothing, Option.or_none, List.getLast?_eq_none_iff, List.filter_eq_nil_iff]
  simp only [List.mem_filterMap, Change.savedObject?_eq_some_iff, decide_eq_true_eq]
  constructor
  · intro unsaved object saved
    exact unsaved object ⟨_, saved, rfl⟩
  · rintro unsaved object ⟨change, member, rfl⟩
    exact unsaved object member

def AllCanonical (stores : Stores) : Prop := ∀ fact ∈ stores.listFacts, Canonical fact.bindings

theorem allCanonical_apply {stores : Stores} {change : Change} (before : stores.AllCanonical)
    (writes : change.WritesRecords) : (stores.apply change).AllCanonical := by
  cases change with
  | saveFact fact =>
    obtain ⟨record, rfl⟩ := writes
    intro fact member
    rcases Table.mem_entries_put member with rfl | old
    · exact (Endpoints.ofParts_normal _ _ _).canonical
    · exact before fact old
  | addBinding factId binding => exact writes.elim
  | addDocumentObject factId object =>
    change (stores.addDocumentObject factId object).AllCanonical
    unfold addDocumentObject
    split <;> exact before
  | saveObject _ | saveAclEntry _ | saveComment _ | indexDocument _ => exact before

theorem allCanonical_run {stores : Stores} {changes : List Change} (before : stores.AllCanonical)
    (writes : ∀ change ∈ changes, change.WritesRecords) : (stores.run changes).AllCanonical := by
  induction changes generalizing stores with
  | nil => exact before
  | cons change changes ih =>
    rw [List.forall_mem_cons] at writes
    exact ih (allCanonical_apply before writes.1) writes.2

theorem corrupt_readStored_of_canonical {stores : Stores} (canonical : stores.AllCanonical) :
    stores.readStored.corrupt = [] := by
  rw [readStored_eq, corrupt_batchOf, List.map_eq_nil_iff, List.filter_eq_nil_iff]
  intro fact stored corrupted
  exact (canonical fact stored).sound (of_decide_eq_true corrupted)

theorem failed_iff_dangling {stores : Stores} {fact : StoredFact}
    (stored : fact ∈ stores.listFacts) :
    (∃ failure ∈ stores.readStored.failures, failure.factId = fact.id) ↔
      stores.Dangling fact := by
  have found : stores.getFact fact.id = some fact := Table.get?_eq_of_mem stored
  have failures := stores.filter_failures_readStored fact.id
  rw [found, Option.bind_some] at failures
  have listed : (∃ failure ∈ stores.readStored.failures, failure.factId = fact.id) ↔
      stores.readStored.failures.filter (·.factId = fact.id) ≠ [] := by
    simp [List.filter_eq_nil_iff]
  rw [listed, failures, ne_eq, Option.toList_eq_nil_iff, failure?_eq_none_iff]
  exact Decidable.not_not

/-- Where Facts are only written from records, every stored Fact has canonical bindings at every
    point; none is corrupt, and those fail that are bound to an id no Object was saved under. -/
theorem written_records_never_corrupt {changes : List Change}
    (writes : ∀ change ∈ changes, change.WritesRecords) {done rest : List Change}
    (point : changes = done ++ rest) :
    let stores := Stores.empty.run done
    (∀ fact ∈ stores.listFacts, Canonical fact.bindings) ∧
      stores.readStored.corrupt = [] ∧
      ∀ fact ∈ stores.listFacts,
        (∃ failure ∈ stores.readStored.failures, failure.factId = fact.id) ↔
          ∃ binding ∈ fact.bindings,
            ∀ object, Change.saveObject object ∈ done → object.id ≠ binding.objectId := by
  intro stores
  have writesSoFar : ∀ change ∈ done, change.WritesRecords := by
    intro change member
    apply writes
    rw [point]
    exact List.mem_append_left rest member
  have start : empty.AllCanonical := by
    intro fact member
    cases member
  have canonical : stores.AllCanonical := allCanonical_run start writesSoFar
  refine ⟨canonical, corrupt_readStored_of_canonical canonical, ?_⟩
  intro fact stored
  rw [failed_iff_dangling stored]
  have sound := (canonical fact stored).sound
  unfold Dangling
  rw [and_iff_right sound]
  simp only [stores, getObject_run_eq_none_iff]

theorem written_records_never_corrupt_inconsistent :
    let object : Object := { id := ⟨1⟩, value := .text "x.example.org" }
    let reflexive : FactRecord :=
      { id := ⟨11⟩, source := some object, destination := some { id := ⟨1⟩ }, isBidirectional := true }
    let unbound : FactRecord := { id := ⟨12⟩, isBidirectional := true }
    let dangling : FactRecord :=
      { id := ⟨13⟩, source := some object, destination := some { id := ⟨2⟩ } }
    let done : List Change :=
      [ .saveFact dangling.toStored, .saveObject object, .saveFact reflexive.toStored,
        .saveFact unbound.toStored ]
    let rest : List Change := [.saveObject { id := ⟨2⟩ }]
    let stores := Stores.empty.run done
    (∀ change ∈ done ++ rest, change.WritesRecords) ∧
      stores.listFacts = [dangling.toStored, reflexive.toStored, unbound.toStored] ∧
      Canonical reflexive.toStored.bindings ∧
      stores.readStored.corrupt = [] ∧
      (∃ failure ∈ stores.readStored.failures, failure.factId = ⟨13⟩) ∧
      ¬ ∃ failure ∈ stores.readStored.failures, failure.factId = ⟨11⟩ := by
  intro object reflexive unbound dangling done rest stores
  have writes : ∀ change ∈ done ++ rest, change.WritesRecords := by
    simp [done, rest, Change.WritesRecords]
  have listed : stores.listFacts = [dangling.toStored, reflexive.toStored, unbound.toStored] := rfl
  have first : dangling.toStored ∈ stores.listFacts := by simp [listed]
  have second : reflexive.toStored ∈ stores.listFacts := by simp [listed]
  obtain ⟨canonical, sound, failed⟩ := @written_records_never_corrupt _ writes done rest rfl
  refine ⟨writes, listed, canonical _ second, sound, ?_, ?_⟩
  · refine (failed _ first).mpr ⟨⟨⟨2⟩, .factIsSource⟩, by decide, ?_⟩
    intro other saved
    obtain rfl : other = object := by simpa [done] using saved
    decide
  · intro named
    obtain ⟨binding, bound, unsaved⟩ := (failed _ second).mp named
    obtain rfl : binding = ⟨⟨1⟩, .biDirectional⟩ := List.mem_singleton.mp bound
    exact unsaved object (by simp [done]) rfl

end Stores

end FactGraph
