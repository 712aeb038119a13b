import FactGraph.Proofs.BatchContents

namespace FactGraph

/-- What is kept under the id of an Object once others have been saved: the last of them that has
    its id, or the Object as it was. -/
def Object.renewedBy (saved : List Object) (object : Object) : Object :=
  ((saved.filter (·.id = object.id)).getLast?).getD object

def FactRecord.renewedBy (saved : List Object) (record : FactRecord) : FactRecord :=
  { record with
    source := record.source.map (·.renewedBy saved)
    destination := record.destination.map (·.renewedBy saved) }

section Object

variable {saved : List Object} (object : Object)

theorem Object.renewedBy_id : (object.renewedBy saved).id = object.id := by
  unfold renewedBy
  cases last : (saved.filter (·.id = object.id)).getLast? with
  | none => rfl
  | some other =>
    have kept := List.of_mem_filter (List.mem_of_getLast? last)
    exact of_decide_eq_true kept

variable {object} in
theorem Object.renewedBy_eq_self (unsaved : ∀ other ∈ saved, other.id ≠ object.id) :
    object.renewedBy saved = object := by
  have none : saved.filter (·.id = object.id) = [] := by
    rw [List.filter_eq_nil_iff]
    intro other member same
    exact unsaved other member (of_decide_eq_true same)
  rw [renewedBy, none]
  rfl

end Object

theorem Endpoints.FilledBy.renewed {ε : Type} {before after : Uuid → Except ε (Option Object)}
    {shape : Endpoints Uuid} {endpoints : Endpoints Object} {renew : Object → Object}
    (filled : FilledBy before shape endpoints)
    (kept : ∀ id object, before id = .ok (some object) → after id = .ok (some (renew object))) :
    FilledBy after shape (endpoints.map renew) := by
  cases filled with
  | empty => exact .empty
  | sourceOnly source => exact .sourceOnly (kept _ _ source)
  | destinationOnly destination => exact .destinationOnly (kept _ _ destination)
  | reflexive both => exact .reflexive (kept _ _ both)
  | asymmetric source destination =>
    exact .asymmetric (kept _ _ source) (kept _ _ destination)
  | bidirectional source destination =>
    exact .bidirectional (kept _ _ source) (kept _ _ destination)
  | corrupt => exact .corrupt

theorem filterMap_sublist {α β : Type} {items : List α} {first second : α → Option β}
    (keeps : ∀ item ∈ items, ∀ result, first item = some result → second item = some result) :
    (items.filterMap first).Sublist (items.filterMap second) := by
  induction items with
  | nil => exact .slnil
  | cons item items ih =>
    rw [List.forall_mem_cons] at keeps
    have rest := ih keeps.2
    cases made : first item with
    | none =>
      rw [List.filterMap_cons_none made]
      cases other : second item with
      | none => rwa [List.filterMap_cons_none other]
      | some result =>
        rw [List.filterMap_cons_some other]
        exact rest.cons result
    | some result =>
      rw [List.filterMap_cons_some made, List.filterMap_cons_some (keeps.1 result made)]
      exact rest.cons_cons result

namespace Stores

def saveObjects (stores : Stores) (saved : List Object) : Stores :=
  stores.run (saved.map .saveObject)

variable {stores : Stores} {saved : List Object} {fact : StoredFact} {record : FactRecord}

theorem getObject_saveObjects (id : Uuid) :
    (stores.saveObjects saved).getObject id =
      ((saved.filter (·.id = id)).getLast?).or (stores.getObject id) := by
  rw [saveObjects, run_saveObject]
  exact Table.get?_foldl_put stores.objects saved id

theorem getObject_saveObjects_of_some {id : Uuid} {object : Object}
    (known : stores.getObject id = some object) :
    (stores.saveObjects saved).getObject id = some (object.renewedBy saved) := by
  obtain rfl : object.id = id := (Table.get?_eq_some_iff.mp known).2
  rw [getObject_saveObjects, known, Object.renewedBy]
  cases (saved.filter (·.id = object.id)).getLast? <;> rfl

theorem getObject_saveObjects_eq_none_iff {id : Uuid} :
    (stores.saveObjects saved).getObject id = none ↔
      (∀ object ∈ saved, object.id ≠ id) ∧ stores.getObject id = none := by
  rw [getObject_saveObjects, Option.or_eq_none_iff, List.getLast?_eq_none_iff,
    List.filter_eq_nil_iff]
  simp only [decide_eq_true_eq, ne_eq]

theorem recordWith_saveObjects (endpoints : Endpoints Object) :
    (stores.saveObjects saved).recordWith fact (endpoints.map (·.renewedBy saved)) =
      (stores.recordWith fact endpoints).renewedBy saved := by
  unfold recordWith FactRecord.renewedBy
  rw [Endpoints.source?_map, Endpoints.destination?_map, Endpoints.isBidirectional_map, saveObjects,
    run_saveObject]
  rfl

theorem read_saveObjects (read : (stores.read fact).outcome = .ok record) :
    ((stores.saveObjects saved).read fact).outcome = .ok (record.renewedBy saved) := by
  obtain ⟨endpoints, resolved, rfl⟩ := read_ok_iff.mp read
  have kept : ∀ id object, stores.lookup id = .ok (some object) →
      (stores.saveObjects saved).lookup id = .ok (some (object.renewedBy saved)) := by
    intro id object known
    exact congrArg Except.ok (getObject_saveObjects_of_some (Except.ok.inj known))
  have filled := (resolve_ok_iff.mp resolved).renewed kept
  rw [← recordWith_saveObjects]
  exact read_ok_iff.mpr ⟨_, resolve_ok_iff.mpr filled, rfl⟩

theorem dangling_of_saveObjects (dangling : (stores.saveObjects saved).Dangling fact) :
    stores.Dangling fact := by
  obtain ⟨sound, binding, bound, missing⟩ := dangling
  exact ⟨sound, binding, bound, (getObject_saveObjects_eq_none_iff.mp missing).2⟩

theorem saved_of_recovered (dangling : stores.Dangling fact)
    (recovered : ¬ (stores.saveObjects saved).Dangling fact) :
    ∃ binding ∈ fact.bindings, stores.getObject binding.objectId = none ∧
      ∃ object ∈ saved, object.id = binding.objectId := by
  obtain ⟨sound, binding, bound, missing⟩ := dangling
  refine ⟨binding, bound, missing, ?_⟩
  by_contra unsaved
  push Not at unsaved
  have stillMissing := getObject_saveObjects_eq_none_iff.mpr ⟨unsaved, missing⟩
  exact recovered ⟨sound, binding, bound, stillMissing⟩

theorem records_saveObjects (facts : List StoredFact) :
    ((stores.batchOf facts).records.map (·.renewedBy saved)).Sublist
      ((stores.saveObjects saved).batchOf facts).records := by
  simp only [batchOf, List.map_filterMap]
  apply filterMap_sublist
  intro fact _ record renewed
  obtain ⟨earlier, read, rfl⟩ := Option.map_eq_some_iff.mp renewed
  exact record?_eq_some_iff.mpr (read_saveObjects (record?_eq_some_iff.mp read))

theorem failures_saveObjects (facts : List StoredFact) :
    (((stores.saveObjects saved).batchOf facts).failures.map (·.factId)).Sublist
      ((stores.batchOf facts).failures.map (·.factId)) := by
  simp only [batchOf, List.map_filterMap]
  apply filterMap_sublist
  intro fact _ factId failed
  obtain ⟨failure, missed, rfl⟩ := Option.map_eq_some_iff.mp failed
  obtain ⟨owner, outcome⟩ := failure?_eq_some_iff.mp missed
  have dangling := dangling_of_saveObjects (read_fails_iff.mp ⟨_, outcome⟩)
  -- Another id may have been named as missing before, so that only the owners agree.
  obtain ⟨missing, before⟩ := read_fails_iff.mpr dangling
  have failedBefore : stores.failure? fact = some ⟨fact.id, missing⟩ :=
    failure?_eq_some_iff.mpr ⟨rfl, before⟩
  rw [failedBefore, owner]
  rfl

/-- Saving more Objects takes no record from a batch. The records that were there change in the
    Objects that were saved again, what is corrupt stays so, and a failure goes only if an Object
    that was missing has come. -/
theorem later_objects_keep_records (stores : Stores) (entries : List (Option StoredFact))
    (saved : List Object) :
    let facts := entries.filterMap id
    let after := stores.run (saved.map .saveObject)
    let before := stores.readAll entries
    let later := after.readAll entries
    later.corrupt = before.corrupt ∧
      (before.records.map (·.renewedBy saved)).Sublist later.records ∧
      (later.failures.map (·.factId)).Sublist (before.failures.map (·.factId)) ∧
      (∀ fact ∈ facts, ∀ record, (stores.read fact).outcome = .ok record →
        (after.read fact).outcome = .ok (record.renewedBy saved)) ∧
      (∀ object : Object, (object.renewedBy saved).id = object.id ∧
        ((∀ other ∈ saved, other.id ≠ object.id) → object.renewedBy saved = object)) ∧
      ∀ fact ∈ facts, (∃ missing, (stores.read fact).outcome = .error missing) →
        (∃ record, (after.read fact).outcome = .ok record) →
        ∃ binding ∈ fact.bindings, stores.getObject binding.objectId = none ∧
          ∃ object ∈ saved, object.id = binding.objectId := by
  intro facts after before later
  have partsBefore : before = stores.batchOf facts := stores.readAll_eq entries
  have partsLater : later = after.batchOf facts := after.readAll_eq entries
  rw [partsBefore, partsLater]
  refine ⟨?_, records_saveObjects facts, failures_saveObjects facts,
    fun fact _ record read => read_saveObjects read,
    fun object => ⟨object.renewedBy_id, Object.renewedBy_eq_self⟩, ?_⟩
  · rw [corrupt_batchOf, corrupt_batchOf]
  · intro fact _ failed recovered
    exact saved_of_recovered (read_fails_iff.mp failed) (read_succeeds_iff.mp recovered)

theorem later_objects_keep_records_of_some :
    let old : Object := { id := ⟨1⟩, value := .text "x.example.org" }
    let new : Object := { id := ⟨1⟩, typeId := some ⟨5⟩, value := .text "y.example.org" }
    let stores := Stores.empty.run
      [.saveObject old, .indexDocument { id := ⟨11⟩, isRetracted := true }]
    let known : StoredFact := { id := ⟨11⟩, bindings := [⟨⟨1⟩, .biDirectional⟩] }
    let half : StoredFact :=
      { id := ⟨12⟩, bindings := [⟨⟨2⟩, .factIsDestination⟩, ⟨⟨3⟩, .factIsSource⟩] }
    let single : StoredFact := { id := ⟨13⟩, bindings := [⟨⟨2⟩, .factIsSource⟩] }
    let entries := [some known, none, some half, some single]
    let saved : List Object := [{ id := ⟨2⟩ }, new]
    let after := stores.run (saved.map .saveObject)
    (stores.read known).outcome = .ok (stores.recordWith known (.reflexive old old)) ∧
      (after.read known).outcome = .ok (stores.recordWith known (.reflexive new new)) ∧
      (stores.read half).outcome = .error ⟨⟨2⟩, some ⟨12⟩⟩ ∧
      (after.read half).outcome = .error ⟨⟨3⟩, some ⟨12⟩⟩ ∧
      ((after.readAll entries).failures.map (·.factId)).Sublist [⟨12⟩, ⟨13⟩] ∧
      ∃ binding ∈ single.bindings, stores.getObject binding.objectId = none ∧
        ∃ object ∈ saved, object.id = binding.objectId := by
  intro old new stores known half single entries saved after
  have read : (stores.read known).outcome =
      .ok (stores.recordWith known (.reflexive old old)) := rfl
  obtain ⟨-, -, failures, records, -, recovered⟩ := later_objects_keep_records stores entries saved
  refine ⟨read, records known (by simp [entries]) _ read, rfl, rfl, failures, ?_⟩
  exact recovered single (by simp [entries]) ⟨_, rfl⟩ ⟨_, rfl⟩

end Stores

end FactGraph
