import FactGraph.Proofs.BatchContents
import FactGraph.Proofs.Updates

namespace FactGraph.Stores

def writeBack (stores : Stores) (records : List FactRecord) : Stores :=
  stores.run (records.map fun record => .saveFact record.toStored)

theorem writeBack_eq (stores : Stores) (records : List FactRecord) :
    stores.writeBack records =
      { stores with facts := (records.map FactRecord.toStored).foldl Table.put stores.facts } := by
  rw [← run_saveFact, List.map_map]
  rfl

/-- A Fact as it stands after its record is written back. One that cannot be read has no record. -/
def normalForm (stores : Stores) (fact : StoredFact) : StoredFact :=
  match (stores.read fact).outcome with
  | .ok record => record.toStored
  | .error _ => fact

variable (stores : Stores) (fact : StoredFact)

theorem normalForm_id : (stores.normalForm fact).id = fact.id := by
  unfold normalForm
  cases outcome : (stores.read fact).outcome with
  | error missing => rfl
  | ok record =>
    obtain ⟨endpoints, _, rfl⟩ := read_ok_iff.mp outcome
    rfl

theorem read_normalForm :
    stores.read (stores.normalForm fact) = ⟨[], (stores.read fact).outcome⟩ := by
  cases outcome : (stores.read fact).outcome with
  | ok record =>
    have form : stores.normalForm fact = record.toStored := by simp only [normalForm, outcome]
    rw [form, read_toStored outcome]
  | error missing =>
    have form : stores.normalForm fact = fact := by simp only [normalForm, outcome]
    rw [form, ← outcome, ← read_diagnostics_of_error outcome]

theorem normalForm_normalForm :
    stores.normalForm (stores.normalForm fact) = stores.normalForm fact := by
  have again : stores.normalForm (stores.normalForm fact) =
      match (stores.read fact).outcome with
      | .ok record => record.toStored
      | .error _ => stores.normalForm fact := by
    rw [normalForm, read_normalForm]
  rw [again]
  cases outcome : (stores.read fact).outcome with
  | ok record => simp only [normalForm, outcome]
  | error missing => rfl

variable {stores} in
theorem facts_writeBack {order : List FactRecord}
    (complete : order.Perm stores.readStored.records) :
    (stores.writeBack order).facts.entries = stores.facts.entries.map stores.normalForm := by
  have mem_order : ∀ record, record ∈ order ↔
      ∃ fact ∈ stores.facts.entries, (stores.read fact).outcome = .ok record := by
    intro record
    rw [complete.mem_iff, mem_records_readStored]
  rw [writeBack_eq]
  apply Table.entries_foldl_put
  · intro fact _
    exact stores.normalForm_id fact
  · intro update member
    obtain ⟨record, inOrder, rfl⟩ := List.mem_map.mp member
    obtain ⟨fact, stored, outcome⟩ := (mem_order record).mp inOrder
    refine ⟨fact, stored, ?_⟩
    simp only [normalForm, outcome]
  · intro fact stored
    cases outcome : (stores.read fact).outcome with
    | error missing =>
      left
      simp only [normalForm, outcome]
    | ok record =>
      right
      simp only [normalForm, outcome]
      exact List.mem_map_of_mem ((mem_order record).mpr ⟨fact, stored, outcome⟩)

theorem failure?_normalForm :
    stores.failure? (stores.normalForm fact) = stores.failure? fact := by
  simp only [failure?, read_normalForm, normalForm_id]

theorem batchOf_normalForm (facts : List StoredFact) :
    stores.batchOf (facts.map stores.normalForm) =
      { stores.batchOf facts with
        corrupt := []
        notices := (stores.batchOf facts).failures.map .skipped } := by
  have records : (facts.map stores.normalForm).filterMap stores.record? =
      facts.filterMap stores.record? := by
    rw [List.filterMap_map]
    congr 1
    funext fact
    simp only [Function.comp_apply, record?, read_normalForm]
  have failures : (facts.map stores.normalForm).filterMap stores.failure? =
      facts.filterMap stores.failure? := by
    rw [List.filterMap_map]
    congr 1
    funext fact
    exact stores.failure?_normalForm fact
  have corrupt : ((facts.map stores.normalForm).flatMap fun fact =>
      (stores.read fact).diagnostics) = [] := by
    simp [List.flatMap_map, read_normalForm]
  have notices : (facts.map stores.normalForm).flatMap stores.noticesOn =
      (facts.filterMap stores.failure?).map .skipped := by
    rw [List.flatMap_map, List.filterMap_eq_flatMap_toList, List.map_flatMap]
    congr 1
    funext fact
    rw [noticesOn, read_normalForm, failure?_normalForm]
    rfl
  unfold batchOf
  rw [records, failures, corrupt, notices, List.length_map]

variable {stores}

theorem batchOf_writeBack (order : List FactRecord) (facts : List StoredFact) :
    (stores.writeBack order).batchOf facts = stores.batchOf facts := by
  rw [writeBack_eq]
  rfl

theorem normalForm_writeBack (order : List FactRecord) :
    (stores.writeBack order).normalForm = stores.normalForm := by
  rw [writeBack_eq]
  rfl

theorem writeBack_eq_self {records : List FactRecord}
    (same : (stores.writeBack records).facts = stores.facts) :
    stores.writeBack records = stores := by
  rw [writeBack_eq] at same ⊢
  dsimp only at same
  rw [same]

/-- Writing the records of all Facts back, in whatever order, changes no record and no failure and
    leaves nothing corrupt; doing it again changes nothing at all. -/
theorem writeBack_settles {order : List FactRecord}
    (complete : order.Perm stores.readStored.records) :
    (stores.writeBack order).readStored =
        { stores.readStored with
          corrupt := []
          notices := stores.readStored.failures.map .skipped } ∧
      ∀ again : List FactRecord, again.Perm (stores.writeBack order).readStored.records →
        (stores.writeBack order).writeBack again = stores.writeBack order := by
  constructor
  · simp only [readStored_eq, batchOf_writeBack]
    unfold listFacts
    rw [facts_writeBack complete, batchOf_normalForm]
  · intro again completeAgain
    apply writeBack_eq_self
    apply Table.eq_of_entries
    rw [facts_writeBack completeAgain, normalForm_writeBack, facts_writeBack complete, List.map_map]
    congr 1
    funext fact
    exact stores.normalForm_normalForm fact

def unsettled : Stores :=
  Stores.empty.run
    [ .saveObject { id := ⟨1⟩, value := .text "x.example.org" },
      .saveObject { id := ⟨2⟩, value := .text "y.example.org" },
      .saveFact { id := ⟨11⟩, bindings := [⟨⟨1⟩, .factIsSource⟩, ⟨⟨2⟩, .biDirectional⟩] },
      .saveFact { id := ⟨12⟩, bindings := [⟨⟨1⟩, .biDirectional⟩, ⟨⟨1⟩, .biDirectional⟩] },
      .addBinding ⟨12⟩ ⟨⟨2⟩, .factIsSource⟩,
      .saveFact { id := ⟨13⟩, bindings := [⟨⟨3⟩, .factIsDestination⟩] } ]

theorem writeBack_settles_unsettled :
    let saved := unsettled.writeBack unsettled.readStored.records.reverse
    unsettled.readStored.corrupt = [⟨some ⟨12⟩, .tooManyBindings, 3⟩] ∧
      saved.readStored.corrupt = [] ∧
      saved.readStored.failures = [⟨⟨13⟩, ⟨⟨3⟩, some ⟨13⟩⟩⟩] ∧
      saved.writeBack saved.readStored.records = saved := by
  intro saved
  obtain ⟨settled, steady⟩ :=
    @writeBack_settles unsettled _ (List.reverse_perm unsettled.readStored.records)
  refine ⟨by decide, ?_, ?_, steady _ (List.Perm.refl _)⟩
  · rw [settled]
  · rw [settled]
    decide

end FactGraph.Stores
