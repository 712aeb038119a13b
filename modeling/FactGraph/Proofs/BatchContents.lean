import FactGraph.Batch
import FactGraph.Proofs.Reading
import FactGraph.Proofs.Updates
import Mathlib.Data.List.Induction

namespace FactGraph.Stores

def record? (stores : Stores) (fact : StoredFact) : Option FactRecord :=
  (stores.read fact).outcome.toOption

def failure? (stores : Stores) (fact : StoredFact) : Option Failure :=
  match (stores.read fact).outcome with
  | .ok _ => none
  | .error missing => some ⟨fact.id, missing⟩

def noticesOn (stores : Stores) (fact : StoredFact) : List Notice :=
  (stores.read fact).diagnostics.map .corrupt ++ (stores.failure? fact).toList.map .skipped

def batchOf (stores : Stores) (facts : List StoredFact) : Batch :=
  { total := facts.length
    records := facts.filterMap stores.record?
    failures := facts.filterMap stores.failure?
    corrupt := facts.flatMap fun fact => (stores.read fact).diagnostics
    notices := facts.flatMap stores.noticesOn }

theorem batchOf_snoc (stores : Stores) (facts : List StoredFact) (fact : StoredFact) :
    stores.batchOf (facts ++ [fact]) = (stores.batchOf facts).add fact.id (stores.read fact) := by
  unfold Batch.add
  cases outcome : (stores.read fact).outcome with
  | ok record => simp [batchOf, record?, failure?, noticesOn, outcome, Except.toOption]
  | error missing => simp [batchOf, record?, failure?, noticesOn, outcome, Except.toOption]

theorem readAll_eq (stores : Stores) (entries : List (Option StoredFact)) :
    stores.readAll entries = stores.batchOf (entries.filterMap id) := by
  induction entries using List.reverseRecOn with
  | nil => rfl
  | append_singleton entries last ih =>
    unfold readAll at ih ⊢
    rw [List.foldl_append, List.foldl_cons, List.foldl_nil, ih, List.filterMap_append]
    cases last with
    | none => simp
    | some fact => exact (stores.batchOf_snoc _ fact).symm

def readStored (stores : Stores) : Batch := stores.readAll (stores.listFacts.map some)

theorem readStored_eq (stores : Stores) : stores.readStored = stores.batchOf stores.listFacts := by
  unfold readStored
  rw [readAll_eq, List.filterMap_map]
  simp

theorem record?_eq_some_iff {stores : Stores} {fact : StoredFact} {record : FactRecord} :
    stores.record? fact = some record ↔ (stores.read fact).outcome = .ok record := by
  unfold record?
  cases (stores.read fact).outcome <;> simp [Except.toOption]

theorem mem_records_readStored {stores : Stores} {record : FactRecord} :
    record ∈ stores.readStored.records ↔
      ∃ fact ∈ stores.facts.entries, (stores.read fact).outcome = .ok record := by
  rw [readStored_eq]
  simp only [batchOf, listFacts, List.mem_filterMap, record?_eq_some_iff]

theorem failure?_eq_some_iff {stores : Stores} {fact : StoredFact} {failure : Failure} :
    stores.failure? fact = some failure ↔
      failure.factId = fact.id ∧ (stores.read fact).outcome = .error failure.cause := by
  obtain ⟨factId, cause⟩ := failure
  unfold failure?
  cases (stores.read fact).outcome <;> simp [eq_comm]

theorem failure?_eq_none_iff {stores : Stores} {fact : StoredFact} :
    stores.failure? fact = none ↔ ¬ stores.Dangling fact := by
  rw [← read_succeeds_iff]
  unfold failure?
  cases (stores.read fact).outcome <;> simp

section UnderId

variable (stores : Stores) (id : Uuid)

theorem filter_listFacts {α : Type} {read : StoredFact → Option α} {owner : α → Uuid}
    (owned : ∀ fact a, read fact = some a → owner a = fact.id) :
    (stores.listFacts.filterMap read).filter (owner · = id) =
      ((stores.getFact id).bind read).toList := by
  have kept (fact : StoredFact) :
      (read fact).filter (owner · = id) = if fact.id = id then read fact else none := by
    cases done : read fact with
    | none => simp
    | some a => simp [Option.filter, owned fact a done]
  have here : stores.listFacts.filter (·.id = id) = (stores.getFact id).toList :=
    stores.facts.filter_entries id
  calc (stores.listFacts.filterMap read).filter (owner · = id)
      = (stores.listFacts.filter (·.id = id)).filterMap read := by
        rw [List.filter_filterMap, List.filterMap_filter]
        simp only [kept, decide_eq_true_eq]
    _ = ((stores.getFact id).bind read).toList := by
        rw [here]
        cases stores.getFact id with
        | none => rfl
        | some fact => cases done : read fact <;> simp [done]

theorem filter_records_readStored :
    stores.readStored.records.filter (·.id = id) =
      ((stores.getFact id).bind stores.record?).toList := by
  rw [readStored_eq]
  apply stores.filter_listFacts id
  intro fact record done
  exact congrArg FactHead.id (head_of_read (record?_eq_some_iff.mp done))

theorem filter_failures_readStored :
    stores.readStored.failures.filter (·.factId = id) =
      ((stores.getFact id).bind stores.failure?).toList := by
  rw [readStored_eq]
  apply stores.filter_listFacts id
  intro fact failure failed
  exact (failure?_eq_some_iff.mp failed).1

end UnderId

section Counts

variable (stores : Stores) (facts : List StoredFact)

theorem corrupt_batchOf :
    (stores.batchOf facts).corrupt =
      (facts.filter (CorruptBindings ·.bindings)).map fun fact =>
        corruption (some fact.id) fact.bindings := by
  change (facts.flatMap fun fact => (stores.read fact).diagnostics) = _
  induction facts with
  | nil => rfl
  | cons fact facts ih =>
    rw [List.flatMap_cons, ih, read_diagnostics, List.filter_cons]
    by_cases corrupted : CorruptBindings fact.bindings
    · simp [corrupted]
    · simp [corrupted]

theorem length_corrupt :
    (stores.batchOf facts).corrupt.length = facts.countP (CorruptBindings ·.bindings) := by
  rw [corrupt_batchOf, List.length_map, List.countP_eq_length_filter]

theorem length_failures :
    (stores.batchOf facts).failures.length = facts.countP stores.Dangling := by
  change (facts.filterMap stores.failure?).length = _
  rw [List.length_filterMap_eq_countP]
  apply List.countP_congr
  intro fact _
  rw [Option.isSome_iff_ne_none, ne_eq, failure?_eq_none_iff, decide_eq_true_eq]
  exact Decidable.not_not

theorem length_records :
    (stores.batchOf facts).records.length + (stores.batchOf facts).failures.length =
      (stores.batchOf facts).total := by
  change _ = facts.length
  have split := List.length_eq_countP_add_countP (l := facts) (stores.Dangling ·)
  rw [length_failures, split, Nat.add_comm]
  congr 1
  change (facts.filterMap stores.record?).length = _
  rw [List.length_filterMap_eq_countP]
  apply List.countP_congr
  intro fact _
  have read := @read_succeeds_iff stores fact
  simp only [← record?_eq_some_iff, ← Option.isSome_iff_exists] at read
  simpa using read

theorem isClean_batchOf :
    (stores.batchOf facts).isClean = true ↔
      ∀ fact ∈ facts, ¬ CorruptBindings fact.bindings ∧ ¬ stores.Dangling fact := by
  have failed : (stores.batchOf facts).failures = [] ↔ ∀ fact ∈ facts, ¬ stores.Dangling fact := by
    rw [← List.length_eq_zero_iff, length_failures, List.countP_eq_zero]
    simp
  have corrupted : (stores.batchOf facts).corrupt = [] ↔
      ∀ fact ∈ facts, ¬ CorruptBindings fact.bindings := by
    rw [← List.length_eq_zero_iff, length_corrupt, List.countP_eq_zero]
    simp
  unfold Batch.isClean
  rw [Bool.and_eq_true, List.isEmpty_iff, List.isEmpty_iff, failed, corrupted]
  constructor
  · rintro ⟨sound, known⟩ fact member
    exact ⟨known fact member, sound fact member⟩
  · intro clean
    exact ⟨fun fact member => (clean fact member).2, fun fact member => (clean fact member).1⟩

end Counts

end FactGraph.Stores
