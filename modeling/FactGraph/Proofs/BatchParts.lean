import FactGraph.Proofs.BatchContents

namespace FactGraph

def Notice.diagnostic? : Notice → Option Diagnostic
  | .corrupt diagnostic => some diagnostic
  | .skipped _ => none

def Batch.append (first second : Batch) : Batch :=
  { total := first.total + second.total
    records := first.records ++ second.records
    failures := first.failures ++ second.failures
    corrupt := first.corrupt ++ second.corrupt
    notices := first.notices ++ second.notices }

namespace Stores

section Fact

variable (stores : Stores) {fact : StoredFact}

theorem read_succeeds_of_corrupt (corrupted : CorruptBindings fact.bindings) :
    ∃ record, (stores.read fact).outcome = .ok record :=
  read_succeeds_iff.mpr fun dangling => dangling.1 corrupted

variable {stores} in
theorem read_silent_iff :
    (∃ record, stores.read fact = ⟨[], .ok record⟩) ↔
      ¬ CorruptBindings fact.bindings ∧ ¬ stores.Dangling fact := by
  rw [← read_succeeds_iff]
  constructor
  · rintro ⟨record, read⟩
    refine ⟨fun corrupted => ?_, record, congrArg Reading.outcome read⟩
    have reported := stores.read_diagnostics fact
    rw [read, if_pos corrupted] at reported
    cases reported
  · rintro ⟨sound, record, done⟩
    refine ⟨record, ?_⟩
    have silent := stores.read_diagnostics fact
    rw [if_neg sound] at silent
    rw [← silent, ← done]

end Fact

section Batch

variable (stores : Stores) (facts : List StoredFact)

theorem failureTexts_batchOf :
    (stores.batchOf facts).failures.map (fun failure => (failure.factId, failure.reason)) =
      facts.filterMap (fun fact =>
        match (stores.read fact).outcome with
        | .ok _ => none
        | .error missing => some (fact.id, missing.message)) := by
  change (facts.filterMap stores.failure?).map _ = _
  rw [List.map_filterMap]
  congr 1
  funext fact
  unfold failure?
  cases (stores.read fact).outcome <;> rfl

theorem diagnostics_of_notices :
    (stores.batchOf facts).notices.filterMap Notice.diagnostic? =
      (stores.batchOf facts).corrupt := by
  change (facts.flatMap stores.noticesOn).filterMap Notice.diagnostic? =
    facts.flatMap fun fact => (stores.read fact).diagnostics
  rw [List.filterMap_flatMap]
  congr 1
  funext fact
  rw [noticesOn, List.filterMap_append, List.filterMap_map, List.filterMap_map]
  simp [Function.comp_def, Notice.diagnostic?]

theorem batchOf_append (others : List StoredFact) :
    stores.batchOf (facts ++ others) = (stores.batchOf facts).append (stores.batchOf others) := by
  simp [batchOf, Batch.append]

end Batch

/-- A batch is made of what comes of reading each of its Facts alone. -/
theorem readAll_parts (stores : Stores) (entries : List (Option StoredFact)) :
    let facts := entries.filterMap id
    let batch := stores.readAll entries
    batch.total = entries.countP (·.isSome) ∧
      batch.records = facts.filterMap (fun fact => (stores.read fact).outcome.toOption) ∧
      batch.failures.map (fun failure => (failure.factId, failure.reason)) =
        facts.filterMap (fun fact =>
          match (stores.read fact).outcome with
          | .ok _ => none
          | .error missing => some (fact.id, missing.message)) ∧
      batch.records.length + batch.failures.length = batch.total ∧
      batch.corrupt = (facts.filter (CorruptBindings ·.bindings)).map (fun fact =>
        corruption (some fact.id) fact.bindings) ∧
      (∀ fact ∈ facts, CorruptBindings fact.bindings →
        ∃ record ∈ batch.records, (stores.read fact).outcome = .ok record) ∧
      batch.notices.filterMap Notice.diagnostic? = batch.corrupt ∧
      (batch.isClean = true ↔ ∀ fact ∈ facts, ∃ record, stores.read fact = ⟨[], .ok record⟩) ∧
      ∀ others, stores.readAll (entries ++ others) = batch.append (stores.readAll others) := by
  intro facts batch
  have parts : batch = stores.batchOf facts := stores.readAll_eq entries
  rw [parts]
  refine ⟨?_, rfl, ?_, stores.length_records facts, stores.corrupt_batchOf facts, ?_,
    stores.diagnostics_of_notices facts, ?_, ?_⟩
  · exact List.length_filterMap_eq_countP
  · exact stores.failureTexts_batchOf facts
  · intro fact listed corrupted
    obtain ⟨record, done⟩ := stores.read_succeeds_of_corrupt corrupted
    exact ⟨record, List.mem_filterMap.mpr ⟨fact, listed, record?_eq_some_iff.mpr done⟩, done⟩
  · rw [isClean_batchOf]
    exact forall₂_congr fun fact _ => read_silent_iff.symm
  · intro others
    rw [readAll_eq, readAll_eq, List.filterMap_append, batchOf_append]

theorem readAll_parts_mixed :
    let stores := Stores.empty.run [.saveObject { id := ⟨1⟩ }]
    let corrupt : StoredFact :=
      { id := ⟨11⟩, bindings := [⟨⟨1⟩, .factIsSource⟩, ⟨⟨2⟩, .factIsSource⟩] }
    let dangling : StoredFact := { id := ⟨12⟩, bindings := [⟨⟨2⟩, .biDirectional⟩] }
    let batch := stores.readAll [some corrupt, none, some dangling, some corrupt]
    batch.total = 3 ∧
      batch.failures.map (fun failure => (failure.factId, failure.reason)) =
        [(⟨12⟩, (⟨⟨2⟩, some ⟨12⟩⟩ : MissingObject).message)] ∧
      batch.corrupt = [⟨some ⟨11⟩, .sameDirection, 2⟩, ⟨some ⟨11⟩, .sameDirection, 2⟩] ∧
      (∃ record ∈ batch.records, (stores.read corrupt).outcome = .ok record) ∧
      batch.isClean = false ∧
      batch = (stores.readAll [some corrupt, none]).append
        (stores.readAll [some dangling, some corrupt]) := by
  intro stores corrupt dangling batch
  obtain ⟨total, -, failures, -, reported, recorded, -, clean, -⟩ :=
    readAll_parts stores [some corrupt, none, some dangling, some corrupt]
  obtain ⟨-, -, -, -, -, -, -, -, composed⟩ := readAll_parts stores [some corrupt, none]
  refine ⟨total, failures, reported, recorded corrupt (by simp) (by decide), ?_, composed _⟩
  rw [Bool.eq_false_iff]
  intro isClean
  obtain ⟨record, read⟩ := clean.mp isClean corrupt (by simp)
  have silent : (stores.read corrupt).diagnostics = [] := congrArg Reading.diagnostics read
  exact absurd silent (by decide)

end Stores

end FactGraph
