import FactGraph.Proofs.CanonicalReadings
import FactGraph.Proofs.Updates
import FactGraph.Proofs.Views
import Mathlib.Data.List.Induction

namespace FactGraph.Stores

def reindex (stores : Stores) (factId : Uuid) : Stores :=
  match stores.getFact factId with
  | none => stores
  | some fact =>
    match (stores.read fact).outcome with
    | .error _ => stores
    | .ok record => stores.indexDocument record.toDocument

def reindexAll (stores : Stores) (factIds : List Uuid) : Stores := factIds.foldl reindex stores

/-- Whether stores differ in nothing but search documents, and agree on what is retracted. -/
structure SameReadings (before after : Stores) : Prop where
  objects : after.objects = before.objects
  facts : after.facts = before.facts
  acl : after.acl = before.acl
  comments : after.comments = before.comments
  flags : ∀ factId, after.flagsOf factId = before.flagsOf factId

namespace SameReadings

variable {before after : Stores}

theorem agreeOn (same : SameReadings before after) (fact : StoredFact) :
    AgreeOn fact after before where
  objects binding _ := by
    unfold getObject
    rw [same.objects]
  flags := same.flags fact.id
  acl := by
    unfold fetchAcl
    rw [same.acl]
  comments := by
    unfold fetchComments
    rw [same.comments]

theorem read_eq (same : SameReadings before after) (fact : StoredFact) :
    after.read fact = before.read fact := (same.agreeOn fact).read_eq

theorem getFact_eq (same : SameReadings before after) (factId : Uuid) :
    after.getFact factId = before.getFact factId := by
  unfold getFact
  rw [same.facts]

theorem refl (stores : Stores) : SameReadings stores stores :=
  ⟨rfl, rfl, rfl, rfl, fun _ => rfl⟩

theorem trans {between : Stores} (first : SameReadings before between)
    (second : SameReadings between after) : SameReadings before after where
  objects := second.objects.trans first.objects
  facts := second.facts.trans first.facts
  acl := second.acl.trans first.acl
  comments := second.comments.trans first.comments
  flags factId := (second.flags factId).trans (first.flags factId)

end SameReadings

theorem flagsOf_eq {before after : Stores} {factId : Uuid}
    (same : Flag.retractedHint ∈ after.flagsOf factId ↔
      Flag.retractedHint ∈ before.flagsOf factId) :
    after.flagsOf factId = before.flagsOf factId := by
  apply SortedSet.eq_of_mem_iff
  intro flag
  cases flag
  exact same

section Step

variable (stores : Stores) {factId : Uuid} {fact : StoredFact} {record : FactRecord}

theorem getDocument_indexDocument (document : FactDocument) (id : Uuid) :
    (stores.indexDocument document).getDocument id =
      if document.id = id then some document else stores.getDocument id :=
  Table.get?_put stores.documents document id

variable {stores}

theorem isRetracted_of_read (read : (stores.read fact).outcome = .ok record) :
    record.isRetracted = true ↔ Flag.retractedHint ∈ stores.flagsOf fact.id := by
  obtain ⟨endpoints, -, rfl⟩ := read_ok_iff.mp read
  exact decide_eq_true_iff

theorem mem_acl_of_read (read : (stores.read fact).outcome = .ok record) {subjectId : Uuid} :
    subjectId ∈ record.toDocument.acl ↔
      ∃ entry ∈ stores.fetchAcl fact.id, entry.subjectId = subjectId := by
  obtain ⟨endpoints, -, rfl⟩ := read_ok_iff.mp read
  change subjectId ∈ SortedSet.ofList
    (((stores.fetchAcl fact.id).map (·.toAclEntry)).map (·.subjectId)) ↔ _
  rw [SortedSet.mem_ofList, List.map_map, List.mem_map]
  rfl

theorem indexDocument_sameReadings (read : (stores.read fact).outcome = .ok record) :
    SameReadings stores (stores.indexDocument record.toDocument) where
  objects := rfl
  facts := rfl
  acl := rfl
  comments := rfl
  flags id := by
    apply flagsOf_eq
    have owner : record.toDocument.id = fact.id := congrArg FactHead.id (head_of_read read)
    rw [mem_flagsOf_iff, getDocument_indexDocument, owner]
    by_cases same : fact.id = id
    · subst same
      have kept : record.toDocument.isRetracted = true ↔ _ := isRetracted_of_read read
      simp [kept]
    · rw [if_neg same, mem_flagsOf_iff]

theorem reindex_sameReadings (stores : Stores) (factId : Uuid) :
    SameReadings stores (stores.reindex factId) := by
  unfold reindex
  cases stores.getFact factId with
  | none => exact .refl stores
  | some fact =>
    cases read : (stores.read fact).outcome with
    | error missing => simpa only [read] using SameReadings.refl stores
    | ok record => simpa only [read] using indexDocument_sameReadings read

theorem getDocument_reindex_of_read (stored : stores.getFact factId = some fact)
    (read : (stores.read fact).outcome = .ok record) :
    (stores.reindex factId).getDocument factId = some record.toDocument := by
  have owner : record.toDocument.id = factId := by
    have underId := (Table.get?_eq_some_iff.mp stored).2
    exact (congrArg FactHead.id (head_of_read read)).trans underId
  simp only [reindex, stored, read]
  rw [getDocument_indexDocument, if_pos owner]

theorem getDocument_reindex_of_ne {id : Uuid} (other : id ≠ factId) :
    (stores.reindex factId).getDocument id = stores.getDocument id := by
  unfold reindex
  cases stored : stores.getFact factId with
  | none => rfl
  | some fact =>
    cases read : (stores.read fact).outcome with
    | error missing => simp only [read]
    | ok record =>
      have underId := (Table.get?_eq_some_iff.mp stored).2
      have owner : record.toDocument.id = factId :=
        (congrArg FactHead.id (head_of_read read)).trans underId
      simp only [read]
      rw [getDocument_indexDocument, owner, if_neg other.symm]

end Step

theorem reindexAll_sameReadings (stores : Stores) (factIds : List Uuid) :
    SameReadings stores (stores.reindexAll factIds) := by
  induction factIds generalizing stores with
  | nil => exact .refl stores
  | cons factId factIds ih => exact (reindex_sameReadings stores factId).trans (ih _)

theorem getDocument_reindexAll {stores : Stores} {factIds : List Uuid} {factId : Uuid}
    {fact : StoredFact} {record : FactRecord} (listed : factId ∈ factIds)
    (stored : stores.getFact factId = some fact)
    (read : (stores.read fact).outcome = .ok record) :
    (stores.reindexAll factIds).getDocument factId = some record.toDocument := by
  induction factIds using List.reverseRecOn with
  | nil => cases listed
  | append_singleton factIds last ih =>
    have same := stores.reindexAll_sameReadings factIds
    have step : stores.reindexAll (factIds ++ [last]) = (stores.reindexAll factIds).reindex last := by
      unfold reindexAll
      rw [List.foldl_append]
      rfl
    rw [step]
    by_cases here : factId = last
    · subst here
      rw [← same.getFact_eq] at stored
      rw [← same.read_eq] at read
      exact getDocument_reindex_of_read stored read
    · rw [getDocument_reindex_of_ne here]
      apply ih
      rcases List.mem_append.mp listed with earlier | atEnd
      · exact earlier
      · exact absurd (List.mem_singleton.mp atEnd) here

/-- Indexing Facts as they are read, in any order and however often, changes no reading, and the
    documents it leaves say what the stores say. -/
theorem reindexing_keeps_readings (stores : Stores) (factIds : List Uuid) :
    let after := stores.reindexAll factIds
    after.listFacts = stores.listFacts ∧
      (∀ fact ∈ stores.listFacts, after.read fact = stores.read fact) ∧
      ∀ factId ∈ factIds, ∀ fact record, stores.getFact factId = some fact →
        (stores.read fact).outcome = .ok record →
        ∃ document, after.getDocument factId = some document ∧
          document.toFactHead = fact.toFactHead ∧
          (document.isRetracted = true ↔
            ∃ indexed, stores.getDocument factId = some indexed ∧ indexed.isRetracted = true) ∧
          (∀ subjectId, subjectId ∈ document.acl ↔
            ∃ entry ∈ stores.fetchAcl factId, entry.subjectId = subjectId) ∧
          document.bindings = canonicalForm fact.bindings ∧ Canonical document.bindings := by
  intro after
  have same := stores.reindexAll_sameReadings factIds
  refine ⟨?_, fun fact _ => same.read_eq fact, ?_⟩
  · exact congrArg Table.entries same.facts
  · intro factId listed fact record stored read
    obtain rfl : fact.id = factId := (Table.get?_eq_some_iff.mp stored).2
    have bindings : record.toDocument.bindings = canonicalForm fact.bindings := by
      rw [FactRecord.toDocument_bindings]
      exact bindings_of_read read
    refine ⟨_, getDocument_reindexAll listed stored read, head_of_read read, ?_, ?_, bindings, ?_⟩
    · rw [← mem_flagsOf_iff]
      exact isRetracted_of_read read
    · intro subjectId
      exact mem_acl_of_read read
    · rw [bindings]
      exact canonicalForm_canonical fact.bindings

theorem reindexing_keeps_readings_of_retracted :
    let fact : StoredFact :=
      { id := ⟨9⟩
        value := .int 3
        bindings := [⟨⟨1⟩, .biDirectional⟩, ⟨⟨1⟩, .factIsSource⟩] }
    let stores := Stores.empty.run
      [ .saveObject { id := ⟨1⟩ },
        .saveFact { id := ⟨8⟩, bindings := [⟨⟨2⟩, .biDirectional⟩] },
        .saveFact fact,
        .saveAclEntry { id := ⟨21⟩, factId := ⟨9⟩, subjectId := ⟨31⟩ },
        .indexDocument { id := ⟨9⟩, isRetracted := true } ]
    let after := stores.reindexAll [⟨9⟩, ⟨8⟩, ⟨9⟩]
    stores.Dangling { id := ⟨8⟩, bindings := [⟨⟨2⟩, .biDirectional⟩] } ∧
      after.read fact = stores.read fact ∧
      ∃ document, after.getDocument ⟨9⟩ = some document ∧
        document.value = .int 3 ∧ document.isRetracted = true ∧ ⟨31⟩ ∈ document.acl ∧
        document.bindings = [⟨⟨1⟩, .biDirectional⟩] := by
  intro fact stores after
  have stored : stores.getFact ⟨9⟩ = some fact := rfl
  have listed : fact ∈ stores.listFacts := (Table.get?_eq_some_iff.mp stored).1
  have read : (stores.read fact).outcome =
      .ok (stores.recordWith fact (.reflexive { id := ⟨1⟩ } { id := ⟨1⟩ })) := rfl
  obtain ⟨-, readings, documents⟩ := reindexing_keeps_readings stores [⟨9⟩, ⟨8⟩, ⟨9⟩]
  obtain ⟨document, indexed, head, retracted, acl, bindings, -⟩ :=
    documents ⟨9⟩ (by simp) fact _ stored read
  refine ⟨by decide, readings fact listed, document, indexed, congrArg FactHead.value head,
    retracted.mpr ⟨_, rfl, rfl⟩, (acl ⟨31⟩).mpr ⟨_, List.mem_singleton.mpr rfl, rfl⟩, bindings⟩

end FactGraph.Stores
