import FactGraph.Proofs.Histories

namespace FactGraph

namespace Change

def savedFact? : Change → Option StoredFact
  | saveFact fact => some fact
  | _ => none

theorem savedFact?_eq_some_iff {change : Change} {fact : StoredFact} :
    change.savedFact? = some fact ↔ change = saveFact fact := by
  cases change <;> simp [savedFact?]

def addedBinding? (factId : Uuid) : Change → Option Binding
  | addBinding id binding => if id = factId then some binding else none
  | _ => none

def attaches : Change → Bool
  | saveAclEntry _ | saveComment _ => true
  | _ => false

end Change

namespace StoredFact

def addBindings (fact : StoredFact) (bindings : List Binding) : StoredFact :=
  { fact with bindings := fact.bindings ++ bindings }

theorem addBindings_nil (fact : StoredFact) : fact.addBindings [] = fact := by
  unfold addBindings
  rw [List.append_nil]

theorem addBindings_append (fact : StoredFact) (first second : List Binding) :
    fact.addBindings (first ++ second) = (fact.addBindings first).addBindings second := by
  unfold addBindings
  rw [List.append_assoc]

/-- Whether a history leaves a Fact so: as last saved under its id, with the bindings added since. -/
def LeftBy (fact : StoredFact) (history : List Change) : Prop :=
  ∃ before saved after, history = before ++ Change.saveFact saved :: after ∧
    (∀ later, Change.saveFact later ∈ after → later.id ≠ saved.id) ∧
    fact = saved.addBindings (after.filterMap (Change.addedBinding? saved.id))

theorem leftBy_append_singleton {fact : StoredFact} {history : List Change} {last : Change} :
    fact.LeftBy (history ++ [last]) ↔
      last = .saveFact fact ∨
        ∃ earlier : StoredFact, earlier.LeftBy history ∧
          (∀ later, last = .saveFact later → later.id ≠ earlier.id) ∧
          fact = earlier.addBindings (last.addedBinding? earlier.id).toList := by
  have added (saved : StoredFact) (changes : List Change) :
      saved.addBindings ((changes ++ [last]).filterMap (Change.addedBinding? saved.id)) =
        (saved.addBindings (changes.filterMap (Change.addedBinding? saved.id))).addBindings
          (last.addedBinding? saved.id).toList := by
    rw [List.filterMap_append, addBindings_append]
    cases adds : last.addedBinding? saved.id <;> simp [adds]
  constructor
  · rintro ⟨before, saved, after, parted, unsaved, rfl⟩
    -- The last change is the save itself or comes after it.
    rcases after.eq_nil_or_concat' with rfl | ⟨between, change, rfl⟩
    · obtain ⟨-, same⟩ := List.append_inj' parted rfl
      rw [List.filterMap_nil, addBindings_nil]
      exact .inl (List.head_eq_of_cons_eq same)
    · rw [← List.cons_append, ← List.append_assoc] at parted
      obtain ⟨rfl, same⟩ := List.append_inj' parted rfl
      obtain rfl := List.head_eq_of_cons_eq same
      refine .inr ⟨_, ⟨before, saved, between, rfl, ?_, rfl⟩, ?_, added saved between⟩
      · exact fun later member => unsaved later (List.mem_append_left _ member)
      · rintro later rfl
        exact unsaved later (List.mem_append_right _ (List.mem_singleton_self _))
  · rintro (rfl | ⟨_, ⟨before, saved, after, rfl, unsaved, rfl⟩, kept, rfl⟩)
    · refine ⟨history, fact, [], rfl, ?_, (addBindings_nil fact).symm⟩
      intro later member
      cases member
    · refine ⟨before, saved, after ++ [last], ?_, ?_, (added saved after).symm⟩
      · rw [List.append_assoc, List.cons_append]
      · intro later member
        rcases List.mem_append.mp member with member | member
        · exact unsaved later member
        · exact kept later (List.mem_singleton.mp member).symm

end StoredFact

namespace Stores

section Step

variable (stores : Stores)

theorem getFact_saveFact (fact : StoredFact) (id : Uuid) :
    (stores.saveFact fact).getFact id = if fact.id = id then some fact else stores.getFact id :=
  Table.get?_put stores.facts fact id

theorem getFact_addBinding (factId : Uuid) (binding : Binding) (id : Uuid) :
    (stores.addBinding factId binding).getFact id =
      if factId = id then (stores.getFact id).map (·.addBinding binding)
      else stores.getFact id := by
  unfold addBinding
  cases found : stores.facts.get? factId with
  | none =>
    by_cases same : factId = id
    · subst same
      rw [if_pos rfl, getFact, found]
      rfl
    · rw [if_neg same]
  | some fact =>
    have owner : (fact.addBinding binding).id = factId := (Table.get?_eq_some_iff.mp found).2
    rw [getFact_saveFact, owner]
    by_cases same : factId = id
    · subst same
      rw [if_pos rfl, if_pos rfl, getFact, found]
      rfl
    · rw [if_neg same, if_neg same]

theorem facts_addDocumentObject (id : Uuid) (object : ObjectDocument) :
    (stores.addDocumentObject id object).facts = stores.facts := by
  obtain ⟨documents, changed⟩ := stores.addDocumentObject_keeps id object
  rw [changed]

theorem getFact_apply (change : Change) (id : Uuid) :
    (stores.apply change).getFact id =
      (change.savedFact?.filter (·.id = id)).or
        ((stores.getFact id).map (·.addBindings (change.addedBinding? id).toList)) := by
  have kept : stores.getFact id = (stores.getFact id).map (·.addBindings []) := by
    cases stores.getFact id with
    | none => rfl
    | some fact => exact congrArg some fact.addBindings_nil.symm
  cases change with
  | saveFact fact =>
    refine (stores.getFact_saveFact fact id).trans ?_
    by_cases own : fact.id = id
    · simp [Change.savedFact?, Option.filter, own]
    · simpa [Change.savedFact?, Change.addedBinding?, Option.filter, own] using kept
  | addBinding factId binding =>
    refine (stores.getFact_addBinding factId binding id).trans ?_
    by_cases own : factId = id
    · simp only [own, if_true, Change.addedBinding?]
      rfl
    · simpa [Change.savedFact?, Change.addedBinding?, own] using kept
  | addDocumentObject factId object =>
    exact (congrArg (·.get? id) (stores.facts_addDocumentObject factId object)).trans kept
  | _ => exact kept

theorem factIds_apply (change : Change) :
    (stores.apply change).listFacts.map (·.id) =
      match change.savedFact? with
      | some fact =>
        if fact.id ∈ stores.listFacts.map (·.id) then stores.listFacts.map (·.id)
        else stores.listFacts.map (·.id) ++ [fact.id]
      | none => stores.listFacts.map (·.id) := by
  cases change with
  | saveFact fact => exact Table.keys_put stores.facts fact
  | addBinding factId binding =>
    change (stores.addBinding factId binding).listFacts.map (·.id) = _
    unfold addBinding
    cases found : stores.facts.get? factId with
    | none => rfl
    | some fact =>
      have known := (Table.get?_eq_some_iff.mp found).1
      exact (Table.keys_put stores.facts _).trans (if_pos (List.mem_map_of_mem known))
  | addDocumentObject id object =>
    exact congrArg (·.entries.map (·.id)) (stores.facts_addDocumentObject id object)
  | _ => rfl

end Step

section Run

variable (history : List Change)

theorem factIds_run :
    (empty.run history).listFacts.map (·.id) =
      ((history.filterMap Change.savedFact?).map (·.id)).eraseDups := by
  induction history using List.reverseRecOn with
  | nil => rfl
  | append_singleton history last ih =>
    rw [run_append]
    change ((empty.run history).apply last).listFacts.map (·.id) = _
    rw [factIds_apply, ih, List.filterMap_append, List.map_append]
    cases saved : last.savedFact? with
    | none => simp [saved]
    | some fact =>
      simp only [saved, List.filterMap_cons, List.filterMap_nil, List.map_singleton,
        eraseDups_append_singleton, List.mem_eraseDups]

theorem getFact_run_iff {history : List Change} {id : Uuid} {fact : StoredFact} :
    (empty.run history).getFact id = some fact ↔ fact.LeftBy history ∧ fact.id = id := by
  induction history using List.reverseRecOn generalizing fact with
  | nil =>
    constructor
    · intro found
      cases found
    · rintro ⟨⟨before, saved, after, parted, -⟩, -⟩
      exact absurd parted.symm (by simp)
  | append_singleton history last ih =>
    rw [run_append]
    change ((empty.run history).apply last).getFact id = _ ↔ _
    rw [getFact_apply, StoredFact.leftBy_append_singleton]
    simp only [Option.or_eq_some_iff, Option.filter_eq_some_iff, Option.filter_eq_none_iff,
      Option.map_eq_some_iff, Change.savedFact?_eq_some_iff, decide_eq_true_eq, ih]
    -- A save at the end decides; without one, what stood there before is kept or added to.
    constructor
    · rintro (⟨saved, owner⟩ | ⟨unsaved, earlier, ⟨left, rfl⟩, rfl⟩)
      · exact ⟨.inl saved, owner⟩
      · exact ⟨.inr ⟨earlier, left, unsaved, rfl⟩, rfl⟩
    · rintro ⟨saved | ⟨earlier, left, unsaved, rfl⟩, rfl⟩
      · exact .inl ⟨saved, rfl⟩
      · exact .inr ⟨unsaved, earlier, ⟨left, rfl⟩, rfl⟩

theorem mem_listFacts_iff {stores : Stores} {fact : StoredFact} :
    fact ∈ stores.listFacts ↔ stores.getFact fact.id = some fact :=
  ⟨Table.get?_eq_of_mem, fun found => (Table.get?_eq_some_iff.mp found).1⟩

theorem getFact_eq_none_iff {stores : Stores} {id : Uuid} :
    stores.getFact id = none ↔ id ∉ stores.listFacts.map (·.id) := by
  rw [Option.eq_none_iff_forall_ne_some, List.mem_map]
  constructor
  · rintro missing ⟨fact, listed, rfl⟩
    exact missing fact (mem_listFacts_iff.mp listed)
  · intro unlisted fact found
    exact unlisted ⟨fact, Table.get?_eq_some_iff.mp found⟩

theorem getFact_run_eq_none_iff {id : Uuid} :
    (empty.run history).getFact id = none ↔
      ∀ fact, Change.saveFact fact ∈ history → fact.id ≠ id := by
  rw [getFact_eq_none_iff, factIds_run, List.mem_eraseDups]
  simp only [List.mem_map, List.mem_filterMap, Change.savedFact?_eq_some_iff, not_exists, not_and,
    forall_exists_index, and_imp, ne_eq]
  constructor
  · intro unsaved fact saved
    exact unsaved fact _ saved rfl
  · rintro unsaved fact _ saved rfl
    exact unsaved fact saved

theorem attachments_run_filter (factId : Uuid) :
    (empty.run (history.filter Change.attaches)).fetchAcl factId =
        (empty.run history).fetchAcl factId ∧
      (empty.run (history.filter Change.attaches)).fetchComments factId =
        (empty.run history).fetchComments factId := by
  simp only [fetchAcl_run, fetchComments_run, List.filterMap_filter]
  constructor <;> congr 2 <;> funext change <;> cases change <;> rfl

end Run

/-- The fact store after any history: each Fact once, in the order of first saves, as it was last
    saved with the bindings added since; what is attached is kept whatever becomes of the Fact. -/
theorem fact_store_follows_history (history : List Change) :
    let stores := empty.run history
    stores.listFacts.map (·.id) =
        ((history.filterMap Change.savedFact?).map (·.id)).eraseDups ∧
      (∀ fact, fact ∈ stores.listFacts ↔ fact.LeftBy history) ∧
      (∀ id fact, stores.getFact id = some fact ↔ fact ∈ stores.listFacts ∧ fact.id = id) ∧
      (∀ id, stores.getFact id = none ↔
        ∀ fact, Change.saveFact fact ∈ history → fact.id ≠ id) ∧
      ∀ id,
        stores.fetchAcl id =
            (history.filterMap Change.savedAcl?).filter (·.factId = id) ∧
          stores.fetchComments id =
            (history.filterMap Change.savedComment?).filter (·.factId = id) ∧
          (empty.run (history.filter Change.attaches)).fetchAcl id = stores.fetchAcl id ∧
          (empty.run (history.filter Change.attaches)).fetchComments id =
            stores.fetchComments id := by
  intro stores
  refine ⟨factIds_run history, ?_, ?_, fun _ => getFact_run_eq_none_iff history, ?_⟩
  · intro fact
    rw [mem_listFacts_iff, getFact_run_iff]
    exact and_iff_left rfl
  · exact fun id fact => Table.get?_eq_some_iff
  · exact fun id =>
      ⟨fetchAcl_run history id, fetchComments_run history id, attachments_run_filter history id⟩

example :
    let history : List Change :=
      [ .saveFact { id := ⟨1⟩ }, .saveComment { id := ⟨9⟩, factId := ⟨1⟩, text := .text "a" },
        .saveFact { id := ⟨2⟩ }, .addBinding ⟨1⟩ ⟨⟨7⟩, .factIsSource⟩,
        .saveFact { id := ⟨1⟩, timestamp := 5 }, .addBinding ⟨1⟩ ⟨⟨8⟩, .biDirectional⟩ ]
    (empty.run history).listFacts =
        [{ id := ⟨1⟩, timestamp := 5, bindings := [⟨⟨8⟩, .biDirectional⟩] }, { id := ⟨2⟩ }] ∧
      ((empty.run history).fetchComments ⟨1⟩).length = 1 := by
  decide

end Stores

end FactGraph
