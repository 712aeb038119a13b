import FactGraph.Proofs.Reindexing
import FactGraph.Proofs.WriterRuns

namespace FactGraph

namespace Change

def savedAcl? : Change → Option StoredAclEntry
  | saveAclEntry entry => some entry
  | _ => none

def savedComment? : Change → Option StoredComment
  | saveComment comment => some comment
  | _ => none

def mark? : Change → Option (Uuid × Bool)
  | indexDocument document => some (document.id, document.isRetracted)
  | _ => none

end Change

namespace Stores

section Step

variable (stores : Stores)

theorem addBinding_keeps (factId : Uuid) (binding : Binding) :
    ∃ facts, stores.addBinding factId binding = { stores with facts } := by
  unfold addBinding
  split
  · exact ⟨stores.facts, rfl⟩
  · exact ⟨_, rfl⟩

theorem addDocumentObject_keeps (id : Uuid) (object : ObjectDocument) :
    ∃ documents, stores.addDocumentObject id object = { stores with documents } := by
  unfold addDocumentObject
  split
  · exact ⟨stores.documents, rfl⟩
  · exact ⟨_, rfl⟩

theorem flagsOf_indexDocument (document : FactDocument) (factId : Uuid) :
    (stores.indexDocument document).flagsOf factId =
      if document.id = factId then
        if document.isRetracted then .ofList [.retractedHint] else .empty
      else stores.flagsOf factId := by
  unfold flagsOf
  rw [getDocument_indexDocument]
  by_cases own : document.id = factId <;> simp [own]

theorem flagsOf_addDocumentObject (id : Uuid) (object : ObjectDocument) (factId : Uuid) :
    (stores.addDocumentObject id object).flagsOf factId = stores.flagsOf factId := by
  unfold addDocumentObject
  split
  · rfl
  · rename_i document found
    -- The document is indexed once more, with the mark that it had.
    rw [flagsOf_indexDocument]
    have owner : document.id = id := (Table.get?_eq_some_iff.mp found).2
    by_cases own : document.id = factId
    · have indexed : stores.getDocument factId = some document := by
        rw [← own, owner]
        exact found
      rw [if_pos (show (document.addObject object).id = factId from own), flagsOf, indexed]
      rfl
    · rw [if_neg (show ¬ (document.addObject object).id = factId from own)]

theorem attachments_apply (change : Change) :
    (stores.apply change).acl = stores.acl ++ change.savedAcl?.toList ∧
      (stores.apply change).comments = stores.comments ++ change.savedComment?.toList := by
  cases change with
  | saveAclEntry entry => exact ⟨rfl, (List.append_nil _).symm⟩
  | saveComment comment => exact ⟨(List.append_nil _).symm, rfl⟩
  | addBinding factId binding =>
    obtain ⟨facts, changed⟩ := stores.addBinding_keeps factId binding
    simp [apply, changed, Change.savedAcl?, Change.savedComment?]
  | addDocumentObject id object =>
    obtain ⟨documents, changed⟩ := stores.addDocumentObject_keeps id object
    simp [apply, changed, Change.savedAcl?, Change.savedComment?]
  | _ => exact ⟨(List.append_nil _).symm, (List.append_nil _).symm⟩

theorem flagsOf_apply (change : Change) (factId : Uuid) :
    (stores.apply change).flagsOf factId =
      match change.mark?.filter (·.1 = factId) with
      | some (_, retracted) => if retracted then .ofList [.retractedHint] else .empty
      | none => stores.flagsOf factId := by
  cases change with
  | indexDocument document =>
    change (stores.indexDocument document).flagsOf factId = _
    rw [flagsOf_indexDocument]
    by_cases own : document.id = factId <;> simp [Change.mark?, Option.filter, own]
  | addBinding id binding =>
    obtain ⟨facts, changed⟩ := stores.addBinding_keeps id binding
    change (stores.addBinding id binding).flagsOf factId = _
    rw [changed]
    rfl
  | addDocumentObject id object => exact stores.flagsOf_addDocumentObject id object factId
  | saveObject | saveFact | saveAclEntry | saveComment => rfl

end Step

section Run

variable (stores : Stores) (changes : List Change)

/-- A list that a change at most adds to grows by what is added to it, in order. -/
theorem part_run {α : Type} {part : Stores → List α} {added? : Change → Option α}
    (step : ∀ stores change, part (stores.apply change) = part stores ++ (added? change).toList) :
    part (stores.run changes) = part stores ++ changes.filterMap added? := by
  induction changes generalizing stores with
  | nil => exact (List.append_nil _).symm
  | cons change changes ih =>
    have rest : part (stores.run (change :: changes)) = _ := ih (stores.apply change)
    rw [rest, step, List.append_assoc]
    cases added : added? change <;> simp [added]

theorem acl_run :
    (stores.run changes).acl = stores.acl ++ changes.filterMap Change.savedAcl? :=
  part_run stores changes fun stores change => (stores.attachments_apply change).1

theorem comments_run :
    (stores.run changes).comments = stores.comments ++ changes.filterMap Change.savedComment? :=
  part_run stores changes fun stores change => (stores.attachments_apply change).2

theorem flagsOf_run (factId : Uuid) :
    (stores.run changes).flagsOf factId =
      match ((changes.filterMap Change.mark?).filter (·.1 = factId)).getLast? with
      | some (_, retracted) => if retracted then .ofList [.retractedHint] else .empty
      | none => stores.flagsOf factId := by
  -- From the end of the history: a mark there counts, whatever came before it.
  induction changes using List.reverseRecOn with
  | nil => rfl
  | append_singleton changes last ih =>
    have marked : ([last].filterMap Change.mark?).filter (·.1 = factId) =
        (last.mark?.filter (·.1 = factId)).toList := by
      cases mark : last.mark? with
      | none => simp [mark]
      | some pair => by_cases own : pair.1 = factId <;> simp [mark, Option.filter, own]
    rw [run_append, List.filterMap_append, List.filter_append, marked, List.getLast?_append]
    change ((stores.run changes).apply last).flagsOf factId = _
    rw [flagsOf_apply, ih]
    cases last.mark?.filter (·.1 = factId) <;> rfl

theorem getObject_run (id : Uuid) :
    (empty.run changes).getObject id =
      ((changes.filterMap Change.savedObject?).filter (·.id = id)).getLast? := by
  unfold getObject
  rw [objects_run]
  exact Table.get?_ofList _ id

theorem fetchAcl_run (factId : Uuid) :
    (empty.run changes).fetchAcl factId =
      (changes.filterMap Change.savedAcl?).filter (·.factId = factId) := by
  unfold fetchAcl
  rw [acl_run]
  rfl

theorem fetchComments_run (factId : Uuid) :
    (empty.run changes).fetchComments factId =
      (changes.filterMap Change.savedComment?).filter (·.factId = factId) := by
  unfold fetchComments
  rw [comments_run]
  rfl

end Run

end Stores

end FactGraph
