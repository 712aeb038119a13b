import FactGraph.Proofs.Histories

namespace FactGraph

namespace Change

/-- What is left of a change for someone who reads a Fact. Of a search document that is the mark. -/
def concerning? (fact : StoredFact) : Change → Option Change
  | saveObject object =>
    if ∃ binding ∈ fact.bindings, binding.objectId = object.id then some (saveObject object)
    else none
  | saveAclEntry entry => if entry.factId = fact.id then some (saveAclEntry entry) else none
  | saveComment comment => if comment.factId = fact.id then some (saveComment comment) else none
  | indexDocument document =>
    if document.id = fact.id then
      some (indexDocument { id := fact.id, isRetracted := document.isRetracted })
    else none
  | saveFact _ | addBinding _ _ | addDocumentObject _ _ => none

theorem filter_concerning {α : Type} {fact : StoredFact} {saved? : Change → Option α}
    {own : α → Bool}
    (left : ∀ change, ((concerning? fact change).bind saved?).filter own =
      (saved? change).filter own)
    (history : List Change) :
    ((history.filterMap (concerning? fact)).filterMap saved?).filter own =
      (history.filterMap saved?).filter own := by
  rw [List.filterMap_filterMap, List.filter_filterMap, List.filter_filterMap]
  congr 1
  funext change
  exact left change

section Left

variable (fact : StoredFact) (change : Change)

theorem savedObject?_concerning {id : Uuid}
    (bound : ∃ binding ∈ fact.bindings, binding.objectId = id) :
    ((concerning? fact change).bind savedObject?).filter (·.id = id) =
      (savedObject? change).filter (·.id = id) := by
  cases change with
  | saveObject object =>
    by_cases same : object.id = id
    · subst same
      rw [concerning?, if_pos bound, Option.bind_some]
    · simp only [concerning?]
      split <;> simp [savedObject?, Option.filter, same]
  | saveAclEntry | saveComment | indexDocument =>
    simp only [concerning?]
    split <;> rfl
  | saveFact | addBinding | addDocumentObject => rfl

theorem savedAcl?_concerning :
    ((concerning? fact change).bind savedAcl?).filter (·.factId = fact.id) =
      (savedAcl? change).filter (·.factId = fact.id) := by
  cases change with
  | saveAclEntry entry =>
    simp only [concerning?]
    split
    · rfl
    · rename_i foreign
      simp [savedAcl?, Option.filter, foreign]
  | saveObject | saveComment | indexDocument =>
    simp only [concerning?]
    split <;> rfl
  | saveFact | addBinding | addDocumentObject => rfl

theorem savedComment?_concerning :
    ((concerning? fact change).bind savedComment?).filter (·.factId = fact.id) =
      (savedComment? change).filter (·.factId = fact.id) := by
  cases change with
  | saveComment comment =>
    simp only [concerning?]
    split
    · rfl
    · rename_i foreign
      simp [savedComment?, Option.filter, foreign]
  | saveObject | saveAclEntry | indexDocument =>
    simp only [concerning?]
    split <;> rfl
  | saveFact | addBinding | addDocumentObject => rfl

theorem mark?_concerning :
    ((concerning? fact change).bind mark?).filter (·.1 = fact.id) =
      (mark? change).filter (·.1 = fact.id) := by
  cases change with
  | indexDocument document =>
    simp only [concerning?]
    split
    · rename_i own
      simp [mark?, own]
    · rename_i foreign
      simp [mark?, Option.filter, foreign]
  | saveObject | saveAclEntry | saveComment =>
    simp only [concerning?]
    split <;> rfl
  | saveFact | addBinding | addDocumentObject => rfl

end Left

end Change

namespace Stores

variable {fact : StoredFact}

theorem agreeOn_concerning (history : List Change) :
    AgreeOn fact (empty.run (history.filterMap (Change.concerning? fact))) (empty.run history) where
  objects binding bound := by
    rw [getObject_run, getObject_run, Change.filter_concerning]
    intro change
    exact Change.savedObject?_concerning fact change ⟨binding, bound, rfl⟩
  flags := by
    rw [flagsOf_run, flagsOf_run, Change.filter_concerning (Change.mark?_concerning fact)]
  acl := by
    rw [fetchAcl_run, fetchAcl_run,
      Change.filter_concerning (Change.savedAcl?_concerning fact)]
  comments := by
    rw [fetchComments_run, fetchComments_run,
      Change.filter_concerning (Change.savedComment?_concerning fact)]

/-- Whether two histories leave the same Objects under the ids that a Fact is bound to, agree on
    whether it is retracted, and attach the same entries and comments to it. -/
structure SameOwnData (fact : StoredFact) (first second : List Change) : Prop where
  objects : ∀ binding ∈ fact.bindings,
    (empty.run first).getObject binding.objectId = (empty.run second).getObject binding.objectId
  retracted :
    (∃ indexed, (empty.run first).getDocument fact.id = some indexed ∧
        indexed.isRetracted = true) ↔
      ∃ indexed, (empty.run second).getDocument fact.id = some indexed ∧
        indexed.isRetracted = true
  acl : (first.filterMap Change.savedAcl?).filter (·.factId = fact.id) =
    (second.filterMap Change.savedAcl?).filter (·.factId = fact.id)
  comments : (first.filterMap Change.savedComment?).filter (·.factId = fact.id) =
    (second.filterMap Change.savedComment?).filter (·.factId = fact.id)

theorem SameOwnData.agreeOn {first second : List Change} (same : SameOwnData fact first second) :
    AgreeOn fact (empty.run first) (empty.run second) where
  objects := same.objects
  flags := by
    apply flagsOf_eq
    rw [mem_flagsOf_iff, mem_flagsOf_iff]
    exact same.retracted
  acl := by
    rw [fetchAcl_run, fetchAcl_run]
    exact same.acl
  comments := by
    rw [fetchComments_run, fetchComments_run]
    exact same.comments

/-- A Fact is read from its own data: alike after histories that agree on them, and as if everything
    else had never been saved or indexed. -/
theorem reading_depends_on_own_data (fact : StoredFact) :
    (∀ first second : List Change, SameOwnData fact first second →
        (empty.run first).read fact = (empty.run second).read fact) ∧
      ∀ history : List Change,
        (empty.run (history.filterMap (Change.concerning? fact))).read fact =
          (empty.run history).read fact := by
  constructor
  · intro first second same
    exact same.agreeOn.read_eq
  · intro history
    exact (agreeOn_concerning history).read_eq

theorem reading_depends_on_own_data_among_others :
    let fact : StoredFact := { id := ⟨9⟩, value := .int 3, bindings := [⟨⟨1⟩, .biDirectional⟩] }
    let own : List Change :=
      [ .saveObject { id := ⟨1⟩, value := .text "x.example.org" },
        .saveAclEntry { id := ⟨21⟩, factId := ⟨9⟩, subjectId := ⟨31⟩ },
        .saveComment { id := ⟨41⟩, factId := ⟨9⟩, text := .text "checked" },
        .indexDocument { id := ⟨9⟩, isRetracted := true } ]
    let others : List Change :=
      [ .saveObject { id := ⟨2⟩ },
        .saveFact fact,
        .addBinding ⟨9⟩ ⟨⟨2⟩, .factIsSource⟩,
        .saveAclEntry { id := ⟨22⟩, factId := ⟨8⟩, subjectId := ⟨32⟩ },
        .saveComment { id := ⟨42⟩, factId := ⟨8⟩, text := .text "secret" },
        .indexDocument { id := ⟨8⟩, isRetracted := true },
        .addDocumentObject ⟨9⟩ { id := ⟨2⟩, direction := .factIsSource } ]
    let again : Change := .indexDocument { id := ⟨9⟩, value := .int 4, isRetracted := true }
    SameOwnData fact own (others ++ own ++ [again]) ∧
      (empty.run own).read fact = (empty.run (others ++ own ++ [again])).read fact ∧
      (own ++ others).filterMap (Change.concerning? fact) = own ∧
      (empty.run own).read fact = (empty.run (own ++ others)).read fact := by
  intro fact own others again
  have same : SameOwnData fact own (others ++ own ++ [again]) := by
    refine ⟨?_, iff_of_true ⟨_, rfl, rfl⟩ ⟨_, rfl, rfl⟩, rfl, rfl⟩
    intro binding bound
    obtain rfl := List.mem_singleton.mp bound
    rfl
  have left : (own ++ others).filterMap (Change.concerning? fact) = own := rfl
  obtain ⟨alike, purged⟩ := reading_depends_on_own_data fact
  have alone := purged (own ++ others)
  rw [left] at alone
  exact ⟨same, alike _ _ same, left, alone⟩

end Stores

end FactGraph
