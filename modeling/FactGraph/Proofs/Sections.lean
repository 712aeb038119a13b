import FactGraph.Proofs.LoadFaults

namespace FactGraph.Dump

inductive Section where
  | objects
  | facts
  | acl
  | comments
  | retracted
  deriving DecidableEq

def Section.key : Section → String
  | objects => "objects"
  | facts => "facts"
  | acl => "acl"
  | comments => "comments"
  | retracted => "retracted"

def Section.inOrder : List Section := [objects, facts, acl, comments, retracted]

/-- Reads the items of a section whose entries are objects. All of their shapes come first. -/
def readEntries {α : Type} (key : String) (read : Members → Except LoadFault α)
    (items : List Json) : Except LoadFault (List α) := do
  (← asEntries key .dump items).mapM read

section Readers

variable {α : Type} {key : String} {read : Members → Except LoadFault α} {members : Members}
  {items : List Json}

theorem readSection_eq :
    readSection key read members = listAt key .dump members >>= readEntries key read := by
  simp only [readSection, entriesAt, bind_assoc]
  rfl

theorem readEntries_ok_iff {results : List α} :
    readEntries key read items = .ok results ↔
      ∃ entries : List Members, items = entries.map .object ∧ entries.mapM read = .ok results := by
  unfold readEntries
  simp only [bind_ok_iff, asEntries_ok_iff]

theorem listAt_ok_iff {place : Place} :
    listAt key place members = .ok items ↔
      (Json.get? members key).getD (.list []) = .list items :=
  asList_ok_iff

theorem listAt_of_listed (listed : Json.get? members key = some (.list items)) (place : Place) :
    listAt key place members = .ok items := by
  rw [listAt_ok_iff, listed, Option.getD_some]

end Readers

theorem ofMembers_ok_iff {members : Members} {dump : Dump} :
    ofMembers members = .ok dump ↔
      readSection "objects" readObject members = .ok dump.objects ∧
        (∃ value, Json.get? members "facts" = some value) ∧
        readSection "facts" readFact members = .ok dump.facts ∧
        readSection "acl" readAclEntry members = .ok dump.acl ∧
        readSection "comments" readComment members = .ok dump.comments ∧
        (listAt "retracted" .dump members >>= fun items => items.mapM (readId .retracted)) =
          .ok dump.retracted := by
  rw [ofMembers_eq]
  simp only [bind_ok_iff, required_ok_iff, Json.member?_object, pure, Except.pure,
    Except.ok.injEq]
  constructor
  · rintro ⟨objects, readObjects, value, present, facts, readFacts, acl, readAcl, comments,
      readComments, items, listed, retracted, readIds, rfl⟩
    exact ⟨readObjects, ⟨value, present⟩, readFacts, readAcl, readComments, items, listed, readIds⟩
  · rintro ⟨readObjects, ⟨value, present⟩, readFacts, readAcl, readComments, items, listed,
      readIds⟩
    exact ⟨_, readObjects, value, present, _, readFacts, _, readAcl, _, readComments, items, listed,
      _, readIds, rfl⟩

end FactGraph.Dump
