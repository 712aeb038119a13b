import FactGraph.Proofs.DumpLayout
import FactGraph.Proofs.LoadFaults

namespace FactGraph

/-- A Fact without a confidence or a trust cannot be written: a missing number is read as zero. -/
def StoredFact.Numbered (fact : StoredFact) : Prop :=
  fact.confidence.isSome ∧ fact.trust.isSome

namespace Dump

/-! The writer of a dump in which nothing is left out. -/

def objectMembers (object : Object) : Members :=
  [("id", .ofId object.id), ("type_id", .ofId? object.typeId), ("value", object.value)]

def bindingMembers (binding : Binding) : Members :=
  [("object_id", .ofId binding.objectId), ("direction", .text binding.direction.wireName)]

def factMembers (fact : StoredFact) : Members :=
  [ ("id", .ofId fact.id), ("type_id", .ofId? fact.typeId), ("value", fact.value),
    ("in_reference_to_id", .ofId? fact.inReferenceToId),
    ("organization_id", .ofId? fact.organizationId), ("origin_id", .ofId? fact.originId),
    ("added_by_id", .ofId? fact.addedById), ("access_mode", .ofAccessMode? fact.accessMode),
    ("confidence", (fact.confidence.map .float).getD .null),
    ("trust", (fact.trust.map .float).getD .null), ("timestamp", .int fact.timestamp),
    ("last_seen_timestamp", .int fact.lastSeenTimestamp),
    ("bindings", .list (fact.bindings.map fun binding => .object (bindingMembers binding))) ]

def aclEntryMembers (acl : StoredAclEntry) : Members :=
  [ ("id", .ofId acl.id), ("fact_id", .ofId acl.factId), ("subject_id", .ofId acl.subjectId),
    ("origin_id", .ofId? acl.originId), ("timestamp", .int acl.timestamp) ]

def commentMembers (comment : StoredComment) : Members :=
  [ ("id", .ofId comment.id), ("fact_id", .ofId comment.factId), ("comment", comment.text),
    ("reply_to_id", .ofId? comment.replyToId), ("origin_id", .ofId? comment.originId),
    ("timestamp", .int comment.timestamp) ]

def toMembers (dump : Dump) : Members :=
  [ ("objects", .list (dump.objects.map fun object => .object (objectMembers object))),
    ("facts", .list (dump.facts.map fun fact => .object (factMembers fact))),
    ("acl", .list (dump.acl.map fun acl => .object (aclEntryMembers acl))),
    ("comments", .list (dump.comments.map fun comment => .object (commentMembers comment))),
    ("retracted", .list (dump.retracted.map .ofId)) ]

section Writer

theorem writesList_of_members {α : Type} {Writes : Members → α → Prop} {write : α → Members}
    {key : String} {members : Members} {things : List α}
    (listed : Json.get? members key = some (.list (things.map fun thing => .object (write thing))))
    (each : ∀ thing ∈ things, Writes (write thing) thing) :
    WritesList Writes key members things := by
  refine ⟨things.map write, ?_, ?_⟩
  · rw [List.map_map]
    exact .inl listed
  · rw [List.forall₂_map_left_iff, List.forall₂_same]
    exact each

theorem objectMembers_writes (object : Object) :
    WritesObject (objectMembers object) object where
  id := rfl
  typeId := .inl rfl
  value := .inl rfl

theorem bindingMembers_writes (binding : Binding) :
    WritesBinding (bindingMembers binding) binding where
  objectId := rfl
  direction := rfl

theorem factMembers_writes {fact : StoredFact} (numbered : fact.Numbered) :
    WritesFact (factMembers fact) fact where
  id := rfl
  typeId := .inl rfl
  value := .inl rfl
  inReferenceToId := .inl rfl
  organizationId := .inl rfl
  originId := .inl rfl
  addedById := .inl rfl
  accessMode := .inl rfl
  confidence := by
    obtain ⟨x, known⟩ := Option.isSome_iff_exists.mp numbered.1
    refine ⟨x, known, .inl ?_⟩
    simp [factMembers, Json.get?, known]
  trust := by
    obtain ⟨x, known⟩ := Option.isSome_iff_exists.mp numbered.2
    refine ⟨x, known, .inl ?_⟩
    simp [factMembers, Json.get?, known]
  timestamp := .inl rfl
  lastSeenTimestamp := .inl rfl
  bindings := writesList_of_members rfl fun binding _ => bindingMembers_writes binding

theorem aclEntryMembers_writes (acl : StoredAclEntry) :
    WritesAclEntry (aclEntryMembers acl) acl where
  id := rfl
  factId := rfl
  subjectId := rfl
  originId := .inl rfl
  timestamp := .inl rfl

theorem commentMembers_writes (comment : StoredComment) :
    WritesComment (commentMembers comment) comment where
  id := rfl
  factId := rfl
  text := rfl
  replyToId := .inl rfl
  originId := .inl rfl
  timestamp := .inl rfl

theorem toMembers_writes {dump : Dump} (numbered : ∀ fact ∈ dump.facts, fact.Numbered) :
    Writes dump.toMembers dump where
  objects := writesList_of_members rfl fun object _ => objectMembers_writes object
  hasFacts := ⟨_, rfl⟩
  facts := writesList_of_members rfl fun fact member => factMembers_writes (numbered fact member)
  acl := writesList_of_members rfl fun acl _ => aclEntryMembers_writes acl
  comments := writesList_of_members rfl fun comment _ => commentMembers_writes comment
  retracted := .inl rfl

end Writer

section Reader

theorem readSection_of_written {α : Type} {Writes : Members → α → Prop}
    {read : Members → Except LoadFault α} {key : String} {members : Members} {things : List α}
    (written : WritesList Writes key members things)
    (reads : ∀ entry thing, Writes entry thing → read entry = .ok thing) :
    readSection key read members = .ok things := by
  obtain ⟨entries, listed, each⟩ := written
  unfold readSection
  rw [bind_ok_iff]
  have shaped : entriesAt key .dump members = .ok entries :=
    entriesAt_ok_iff.mpr (getD_of_written listed)
  exact ⟨entries, shaped, mapM_of_written each reads⟩

theorem ofMembers_of_written {members : Members} {dump : Dump} (written : Writes members dump) :
    ofMembers members = .ok dump := by
  obtain ⟨factValue, present⟩ := written.hasFacts
  have ids : (dump.retracted.map Json.ofId).mapM (readId .retracted) = .ok dump.retracted := by
    rw [mapM_ok_iff, List.forall₂_map_left_iff, List.forall₂_same]
    exact fun id _ => readId_ofId .retracted id
  rw [ofMembers_eq]
  simp only [bind_ok_iff, listAt, asList_ok_iff, required_ok_iff]
  exact ⟨_, readSection_of_written written.objects fun _ _ => readObject_of_written,
    _, present,
    _, readSection_of_written written.facts fun _ _ => readFact_of_written,
    _, readSection_of_written written.acl fun _ _ => readAclEntry_of_written,
    _, readSection_of_written written.comments fun _ _ => readComment_of_written,
    _, getD_of_written written.retracted, _, ids, rfl⟩

end Reader

end Dump

namespace Stores

structure Holds (stores : Stores) (dump : Dump) : Prop where
  factIds : stores.listFacts.map (·.id) = (dump.facts.map (·.id)).eraseDups
  facts : ∀ fact ∈ stores.listFacts, (dump.facts.filter (·.id = fact.id)).getLast? = some fact
  objects : ∀ id, stores.getObject id = (dump.objects.filter (·.id = id)).getLast?
  acl : ∀ factId, stores.fetchAcl factId = dump.acl.filter (·.factId = factId)
  comments : ∀ factId, stores.fetchComments factId = dump.comments.filter (·.factId = factId)
  indexed : ∀ factId,
    (∃ document, stores.getDocument factId = some document) ↔ factId ∈ dump.retracted
  retracted : ∀ factId document,
    stores.getDocument factId = some document → document.isRetracted = true

end Stores

namespace Dump

theorem getDocument_toStores (dump : Dump) (factId : Uuid) :
    dump.toStores.getDocument factId =
      if factId ∈ dump.retracted then some (retractedDocument factId) else none := by
  have marks : (dump.retracted.map retractedDocument).filter (Keyed.key · = factId) =
      (dump.retracted.filter (· = factId)).map retractedDocument := List.filter_map
  rw [toStores_eq]
  unfold Stores.getDocument
  rw [Table.get?_ofList, marks, List.getLast?_map, List.filter_eq, List.getLast?_replicate]
  by_cases listed : factId ∈ dump.retracted
  · rw [if_pos listed, if_neg (List.count_pos_iff.mpr listed).ne']
    rfl
  · rw [if_neg listed, if_pos (List.count_eq_zero.mpr listed)]
    rfl

theorem toStores_holds (dump : Dump) : dump.toStores.Holds dump where
  factIds := by
    rw [toStores_eq]
    exact Table.keys_ofList dump.facts
  facts fact member := by
    have found := Table.get?_eq_of_mem member
    rw [toStores_eq, Table.get?_ofList] at found
    exact found
  objects id := by
    rw [toStores_eq]
    exact Table.get?_ofList dump.objects id
  acl factId := by
    rw [toStores_eq]
    rfl
  comments factId := by
    rw [toStores_eq]
    rfl
  indexed factId := by
    rw [getDocument_toStores]
    split <;> simp [*]
  retracted factId document found := by
    rw [getDocument_toStores] at found
    split at found
    · cases found
      rfl
    · cases found

/-- Whatever is written to a dump is read back from it, however much of what is missing is left
    out. -/
theorem written_dump_read_back (dump : Dump)
    (numbered : ∀ fact ∈ dump.facts, fact.Numbered) :
    Writes dump.toMembers dump ∧
      ∀ members, Writes members dump →
        ∃ stores, (ofJson (.object members)).map toStores = .ok stores ∧ stores.Holds dump := by
  refine ⟨toMembers_writes numbered, ?_⟩
  intro members written
  have read : ofJson (.object members) = .ok dump := ofMembers_of_written written
  refine ⟨dump.toStores, ?_, toStores_holds dump⟩
  rw [read]
  rfl

def revisedFact : Dump where
  objects := [⟨⟨7⟩, none, .text "a"⟩]
  facts := [{ id := ⟨1⟩ }, { id := ⟨2⟩ }, { id := ⟨1⟩, bindings := [⟨⟨7⟩, .factIsSource⟩] }]
  retracted := [⟨1⟩, ⟨1⟩]

def revisedFactMembers : Members :=
  [ ("objects", .list [.object [("id", .ofId ⟨7⟩), ("type_id", .null), ("value", .text "a")]]),
    ("facts", .list
      [ .object [("id", .ofId ⟨1⟩)],
        .object [("id", .ofId ⟨2⟩), ("value", .null)],
        .object [("id", .ofId ⟨1⟩), ("bindings", .list [.object
          [("object_id", .ofId ⟨7⟩), ("direction", .text "FactIsSource")]])] ]),
    ("retracted", .list [.ofId ⟨1⟩, .ofId ⟨1⟩]) ]

theorem written_dump_read_back_revised :
    (∀ fact ∈ revisedFact.facts, fact.Numbered) ∧
      Writes revisedFactMembers revisedFact ∧
      ∃ stores, (ofJson (.object revisedFactMembers)).map toStores = .ok stores ∧
        stores.Holds revisedFact := by
  have numbered : ∀ fact ∈ revisedFact.facts, fact.Numbered := by
    unfold StoredFact.Numbered
    decide
  have left {entry : Members} {key : String} {default : Json}
      (absent : Json.get? entry key = none) : WritesOrOmits default key entry default :=
    .inr ⟨absent, rfl⟩
  have bindings : WritesList WritesBinding "bindings"
      [("id", .ofId ⟨1⟩), ("bindings", .list [.object
        [("object_id", .ofId ⟨7⟩), ("direction", .text "FactIsSource")]])]
      [⟨⟨7⟩, .factIsSource⟩] := ⟨_, .inl rfl, .cons ⟨rfl, rfl⟩ .nil⟩
  have written : Writes revisedFactMembers revisedFact :=
    { objects := ⟨_, .inl rfl, .cons ⟨rfl, .inl rfl, .inl rfl⟩ .nil⟩
      hasFacts := ⟨_, rfl⟩
      facts := ⟨_, .inl rfl,
        .cons ⟨rfl, left rfl, left rfl, left rfl, left rfl, left rfl, left rfl, left rfl,
          ⟨_, rfl, left rfl⟩, ⟨_, rfl, left rfl⟩, left rfl, left rfl, ⟨[], left rfl, .nil⟩⟩ <|
        .cons ⟨rfl, left rfl, .inl rfl, left rfl, left rfl, left rfl, left rfl, left rfl,
          ⟨_, rfl, left rfl⟩, ⟨_, rfl, left rfl⟩, left rfl, left rfl, ⟨[], left rfl, .nil⟩⟩ <|
        .cons ⟨rfl, left rfl, left rfl, left rfl, left rfl, left rfl, left rfl, left rfl,
          ⟨_, rfl, left rfl⟩, ⟨_, rfl, left rfl⟩, left rfl, left rfl, bindings⟩ .nil⟩
      acl := ⟨[], left rfl, .nil⟩
      comments := ⟨[], left rfl, .nil⟩
      retracted := .inl rfl }
  exact ⟨numbered, written, (written_dump_read_back revisedFact numbered).2 _ written⟩

end Dump

end FactGraph
