import FactGraph.Proofs.DumpContents
import FactGraph.Proofs.IdText

namespace FactGraph

theorem AccessMode.ofWireName?_wireName (mode : AccessMode) :
    ofWireName? mode.wireName = some mode := by
  cases mode <;> decide

namespace Json

def ofId (id : Uuid) : Json := .text id.text

def ofId? : Option Uuid → Json
  | none => .null
  | some id => ofId id

def ofAccessMode? : Option AccessMode → Json
  | none => .null
  | some mode => .text mode.wireName

end Json

namespace Dump

/-! A dump in its layout: entry by entry, key by key. The members of an entry may stand in any
order. -/

/-- Whether a value stands under a key; if it is the default, nothing need stand there. -/
def WritesOrOmits (default : Json) (key : String) (entry : Members) (value : Json) : Prop :=
  Json.get? entry key = some value ∨ Json.get? entry key = none ∧ value = default

structure WritesObject (entry : Members) (object : Object) : Prop where
  id : Json.get? entry "id" = some (.ofId object.id)
  typeId : WritesOrOmits .null "type_id" entry (.ofId? object.typeId)
  value : WritesOrOmits .null "value" entry object.value

structure WritesBinding (entry : Members) (binding : Binding) : Prop where
  objectId : Json.get? entry "object_id" = some (.ofId binding.objectId)
  direction : Json.get? entry "direction" = some (.text binding.direction.wireName)

def WritesList {α : Type} (Writes : Members → α → Prop) (key : String) (members : Members)
    (things : List α) : Prop :=
  ∃ entries, WritesOrOmits (.list []) key members (.list (entries.map .object)) ∧
    List.Forall₂ Writes entries things

structure WritesFact (entry : Members) (fact : StoredFact) : Prop where
  id : Json.get? entry "id" = some (.ofId fact.id)
  typeId : WritesOrOmits .null "type_id" entry (.ofId? fact.typeId)
  value : WritesOrOmits .null "value" entry fact.value
  inReferenceToId : WritesOrOmits .null "in_reference_to_id" entry (.ofId? fact.inReferenceToId)
  organizationId : WritesOrOmits .null "organization_id" entry (.ofId? fact.organizationId)
  originId : WritesOrOmits .null "origin_id" entry (.ofId? fact.originId)
  addedById : WritesOrOmits .null "added_by_id" entry (.ofId? fact.addedById)
  accessMode : WritesOrOmits .null "access_mode" entry (.ofAccessMode? fact.accessMode)
  confidence : ∃ x, fact.confidence = some x ∧
    WritesOrOmits (.float .zero) "confidence" entry (.float x)
  trust : ∃ x, fact.trust = some x ∧ WritesOrOmits (.float .zero) "trust" entry (.float x)
  timestamp : WritesOrOmits (.int 0) "timestamp" entry (.int fact.timestamp)
  lastSeenTimestamp :
    WritesOrOmits (.int 0) "last_seen_timestamp" entry (.int fact.lastSeenTimestamp)
  bindings : WritesList WritesBinding "bindings" entry fact.bindings

structure WritesAclEntry (entry : Members) (acl : StoredAclEntry) : Prop where
  id : Json.get? entry "id" = some (.ofId acl.id)
  factId : Json.get? entry "fact_id" = some (.ofId acl.factId)
  subjectId : Json.get? entry "subject_id" = some (.ofId acl.subjectId)
  originId : WritesOrOmits .null "origin_id" entry (.ofId? acl.originId)
  timestamp : WritesOrOmits (.int 0) "timestamp" entry (.int acl.timestamp)

structure WritesComment (entry : Members) (comment : StoredComment) : Prop where
  id : Json.get? entry "id" = some (.ofId comment.id)
  factId : Json.get? entry "fact_id" = some (.ofId comment.factId)
  text : Json.get? entry "comment" = some comment.text
  replyToId : WritesOrOmits .null "reply_to_id" entry (.ofId? comment.replyToId)
  originId : WritesOrOmits .null "origin_id" entry (.ofId? comment.originId)
  timestamp : WritesOrOmits (.int 0) "timestamp" entry (.int comment.timestamp)

structure Writes (members : Members) (dump : Dump) : Prop where
  objects : WritesList WritesObject "objects" members dump.objects
  hasFacts : ∃ value, Json.get? members "facts" = some value
  facts : WritesList WritesFact "facts" members dump.facts
  acl : WritesList WritesAclEntry "acl" members dump.acl
  comments : WritesList WritesComment "comments" members dump.comments
  retracted : WritesOrOmits (.list []) "retracted" members (.list (dump.retracted.map .ofId))

section Fields

variable {key : String} {entry : Members}

theorem getD_of_written {default value : Json} (written : WritesOrOmits default key entry value) :
    (Json.get? entry key).getD default = value := by
  rcases written with present | ⟨absent, rfl⟩
  · rw [present, Option.getD_some]
  · rw [absent, Option.getD_none]

theorem optional_of_written {value : Json} (written : WritesOrOmits .null key entry value) :
    optional key entry = value := getD_of_written written

theorem readId_ofId (place : Place) (id : Uuid) : readId place (.ofId id) = .ok id := by
  have shown : (Json.ofId id).display = id.text := rfl
  unfold readId
  rw [shown, Uuid.ofText?_text]

theorem requiredId_of_written {id : Uuid} (written : Json.get? entry key = some (.ofId id))
    (place : Place) : requiredId key place entry = .ok id := by
  unfold requiredId
  rw [bind_ok_iff]
  exact ⟨.ofId id, required_ok_iff.mpr written, readId_ofId place id⟩

theorem optionalId_of_written {id? : Option Uuid}
    (written : WritesOrOmits .null key entry (.ofId? id?)) (place : Place) :
    optionalId key place entry = .ok id? := by
  unfold optionalId
  rw [optional_of_written written]
  cases id? with
  | none => rfl
  | some id =>
    change (readId place (.ofId id)).map some = _
    rw [readId_ofId]
    rfl

theorem readAccessMode_ofAccessMode? (place : Place) (mode? : Option AccessMode) :
    readAccessMode place (.ofAccessMode? mode?) = .ok mode? := by
  cases mode? with
  | none => rfl
  | some mode => simp [Json.ofAccessMode?, readAccessMode, AccessMode.ofWireName?_wireName]

theorem integer_of_written {n : Int} (written : WritesOrOmits (.int 0) key entry (.int n))
    (place : Place) : integer key place entry = .ok n := by
  unfold integer
  rw [getD_of_written written]
  rfl

theorem float_of_written {x : Binary64}
    (written : WritesOrOmits (.float .zero) key entry (.float x)) (place : Place) :
    float key place entry = .ok x := by
  unfold float
  rw [getD_of_written written]
  rfl

end Fields

section Entries

variable {α : Type} {Writes : Members → α → Prop} {read : Members → Except LoadFault α}

theorem mapM_of_written {entries : List Members} {things : List α}
    (written : List.Forall₂ Writes entries things)
    (reads : ∀ entry thing, Writes entry thing → read entry = .ok thing) :
    entries.mapM read = .ok things :=
  mapM_ok_iff.mpr (written.imp reads)

theorem readObject_of_written {entry : Members} {object : Object}
    (written : WritesObject entry object) : readObject entry = .ok object := by
  unfold readObject
  rw [requiredId_of_written written.id]
  simp only [optionalId_of_written written.typeId, optional_of_written written.value]
  rfl

theorem readBinding_of_written {entry : Members} {binding : Binding}
    (written : WritesBinding entry binding) (place : Place) :
    readBinding place entry = .ok binding := by
  have direction : readDirection place (.text binding.direction.wireName) =
      .ok binding.direction := readDirection_ok_iff.mpr rfl
  have present : required "direction" place entry = .ok (.text binding.direction.wireName) :=
    required_ok_iff.mpr written.direction
  unfold readBinding
  rw [present]
  change (readDirection place _ >>= _) = _
  rw [direction]
  simp only [requiredId_of_written written.objectId]
  rfl

theorem readFact_of_written {entry : Members} {fact : StoredFact}
    (written : WritesFact entry fact) : readFact entry = .ok fact := by
  have accessMode (place : Place) :
      readAccessMode place (optional "access_mode" entry) = .ok fact.accessMode := by
    rw [optional_of_written written.accessMode]
    exact readAccessMode_ofAccessMode? place fact.accessMode
  obtain ⟨confidence, hasConfidence, confidenceWritten⟩ := written.confidence
  obtain ⟨trust, hasTrust, trustWritten⟩ := written.trust
  obtain ⟨entries, listed, each⟩ := written.bindings
  have shaped (place : Place) : entriesAt "bindings" place entry = .ok entries :=
    entriesAt_ok_iff.mpr (getD_of_written listed)
  have bindings : entries.mapM (readBinding (.binding fact.id)) = .ok fact.bindings :=
    mapM_of_written each fun _ _ known => readBinding_of_written known _
  unfold readFact
  rw [requiredId_of_written written.id]
  change (readAccessMode _ _ >>= _) = _
  rw [accessMode]
  simp only [optionalId_of_written written.typeId, optionalId_of_written written.inReferenceToId,
    optionalId_of_written written.organizationId, optionalId_of_written written.originId,
    optionalId_of_written written.addedById, float_of_written confidenceWritten,
    float_of_written trustWritten, integer_of_written written.timestamp,
    integer_of_written written.lastSeenTimestamp, shaped, optional_of_written written.value]
  change (entries.mapM (readBinding (.binding fact.id)) >>= _) = _
  rw [bindings, ← hasConfidence, ← hasTrust]
  rfl

theorem readAclEntry_of_written {entry : Members} {acl : StoredAclEntry}
    (written : WritesAclEntry entry acl) : readAclEntry entry = .ok acl := by
  unfold readAclEntry
  simp only [requiredId_of_written written.id, requiredId_of_written written.factId,
    requiredId_of_written written.subjectId, optionalId_of_written written.originId,
    integer_of_written written.timestamp]
  rfl

theorem readComment_of_written {entry : Members} {comment : StoredComment}
    (written : WritesComment entry comment) : readComment entry = .ok comment := by
  have text : required "comment" .comment entry = .ok comment.text :=
    required_ok_iff.mpr written.text
  unfold readComment
  simp only [requiredId_of_written written.id, requiredId_of_written written.factId, text,
    optionalId_of_written written.replyToId, optionalId_of_written written.originId,
    integer_of_written written.timestamp]
  rfl

end Entries

end Dump

end FactGraph
