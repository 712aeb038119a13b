import FactGraph.Dump.Basic
import FactGraph.Dump.Fault
import FactGraph.Uuid.Reader

namespace FactGraph.Dump

abbrev Members := List (Text × Json)

def refuse {α : Type} (fault : FormatFault) : Except LoadFault α := .error (.format fault)

def required (key : String) (place : Place) (members : Members) : Except LoadFault Json :=
  match Json.get? members key with
  | none => refuse (.missingKey key place)
  | some value => .ok value

def optional (key : String) (members : Members) : Json := (Json.get? members key).getD .null

/-- The id that a value spells. Numbers are read by their digits. -/
def readId (place : Place) (value : Json) : Except LoadFault Uuid :=
  match Uuid.ofText? value.display with
  | none => refuse (.invalidId place value)
  | some id => .ok id

def requiredId (key : String) (place : Place) (members : Members) : Except LoadFault Uuid := do
  readId place (← required key place members)

def optionalId (key : String) (place : Place) (members : Members) :
    Except LoadFault (Option Uuid) :=
  match optional key members with
  | .null => .ok none
  | value => (readId place value).map some

def numberAt {α : Type} (kind : NumberKind) (place : Place) (value : Json) :
    Except NumberFault α → Except LoadFault α
  | .ok number => .ok number
  | .error .malformed => refuse (.invalidNumber kind place value)
  | .error (.overflow cause) => .error (.overflow cause)

def integer (key : String) (place : Place) (members : Members) : Except LoadFault Int :=
  let value := (Json.get? members key).getD (.int 0)
  numberAt .integer place value value.toInteger

def float (key : String) (place : Place) (members : Members) : Except LoadFault Binary64 :=
  let value := (Json.get? members key).getD (.float .zero)
  numberAt .float place value value.toFloat

def asList (key : String) (place : Place) : Json → Except LoadFault (List Json)
  | .list items => .ok items
  | _ => refuse (.notList key place)

def asMembers? : Json → Option Members
  | .object members => some members
  | _ => none

def asEntries (key : String) (place : Place) (items : List Json) :
    Except LoadFault (List Members) :=
  match items.mapM asMembers? with
  | some entries => .ok entries
  | none => refuse (.entriesNotObjects key place)

def listAt (key : String) (place : Place) (members : Members) : Except LoadFault (List Json) :=
  asList key place ((Json.get? members key).getD (.list []))

def entriesAt (key : String) (place : Place) (members : Members) :
    Except LoadFault (List Members) := do
  asEntries key place (← listAt key place members)

def readObject (entry : Members) : Except LoadFault Object := do
  let id ← requiredId "id" .object entry
  let typeId ← optionalId "type_id" .object entry
  pure { id, typeId, value := optional "value" entry }

def readDirection (place : Place) (value : Json) : Except LoadFault Direction :=
  let known := match value with
    | .text name => name.string?.bind Direction.ofWireName?
    | _ => none
  match known with
  | none => refuse (.invalidDirection place value)
  | some direction => .ok direction

def readBinding (place : Place) (entry : Members) : Except LoadFault Binding := do
  let direction ← readDirection place (← required "direction" place entry)
  let objectId ← requiredId "object_id" place entry
  pure { objectId, direction }

def readAccessMode (place : Place) (value : Json) : Except LoadFault (Option AccessMode) :=
  match value with
  | .null => .ok none
  | value =>
    let known := match value with
      | .text name => name.string?.bind AccessMode.ofWireName?
      | _ => none
    match known with
    | none => refuse (.invalidAccessMode place value)
    | some mode => .ok (some mode)

def readFact (entry : Members) : Except LoadFault StoredFact := do
  let id ← requiredId "id" .unnamedFact entry
  let place := Place.fact id
  let accessMode ← readAccessMode place (optional "access_mode" entry)
  let typeId ← optionalId "type_id" place entry
  let inReferenceToId ← optionalId "in_reference_to_id" place entry
  let organizationId ← optionalId "organization_id" place entry
  let originId ← optionalId "origin_id" place entry
  let addedById ← optionalId "added_by_id" place entry
  let confidence ← float "confidence" place entry
  let trust ← float "trust" place entry
  let timestamp ← integer "timestamp" place entry
  let lastSeenTimestamp ← integer "last_seen_timestamp" place entry
  let bindings ← (← entriesAt "bindings" place entry).mapM (readBinding (.binding id))
  pure
    { id, typeId, inReferenceToId, organizationId, originId, addedById, accessMode, timestamp,
      lastSeenTimestamp, bindings
      value := optional "value" entry
      confidence := some confidence
      trust := some trust }

def readAclEntry (entry : Members) : Except LoadFault StoredAclEntry := do
  let id ← requiredId "id" .aclEntry entry
  let factId ← requiredId "fact_id" .aclEntry entry
  let subjectId ← requiredId "subject_id" .aclEntry entry
  let originId ← optionalId "origin_id" .aclEntry entry
  let timestamp ← integer "timestamp" .aclEntry entry
  pure { id, factId, subjectId, originId, timestamp }

def readComment (entry : Members) : Except LoadFault StoredComment := do
  let id ← requiredId "id" .comment entry
  let factId ← requiredId "fact_id" .comment entry
  let text ← required "comment" .comment entry
  let replyToId ← optionalId "reply_to_id" .comment entry
  let originId ← optionalId "origin_id" .comment entry
  let timestamp ← integer "timestamp" .comment entry
  pure { id, factId, text, replyToId, originId, timestamp }

/-- Reads the sections of a dump in order; within one, the shape of all entries comes before any of
    them. Only the section of Facts is required. -/
def ofMembers (members : Members) : Except LoadFault Dump := do
  let objects ← (← entriesAt "objects" .dump members).mapM readObject
  let facts ← asList "facts" .dump (← required "facts" .dump members)
  let facts ← (← asEntries "facts" .dump facts).mapM readFact
  let acl ← (← entriesAt "acl" .dump members).mapM readAclEntry
  let comments ← (← entriesAt "comments" .dump members).mapM readComment
  let retracted ← (← listAt "retracted" .dump members).mapM (readId .retracted)
  pure { objects, facts, acl, comments, retracted }

def ofJson : Json → Except LoadFault Dump
  | .object members => ofMembers members
  | _ => refuse .notObject

/-- A text in which every line ends with a line feed, whether it ended with one, with a carriage
    return or with both. -/
def unifyLines : List Char → List Char
  | [] => []
  | '\r' :: '\n' :: rest => '\n' :: unifyLines rest
  | c :: rest => (if c = '\r' then '\n' else c) :: unifyLines rest

def ofBytes (bytes : List UInt8) : Except LoadFault Dump := do
  let text ← (Text.decodeUtf8 bytes).mapError fun fault => LoadFault.format (.notUtf8 fault)
  let value ← (Json.read (unifyLines text)).mapError fun fault => LoadFault.format (.notJson fault)
  ofJson value

end FactGraph.Dump
