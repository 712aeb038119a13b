import FactGraph.Fact.Record

namespace FactGraph.Published

structure Origin where
  id : Uuid
  name : Option String := none
  deriving DecidableEq

structure Comment where
  id : Option Uuid
  replyTo : Option Uuid
  origin : Option Origin
  text : Json
  timestamp : Int
  deriving DecidableEq

structure Fact where
  id : Uuid
  typeId : Option Uuid
  value : Json
  inReferenceTo : Option Uuid
  organizationId : Option Uuid
  origin : Option Origin
  accessMode : Option String
  confidence : Option Binary64
  trust : Option Binary64
  timestamp : Int
  lastSeenTimestamp : Int
  source : Option Object
  destination : Option Object
  isBidirectional : Bool
  flags : List String
  deriving DecidableEq

variable {m : Type → Type} [Monad m]

def findOrigin (originOf : Uuid → m (Option Origin)) : Option Uuid → m (Option Origin)
  | none => pure none
  | some id => originOf id

def ofComment (originOf : Uuid → m (Option Origin)) (comment : FactGraph.Comment) : m Comment := do
  let origin ← findOrigin originOf comment.originId
  pure
    { id := comment.id
      replyTo := comment.replyToId
      origin
      text := comment.text
      timestamp := comment.timestamp }

def ofRecord (originOf : Uuid → m (Option Origin)) (record : FactRecord) : m Fact := do
  let origin ← findOrigin originOf record.originId
  pure
    { id := record.id
      typeId := record.typeId
      value := record.value
      inReferenceTo := record.inReferenceToId
      organizationId := record.organizationId
      origin
      accessMode := record.accessMode.map (·.wireName)
      confidence := record.confidence
      trust := record.trust
      timestamp := record.timestamp
      lastSeenTimestamp := record.lastSeenTimestamp
      source := record.source
      destination := record.destination
      isBidirectional := record.isBidirectional
      flags := record.flags.toList.map (·.wireName) }

end FactGraph.Published
