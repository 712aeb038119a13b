import FactGraph.Json.Basic
import FactGraph.Uuid.Basic

namespace FactGraph

structure AclEntry where
  id : Uuid
  subjectId : Uuid
  originId : Option Uuid := none
  timestamp : Int := 0
  deriving DecidableEq

structure StoredAclEntry extends AclEntry where
  factId : Uuid
  deriving DecidableEq

structure Comment where
  id : Option Uuid := none
  replyToId : Option Uuid := none
  originId : Option Uuid := none
  text : Json := .null
  timestamp : Int := 0
  deriving DecidableEq

structure StoredComment where
  id : Uuid
  factId : Uuid
  text : Json
  replyToId : Option Uuid := none
  originId : Option Uuid := none
  timestamp : Int := 0
  deriving DecidableEq

def StoredComment.toComment (stored : StoredComment) : Comment :=
  { id := some stored.id
    replyToId := stored.replyToId
    originId := stored.originId
    text := stored.text
    timestamp := stored.timestamp }

end FactGraph
