import FactGraph.Attachment
import FactGraph.Endpoints.Shape
import FactGraph.Fact.Basic
import FactGraph.SortedSet

namespace FactGraph

inductive Flag where
  | retractedHint
  deriving Repr, DecidableEq

def Flag.wireName : Flag → String
  | .retractedHint => "RetractedHint"

instance : Ranked Flag where
  rank | .retractedHint => 0
  rank_injective | .retractedHint, .retractedHint, _ => rfl

structure FactRecord extends FactHead where
  source : Option Object := none
  destination : Option Object := none
  isBidirectional : Bool := false
  flags : SortedSet Flag := .empty
  acl : List AclEntry := []
  comments : List Comment := []

namespace FactRecord

def addFlag (record : FactRecord) (flag : Flag) : FactRecord :=
  { record with flags := record.flags.insert flag }

def addAclEntry (record : FactRecord) (entry : AclEntry) : FactRecord :=
  { record with acl := record.acl ++ [entry] }

def addComment (record : FactRecord) (comment : Comment) : FactRecord :=
  { record with comments := record.comments ++ [comment] }

def isRetracted (record : FactRecord) : Bool := .retractedHint ∈ record.flags

def endpoints (record : FactRecord) : Endpoints Object :=
  .ofParts record.source record.destination record.isBidirectional

def toStored (record : FactRecord) : StoredFact :=
  { record.toFactHead with bindings := record.endpoints.bindings }

end FactRecord

end FactGraph
