import FactGraph.Stores.Basic

namespace FactGraph

structure Dump where
  objects : List Object := []
  facts : List StoredFact := []
  acl : List StoredAclEntry := []
  comments : List StoredComment := []
  retracted : List Uuid := []
  deriving DecidableEq

namespace Dump

def retractedDocument (id : Uuid) : FactDocument := { id, isRetracted := true }

def changes (dump : Dump) : List Change :=
  dump.objects.map .saveObject ++ dump.facts.map .saveFact ++ dump.acl.map .saveAclEntry ++
    dump.comments.map .saveComment ++
    dump.retracted.map fun id => .indexDocument (retractedDocument id)

def toStores (dump : Dump) : Stores := Stores.empty.run dump.changes

end Dump

end FactGraph
