import FactGraph.Fact.Record

namespace FactGraph

instance : Ranked Uuid where
  rank id := id.bits.toNat
  rank_injective | ⟨_⟩, ⟨_⟩, same => congrArg Uuid.mk (BitVec.eq_of_toNat_eq same)

structure ObjectDocument extends Object where
  direction : Direction
  deriving DecidableEq

structure FactDocument extends FactHead where
  isRetracted : Bool := false
  acl : SortedSet Uuid := .empty
  objects : List ObjectDocument := []

instance : Keyed FactDocument := ⟨fun document => document.id⟩

def FactDocument.addObject (document : FactDocument) (object : ObjectDocument) : FactDocument :=
  { document with objects := document.objects ++ [object] }

def FactRecord.toDocument (record : FactRecord) : FactDocument :=
  { record.toFactHead with
    isRetracted := record.isRetracted
    acl := .ofList (record.acl.map (·.subjectId))
    objects := record.endpoints.directions.map fun (object, direction) =>
      { object with direction } }

end FactGraph
