import FactGraph.Stores.Reading

namespace FactGraph

structure Failure where
  factId : Uuid
  cause : MissingObject
  deriving DecidableEq

def Failure.reason (failure : Failure) : String := failure.cause.message

inductive Notice where
  | corrupt (diagnostic : Diagnostic)
  | skipped (failure : Failure)
  deriving DecidableEq

structure Batch where
  total : Nat
  records : List FactRecord
  failures : List Failure
  corrupt : List Diagnostic
  notices : List Notice

namespace Batch

def empty : Batch := ⟨0, [], [], [], []⟩

def isClean (batch : Batch) : Bool := batch.failures.isEmpty && batch.corrupt.isEmpty

/-- A batch with one more Fact. A corrupt Fact still has a record; one that misses an Object is a
    failure. -/
def add (batch : Batch) (factId : Uuid) (reading : Reading) : Batch :=
  let seen := { batch with
    total := batch.total + 1
    corrupt := batch.corrupt ++ reading.diagnostics
    notices := batch.notices ++ reading.diagnostics.map Notice.corrupt }
  match reading.outcome with
  | .ok record => { seen with records := seen.records ++ [record] }
  | .error missing =>
    let failure : Failure := ⟨factId, missing⟩
    { seen with
      failures := seen.failures ++ [failure]
      notices := seen.notices ++ [Notice.skipped failure] }

end Batch

namespace Stores

def readAll (stores : Stores) (facts : List (Option StoredFact)) : Batch :=
  facts.foldl
    (fun batch entry =>
      match entry with
      | none => batch
      | some fact => batch.add fact.id (stores.read fact))
    .empty

end Stores

end FactGraph
