import FactGraph.Endpoints.Resolve
import FactGraph.Stores.Basic

namespace FactGraph

structure Reading where
  diagnostics : List Diagnostic
  outcome : Except MissingObject FactRecord

def ResolveFault.toMissing : ResolveFault Empty → MissingObject
  | .missing object => object

namespace Stores

/-- The flags that the search index has for a Fact. Only there it is kept whether one is retracted.
    -/
def flagsOf (stores : Stores) (factId : Uuid) : SortedSet Flag :=
  match stores.getDocument factId with
  | some document => if document.isRetracted then .ofList [.retractedHint] else .empty
  | none => .empty

def read (stores : Stores) (fact : StoredFact) : Reading :=
  let resolution : Resolution Empty :=
    resolve (fun id => .ok (stores.getObject id)) (some fact.id) fact.bindings
  { diagnostics := resolution.diagnostics
    outcome :=
      match resolution.outcome with
      | .error fault => .error fault.toMissing
      | .ok endpoints =>
        .ok
          { fact.toFactHead with
            source := endpoints.source?
            destination := endpoints.destination?
            isBidirectional := endpoints.isBidirectional
            flags := stores.flagsOf fact.id
            acl := (stores.fetchAcl fact.id).map (·.toAclEntry)
            comments := (stores.fetchComments fact.id).map (·.toComment) } }

end Stores

end FactGraph
