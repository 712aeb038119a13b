import FactGraph.Binding
import FactGraph.Json.Basic
import FactGraph.Object
import FactGraph.Table

namespace FactGraph

inductive AccessMode where
  | everyone
  | roleBased
  | explicit
  deriving Repr, DecidableEq

def AccessMode.wireName : AccessMode → String
  | .everyone => "Public"
  | .roleBased => "RoleBased"
  | .explicit => "Explicit"

def AccessMode.ofWireName? (name : String) : Option AccessMode :=
  [everyone, roleBased, explicit].find? (·.wireName = name)

/-- What a Fact says apart from the Objects it is bound to, in every form it takes. A null value is
    a missing one. -/
structure FactHead where
  id : Uuid
  typeId : Option Uuid := none
  value : Json := .null
  inReferenceToId : Option Uuid := none
  organizationId : Option Uuid := none
  originId : Option Uuid := none
  addedById : Option Uuid := none
  accessMode : Option AccessMode := none
  confidence : Option Binary64 := some .zero
  trust : Option Binary64 := some .zero
  timestamp : Int := 0
  lastSeenTimestamp : Int := 0
  deriving DecidableEq

/-- A Fact as stored. The order of the bindings is kept, since it can decide which Object is the
    source. -/
structure StoredFact extends FactHead where
  bindings : List Binding := []
  deriving DecidableEq

def StoredFact.addBinding (fact : StoredFact) (binding : Binding) : StoredFact :=
  { fact with bindings := fact.bindings ++ [binding] }

instance : Keyed Object := ⟨Object.id⟩

instance : Keyed StoredFact := ⟨fun fact => fact.id⟩

end FactGraph
