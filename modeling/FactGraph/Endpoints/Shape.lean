import FactGraph.Endpoints.Basic
import FactGraph.Object

namespace FactGraph.Endpoints

def ofMutual (first second : Uuid) : Endpoints Uuid :=
  if first = second then reflexive first first else bidirectional first second

/-- The endpoints that two stored bindings describe. A Fact may not have the same one-way direction
    twice. Where no direction decides it, the first binding names the source. -/
def ofPair (factId : Option Uuid) (first second : Binding) : Endpoints Uuid :=
  match first.direction, second.direction with
  | .factIsDestination, .factIsDestination | .factIsSource, .factIsSource =>
    corrupt ⟨factId, .sameDirection, 2⟩
  | .factIsDestination, _ => asymmetric first.objectId second.objectId
  | _, .factIsDestination => asymmetric second.objectId first.objectId
  | _, _ => ofMutual first.objectId second.objectId

def ofSingle (binding : Binding) : Endpoints Uuid :=
  match binding.direction with
  | .factIsDestination => sourceOnly binding.objectId
  | .factIsSource => destinationOnly binding.objectId
  | .biDirectional => reflexive binding.objectId binding.objectId

def ofBindings (factId : Option Uuid) : List Binding → Endpoints Uuid
  | [] => empty
  | [binding] => ofSingle binding
  | [first, second] => ofPair factId first second
  | bindings => corrupt ⟨factId, .tooManyBindings, bindings.length⟩

def bindings (endpoints : Endpoints Object) : List Binding :=
  endpoints.directions.map fun (object, direction) => ⟨object.id, direction⟩

/-- The endpoints that a source, a destination and a flag describe. A Fact in both directions with
    one Object, or with one id on both sides, is reflexive. -/
def ofParts (source destination : Option Object) (isBidirectional : Bool) : Endpoints Object :=
  match source, destination with
  | none, none => empty
  | some a, none => if isBidirectional then reflexive a a else sourceOnly a
  | none, some b => if isBidirectional then reflexive b b else destinationOnly b
  | some a, some b =>
    if isBidirectional then
      if a.id = b.id then reflexive a a else bidirectional a b
    else asymmetric a b

end FactGraph.Endpoints
