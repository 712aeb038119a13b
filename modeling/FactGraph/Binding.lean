import FactGraph.Uuid.Basic

namespace FactGraph

/-- The role of a Fact towards a bound Object. The Object of a Fact that is the destination is the
    Fact's source, and the other way round. -/
inductive Direction where
  | factIsSource
  | factIsDestination
  | biDirectional
  deriving Repr, DecidableEq

def Direction.wireName : Direction → String
  | .factIsSource => "FactIsSource"
  | .factIsDestination => "FactIsDestination"
  | .biDirectional => "BiDirectional"

theorem Direction.wireName_inj {first second : Direction} :
    first.wireName = second.wireName ↔ first = second := by
  cases first <;> cases second <;> decide

def Direction.ofWireName? (name : String) : Option Direction :=
  [factIsSource, factIsDestination, biDirectional].find? (·.wireName = name)

structure Binding where
  objectId : Uuid
  direction : Direction
  deriving DecidableEq

end FactGraph
