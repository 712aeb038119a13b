import FactGraph.Json.Agreement
import FactGraph.Uuid.Basic

namespace FactGraph

structure Object where
  id : Uuid
  typeId : Option Uuid := none
  value : Json := .null
  deriving DecidableEq

namespace Object

def isSame (a b : Object) : Bool :=
  a = b || (a.id = b.id && a.typeId = b.typeId && a.value.agrees b.value)

@[simp] theorem isSame_self (object : Object) : object.isSame object = true := by
  simp [isSame]

end Object

end FactGraph
