import FactGraph.Endpoints.Shape

namespace FactGraph

/-- An outcome, and the ids that were looked up on the way to it, in order. -/
structure Fetch (ε α : Type) where
  asked : List Uuid
  outcome : Except ε α

namespace Fetch

variable {ε α β : Type}

def andThen (fetch : Fetch ε α) (next : α → Fetch ε β) : Fetch ε β :=
  match fetch.outcome with
  | .error e => ⟨fetch.asked, .error e⟩
  | .ok a => ⟨fetch.asked ++ (next a).asked, (next a).outcome⟩

instance : Monad (Fetch ε) where
  pure a := ⟨[], .ok a⟩
  bind := andThen

end Fetch

structure MissingObject where
  objectId : Uuid
  factId : Option Uuid
  deriving DecidableEq

def MissingObject.message (missing : MissingObject) : String :=
  "Object " ++ missing.objectId.text ++ " bound to Fact " ++ Uuid.optionText missing.factId ++
    " could not be found"

inductive ResolveFault (ε : Type) where
  | missing (object : MissingObject)
  | lookup (cause : ε)

structure Resolution (ε : Type) where
  lookups : List Uuid
  diagnostics : List Diagnostic
  outcome : Except (ResolveFault ε) (Endpoints Object)

def fetchObject {ε : Type} (lookup : Uuid → Except ε (Option Object)) (factId : Option Uuid)
    (id : Uuid) : Fetch (ResolveFault ε) Object :=
  { asked := [id]
    outcome :=
      match lookup id with
      | .error cause => .error (.lookup cause)
      | .ok none => .error (.missing ⟨id, factId⟩)
      | .ok (some object) => .ok object }

/-- Resolves the stored bindings of a Fact into endpoints. Bindings that describe no Fact are
    reported and nothing is looked up for them. -/
def resolve {ε : Type} (lookup : Uuid → Except ε (Option Object)) (factId : Option Uuid)
    (bindings : List Binding) : Resolution ε :=
  let shape := Endpoints.ofBindings factId bindings
  let fetch := shape.mapM (fetchObject lookup factId)
  { lookups := fetch.asked
    diagnostics := shape.diagnostic?.toList
    outcome := fetch.outcome }

end FactGraph
