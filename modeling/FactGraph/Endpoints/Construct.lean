import FactGraph.Endpoints.Basic
import FactGraph.Object

namespace FactGraph

inductive EndpointsFault where
  | wrongSides (kind : EndpointKind)
  | differentObjects
  | misplacedDiagnostic
  deriving Repr, DecidableEq

def EndpointKind.sides : EndpointKind → Bool × Bool
  | .empty | .corrupt => (false, false)
  | .sourceOnly => (true, false)
  | .destinationOnly => (false, true)
  | .reflexive | .asymmetric | .bidirectional => (true, true)

private def sideText (side : Bool) : String := if side then "True" else "False"

def EndpointsFault.message : EndpointsFault → String
  | .wrongSides kind =>
    kind.wireName ++ " endpoints require source=" ++ sideText kind.sides.1 ++ ", destination=" ++
      sideText kind.sides.2
  | .differentObjects => "reflexive endpoints must reference the same Object"
  | .misplacedDiagnostic => "only corrupt endpoints carry a diagnostic"

/-- Makes endpoints of a given kind from parts that may be missing. The sides are checked first,
    then the sameness of reflexive ones, then the diagnostic. -/
def Endpoints.construct (kind : EndpointKind) (source destination : Option Object)
    (diagnostic : Option Diagnostic) : Except EndpointsFault (Endpoints Object) :=
  match kind, source, destination, diagnostic with
  | .empty, none, none, none => .ok .empty
  | .corrupt, none, none, some diagnostic => .ok (.corrupt diagnostic)
  | .sourceOnly, some a, none, none => .ok (.sourceOnly a)
  | .destinationOnly, none, some b, none => .ok (.destinationOnly b)
  | .asymmetric, some a, some b, none => .ok (.asymmetric a b)
  | .bidirectional, some a, some b, none => .ok (.bidirectional a b)
  | .reflexive, some a, some b, diagnostic =>
    if a.isSame b then
      if diagnostic.isNone then .ok (.reflexive a b) else .error .misplacedDiagnostic
    else .error .differentObjects
  | kind, source, destination, _ =>
    if (source.isSome, destination.isSome) = kind.sides then .error .misplacedDiagnostic
    else .error (.wrongSides kind)

end FactGraph
