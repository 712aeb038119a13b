import FactGraph.Binding

namespace FactGraph

inductive BindingProblem where
  | tooManyBindings
  | sameDirection
  deriving Repr, DecidableEq

structure Diagnostic where
  factId : Option Uuid
  problem : BindingProblem
  bindingCount : Int
  deriving DecidableEq

def BindingProblem.wireName : BindingProblem → String
  | .tooManyBindings => "too_many_bindings"
  | .sameDirection => "same_direction"

def BindingProblem.message : BindingProblem → String
  | .tooManyBindings => "Fact is bound to more than two Objects"
  | .sameDirection => "Fact is bound to two Objects with the same direction"

def Diagnostic.message (diagnostic : Diagnostic) : String :=
  diagnostic.problem.message ++ " (id = " ++ Uuid.optionText diagnostic.factId ++
    "). Ignoring Objects in result."

/-- The source and the destination of a Fact, given by Objects or by their ids. The two ends of
    reflexive endpoints are one Object, perhaps written in two ways. Corrupt ones show nothing but
    the reason. -/
inductive Endpoints (α : Type) where
  | empty
  | sourceOnly (source : α)
  | destinationOnly (destination : α)
  | reflexive (source destination : α)
  | asymmetric (source destination : α)
  | bidirectional (source destination : α)
  | corrupt (diagnostic : Diagnostic)
  deriving DecidableEq

inductive EndpointKind where
  | empty
  | sourceOnly
  | destinationOnly
  | reflexive
  | asymmetric
  | bidirectional
  | corrupt
  deriving Repr, DecidableEq

def EndpointKind.wireName : EndpointKind → String
  | .empty => "empty"
  | .sourceOnly => "source_only"
  | .destinationOnly => "destination_only"
  | .reflexive => "reflexive"
  | .asymmetric => "asymmetric"
  | .bidirectional => "bidirectional"
  | .corrupt => "corrupt"

namespace Endpoints

variable {α β : Type}

def kind : Endpoints α → EndpointKind
  | empty => .empty
  | sourceOnly _ => .sourceOnly
  | destinationOnly _ => .destinationOnly
  | reflexive _ _ => .reflexive
  | asymmetric _ _ => .asymmetric
  | bidirectional _ _ => .bidirectional
  | corrupt _ => .corrupt

def source? : Endpoints α → Option α
  | sourceOnly a | reflexive a _ | asymmetric a _ | bidirectional a _ => some a
  | empty | destinationOnly _ | corrupt _ => none

def destination? : Endpoints α → Option α
  | destinationOnly b | reflexive _ b | asymmetric _ b | bidirectional _ b => some b
  | empty | sourceOnly _ | corrupt _ => none

def diagnostic? : Endpoints α → Option Diagnostic
  | corrupt diagnostic => some diagnostic
  | _ => none

def isBidirectional : Endpoints α → Bool
  | reflexive _ _ | bidirectional _ _ => true
  | _ => false

def isCorrupt : Endpoints α → Bool
  | corrupt _ => true
  | _ => false

def directions : Endpoints α → List (α × Direction)
  | empty | corrupt _ => []
  | sourceOnly a => [(a, .factIsDestination)]
  | destinationOnly b => [(b, .factIsSource)]
  | reflexive a _ => [(a, .biDirectional)]
  | asymmetric a b => [(a, .factIsDestination), (b, .factIsSource)]
  | bidirectional a b => [(a, .biDirectional), (b, .biDirectional)]

/-- Replaces each end by the outcome of an action on it, the source before the destination. The ends
    of reflexive endpoints are one, so that the first is acted on for both. -/
def mapM {m : Type → Type} [Monad m] (act : α → m β) : Endpoints α → m (Endpoints β)
  | empty => pure empty
  | sourceOnly a => do
    let source ← act a
    pure (sourceOnly source)
  | destinationOnly b => do
    let destination ← act b
    pure (destinationOnly destination)
  | reflexive a _ => do
    let both ← act a
    pure (reflexive both both)
  | asymmetric a b => do
    let source ← act a
    let destination ← act b
    pure (asymmetric source destination)
  | bidirectional a b => do
    let source ← act a
    let destination ← act b
    pure (bidirectional source destination)
  | corrupt diagnostic => pure (corrupt diagnostic)

end Endpoints

end FactGraph
