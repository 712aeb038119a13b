import FactGraph.Proofs.RoundTrip

namespace FactGraph

/-- Bindings as endpoints are stored: with no direction twice but for two Objects in both
    directions, and the source before the destination. -/
structure Canonical (bindings : List Binding) : Prop where
  atMostTwo : bindings.length ≤ 2
  oneOfEach : ∀ direction, direction ≠ .biDirectional →
    bindings.countP (·.direction = direction) ≤ 1
  unmixed : ∀ first ∈ bindings, ∀ second ∈ bindings,
    first.direction = .biDirectional → second.direction = .biDirectional
  distinct : ((bindings.filter (·.direction = .biDirectional)).map (·.objectId)).Nodup
  sourceFirst : bindings.Pairwise fun first second =>
    ¬ (first.direction = .factIsSource ∧ second.direction = .factIsDestination)

theorem canonical_nil : Canonical [] where
  atMostTwo := by simp
  oneOfEach := by simp
  unmixed := by simp
  distinct := by simp
  sourceFirst := by simp

theorem canonical_singleton (binding : Binding) : Canonical [binding] where
  atMostTwo := by simp
  oneOfEach direction _ := List.countP_le_length
  unmixed := by simp
  distinct := by
    by_cases bothWays : binding.direction = .biDirectional <;> simp [bothWays]
  sourceFirst := by simp

theorem canonical_oneWay (source destination : Uuid) :
    Canonical [⟨source, .factIsDestination⟩, ⟨destination, .factIsSource⟩] where
  atMostTwo := by simp
  oneOfEach direction _ := by cases direction <;> simp
  unmixed := by simp
  distinct := by simp
  sourceFirst := by simp

theorem canonical_mutual {first second : Uuid} (different : first ≠ second) :
    Canonical [⟨first, .biDirectional⟩, ⟨second, .biDirectional⟩] where
  atMostTwo := by simp
  oneOfEach direction oneWay := by
    have other : Direction.biDirectional ≠ direction := oneWay.symm
    simp [other]
  unmixed := by simp
  distinct := by simp [different]
  sourceFirst := by simp

theorem Canonical.sound {bindings : List Binding} (canonical : Canonical bindings) :
    ¬ CorruptBindings bindings := by
  intro corrupted
  rcases corruptBindings_iff.mp corrupted with tooMany | ⟨two, direction, oneWay, same⟩
  · have bound := canonical.atMostTwo
    omega
  · have all : bindings.countP (·.direction = direction) = bindings.length := by
      apply List.countP_eq_length.mpr
      intro binding member
      exact decide_eq_true (same binding member)
    have different : direction ≠ .biDirectional := by
      rintro rfl
      simp at oneWay
    have bound := canonical.oneOfEach direction different
    omega

/-- The bindings in which a Fact with given bindings is stored again. What describes no Fact leaves
    none. -/
def canonicalForm : List Binding → List Binding
  | [] => []
  | [binding] => [binding]
  | [⟨x, first⟩, ⟨y, second⟩] =>
    match first, second with
    | .factIsDestination, .factIsDestination | .factIsSource, .factIsSource => []
    | .factIsDestination, _ => [⟨x, .factIsDestination⟩, ⟨y, .factIsSource⟩]
    | _, .factIsDestination => [⟨y, .factIsDestination⟩, ⟨x, .factIsSource⟩]
    | _, _ =>
      if x = y then [⟨x, .biDirectional⟩] else [⟨x, .biDirectional⟩, ⟨y, .biDirectional⟩]
  | _ :: _ :: _ :: _ => []

theorem canonicalForm_canonical (bindings : List Binding) : Canonical (canonicalForm bindings) := by
  have bothWays (x y : Uuid) : Canonical
      (if x = y then [⟨x, .biDirectional⟩] else [⟨x, .biDirectional⟩, ⟨y, .biDirectional⟩]) := by
    split
    · exact canonical_singleton _
    · rename_i different
      exact canonical_mutual different
  match bindings with
  | [] => exact canonical_nil
  | [binding] => exact canonical_singleton binding
  | [⟨x, first⟩, ⟨y, second⟩] =>
    cases first <;> cases second
    case factIsSource.factIsSource => exact canonical_nil
    case factIsDestination.factIsDestination => exact canonical_nil
    case factIsSource.factIsDestination => exact canonical_oneWay y x
    case biDirectional.factIsDestination => exact canonical_oneWay y x
    case factIsDestination.factIsSource => exact canonical_oneWay x y
    case factIsDestination.biDirectional => exact canonical_oneWay x y
    all_goals exact bothWays x y
  | _ :: _ :: _ :: _ => exact canonical_nil

inductive CanonicalList : List Binding → Prop where
  | empty : CanonicalList []
  | single (binding : Binding) : CanonicalList [binding]
  | oneWay (source destination : Uuid) :
    CanonicalList [⟨source, .factIsDestination⟩, ⟨destination, .factIsSource⟩]
  | bothWays {first second : Uuid} (different : first ≠ second) :
    CanonicalList [⟨first, .biDirectional⟩, ⟨second, .biDirectional⟩]

theorem canonical_iff_listed {bindings : List Binding} :
    Canonical bindings ↔ CanonicalList bindings := by
  constructor
  · intro canonical
    match bindings with
    | [] => exact .empty
    | [binding] => exact .single binding
    | [⟨x, first⟩, ⟨y, second⟩] =>
      have once := canonical.oneOfEach first
      have unmixed := canonical.unmixed
      have sourceFirst := canonical.sourceFirst
      cases first <;> cases second
      case factIsDestination.factIsSource => exact .oneWay x y
      case biDirectional.biDirectional =>
        have distinct : [x, y].Nodup := canonical.distinct
        exact .bothWays (by simpa using distinct)
      case factIsSource.factIsDestination => simp at sourceFirst
      case factIsSource.factIsSource => simp at once
      case factIsDestination.factIsDestination => simp at once
      all_goals simp at unmixed
    | _ :: _ :: _ :: _ =>
      have bound := canonical.atMostTwo
      simp at bound
  · intro listed
    cases listed with
    | empty => exact canonical_nil
    | single binding => exact canonical_singleton binding
    | oneWay source destination => exact canonical_oneWay source destination
    | bothWays different => exact canonical_mutual different

theorem canonicalForm_eq_self_iff {bindings : List Binding} :
    canonicalForm bindings = bindings ↔ CanonicalList bindings := by
  constructor
  · intro same
    have canonical := canonicalForm_canonical bindings
    rw [same] at canonical
    exact canonical_iff_listed.mp canonical
  · intro listed
    cases listed with
    | empty | single | oneWay => rfl
    | bothWays different => exact if_neg different

namespace Endpoints

theorem directions_ofBindings (factId : Option Uuid) (bindings : List Binding) :
    (ofBindings factId bindings).directions.map (fun (id, direction) => ⟨id, direction⟩) =
      canonicalForm bindings := by
  have bothWays (x y : Uuid) :
      (ofMutual x y).directions.map (fun (id, direction) => (⟨id, direction⟩ : Binding)) =
        if x = y then [⟨x, .biDirectional⟩] else [⟨x, .biDirectional⟩, ⟨y, .biDirectional⟩] := by
    unfold ofMutual
    split <;> rfl
  match bindings with
  | [] => rfl
  | [⟨x, direction⟩] => cases direction <;> rfl
  | [⟨x, first⟩, ⟨y, second⟩] =>
    cases first <;> cases second
    case biDirectional.biDirectional => exact bothWays x y
    case biDirectional.factIsSource => exact bothWays x y
    case factIsSource.biDirectional => exact bothWays x y
    all_goals rfl
  | _ :: _ :: _ :: _ => rfl

theorem FilledBy.directions_eq {ε : Type} {lookup : Uuid → Except ε (Option Object)}
    {shape : Endpoints Uuid} {endpoints : Endpoints Object}
    (filled : FilledBy lookup shape endpoints) (faithful : Faithful lookup) :
    endpoints.directions.map (fun (object, direction) => (object.id, direction)) =
      shape.directions := by
  cases filled with
  | empty => rfl
  | sourceOnly source => simp [directions, faithful _ _ source]
  | destinationOnly destination => simp [directions, faithful _ _ destination]
  | reflexive both => simp [directions, faithful _ _ both]
  | asymmetric source destination =>
    simp [directions, faithful _ _ source, faithful _ _ destination]
  | bidirectional source destination =>
    simp [directions, faithful _ _ source, faithful _ _ destination]
  | corrupt => rfl

theorem FilledBy.bindings_eq {ε : Type} {lookup : Uuid → Except ε (Option Object)}
    {factId : Option Uuid} {stored : List Binding} {endpoints : Endpoints Object}
    (filled : FilledBy lookup (ofBindings factId stored) endpoints) (faithful : Faithful lookup) :
    endpoints.bindings = canonicalForm stored := by
  rw [← directions_ofBindings factId, ← filled.directions_eq faithful, List.map_map]
  rfl

end Endpoints

theorem Endpoints.Normal.canonical {endpoints : Endpoints Object} (normal : endpoints.Normal) :
    Canonical endpoints.bindings := by
  cases endpoints with
  | empty => exact canonical_nil
  | sourceOnly a => exact canonical_singleton _
  | destinationOnly b => exact canonical_singleton _
  | reflexive a b => exact canonical_singleton _
  | asymmetric a b => exact canonical_oneWay a.id b.id
  | bidirectional a b => exact canonical_mutual normal
  | corrupt diagnostic => exact normal.elim

end FactGraph
