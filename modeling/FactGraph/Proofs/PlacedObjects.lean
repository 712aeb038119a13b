import FactGraph.Proofs.RoundTrip

namespace FactGraph

structure Direction.Undecided (first second : Direction) : Prop where
  firstOpen : first ≠ .factIsDestination
  secondOpen : second ≠ .factIsDestination
  bothWays : first = .biDirectional ∨ second = .biDirectional

/-- What bindings say of the ends of a Fact, one form after the other. A direction names the role of
    the Fact, so that an Object which has the Fact for a destination is its source. -/
inductive Describes : List Binding → Endpoints Uuid → Prop where
  | nothing : Describes [] .empty
  | source (x : Uuid) : Describes [⟨x, .factIsDestination⟩] (.sourceOnly x)
  | destination (x : Uuid) : Describes [⟨x, .factIsSource⟩] (.destinationOnly x)
  | itself (x : Uuid) : Describes [⟨x, .biDirectional⟩] (.reflexive x x)
  | sourceFirst (x y : Uuid) {direction : Direction} (other : direction ≠ .factIsDestination) :
    Describes [⟨x, .factIsDestination⟩, ⟨y, direction⟩] (.asymmetric x y)
  | sourceLast (x y : Uuid) {direction : Direction} (other : direction ≠ .factIsDestination) :
    Describes [⟨x, direction⟩, ⟨y, .factIsDestination⟩] (.asymmetric y x)
  | oneObject (x : Uuid) {first second : Direction} (undecided : first.Undecided second) :
    Describes [⟨x, first⟩, ⟨x, second⟩] (.reflexive x x)
  | twoObjects {x y : Uuid} {first second : Direction} (undecided : first.Undecided second)
    (different : x ≠ y) : Describes [⟨x, first⟩, ⟨y, second⟩] (.bidirectional x y)

section Described

open Endpoints

theorem describes_ofMutual (x y : Uuid) {first second : Direction}
    (undecided : first.Undecided second) :
    Describes [⟨x, first⟩, ⟨y, second⟩] (ofMutual x y) := by
  unfold ofMutual
  split
  · rename_i one
    subst y
    exact .oneObject x undecided
  · rename_i different
    exact .twoObjects undecided different

theorem describes_ofBindings (factId : Option Uuid) {bindings : List Binding}
    (sound : ¬ CorruptBindings bindings) : Describes bindings (ofBindings factId bindings) := by
  match bindings with
  | [] => exact .nothing
  | [⟨x, direction⟩] =>
    cases direction with
    | factIsSource => exact .destination x
    | factIsDestination => exact .source x
    | biDirectional => exact .itself x
  | [⟨x, first⟩, ⟨y, second⟩] =>
    cases first <;> cases second
    case factIsSource.factIsSource | factIsDestination.factIsDestination =>
      simp [CorruptBindings] at sound
    case factIsDestination.factIsSource | factIsDestination.biDirectional =>
      exact .sourceFirst x y (by decide)
    case factIsSource.factIsDestination | biDirectional.factIsDestination =>
      exact .sourceLast x y (by decide)
    case factIsSource.biDirectional | biDirectional.factIsSource | biDirectional.biDirectional =>
      exact describes_ofMutual x y ⟨by decide, by decide, by decide⟩
  | _ :: _ :: _ :: _ => exact absurd trivial sound

namespace Describes

variable {bindings : List Binding} {shape : Endpoints Uuid}

theorem source_of_marked (described : Describes bindings shape) :
    ∀ binding ∈ bindings, binding.direction = .factIsDestination →
      shape.source? = some binding.objectId := by
  cases described with
  | nothing | source | destination | itself => simp [source?]
  | sourceFirst x y other | sourceLast x y other => simp [source?, other]
  | oneObject x undecided | twoObjects undecided =>
    simp [undecided.firstOpen, undecided.secondOpen]

theorem destination_of_marked (described : Describes bindings shape)
    (unmixed : ∀ other ∈ bindings, other.direction ≠ .biDirectional) :
    ∀ binding ∈ bindings, binding.direction = .factIsSource →
      shape.destination? = some binding.objectId := by
  cases described with
  | nothing | source | destination | itself => simp [destination?]
  | sourceFirst | sourceLast => simp [destination?]
  | oneObject x undecided | twoObjects undecided =>
    rcases undecided.bothWays with marked | marked <;> simp [marked] at unmixed

theorem isBidirectional_iff (described : Describes bindings shape) :
    shape.isBidirectional = true ↔
      (∃ binding ∈ bindings, binding.direction = .biDirectional) ∧
        ∀ binding ∈ bindings, binding.direction ≠ .factIsDestination := by
  cases described with
  | nothing | source | destination | itself => simp [isBidirectional]
  | sourceFirst | sourceLast => simp [isBidirectional]
  | oneObject x undecided | twoObjects undecided =>
    simp [isBidirectional, undecided.firstOpen, undecided.secondOpen, undecided.bothWays]

theorem source_of_isBidirectional (described : Describes bindings shape)
    (bothWays : shape.isBidirectional = true) :
    shape.source? = bindings.head?.map (·.objectId) := by
  cases described with
  | itself | oneObject | twoObjects => rfl
  | _ => cases bothWays

theorem isBidirectional_of_mixed (described : Describes bindings shape)
    (oneWay : ∃ binding ∈ bindings, binding.direction = .factIsSource)
    (mixed : ∃ binding ∈ bindings, binding.direction = .biDirectional) :
    shape.isBidirectional = true := by
  cases described with
  | itself | oneObject | twoObjects => rfl
  | nothing | source | destination => simp at oneWay mixed
  | sourceFirst x y | sourceLast x y =>
    -- One binding names the source, and the other cannot go one way and both ways at once.
    simp only [List.mem_cons, List.not_mem_nil, or_false, exists_eq_or_imp, exists_eq_left,
      reduceCtorEq, false_or] at oneWay mixed
    simp [oneWay] at mixed

end Describes

section Found

variable {ε : Type} {lookup : Uuid → Except ε (Option Object)} {factId : Option Uuid}
variable {bindings : List Binding} {endpoints : Endpoints Object}

theorem Describes.map_id_eq {shape : Endpoints Uuid} (described : Describes bindings shape)
    (filled : FilledBy lookup shape endpoints) (faithful : Faithful lookup) :
    endpoints.map Object.id = shape := by
  cases filled with
  | empty | corrupt => rfl
  | sourceOnly source => rw [map, faithful _ _ source]
  | destinationOnly destination => rw [map, faithful _ _ destination]
  | reflexive both =>
    rw [map, faithful _ _ both]
    cases described <;> rfl
  | asymmetric source destination | bidirectional source destination =>
    rw [map, faithful _ _ source, faithful _ _ destination]

theorem mem_found_iff (filled : FilledBy lookup (ofBindings factId bindings) endpoints)
    (faithful : Faithful lookup) (sound : ¬ CorruptBindings bindings) (id : Uuid) :
    (∃ object, (endpoints.source? = some object ∨ endpoints.destination? = some object) ∧
        object.id = id) ↔
      ∃ binding ∈ bindings, binding.objectId = id := by
  have normal : endpoints.Normal := by
    apply filled.normal faithful
    rw [filled.isCorrupt_eq, ofBindings_isCorrupt]
    exact decide_eq_false sound
  have ends : endpoints.ends.map Object.id = lookupOrder bindings := by
    rw [← ends_map, (describes_ofBindings factId sound).map_id_eq filled faithful]
    exact ends_ofBindings factId sound
  rw [← mem_lookupOrder, ← ends, List.mem_map]
  simp only [normal.mem_ends_iff]

end Found

end Described

/-- The Objects of bindings that describe a Fact are all at its ends, as they were looked up and
    with nothing else: as the source if the Fact is their destination, as the destination if the
    Fact is their source, and in stored order where the directions leave that open. -/
theorem resolve_places_objects {ε : Type} {lookup : Uuid → Except ε (Option Object)}
    {factId : Option Uuid} {bindings : List Binding} {endpoints : Endpoints Object}
    (faithful : Faithful lookup) (done : (resolve lookup factId bindings).outcome = .ok endpoints)
    (sound : endpoints.kind ≠ .corrupt) :
    (∀ id,
        (∃ object, (endpoints.source? = some object ∨ endpoints.destination? = some object) ∧
          object.id = id) ↔
        ∃ binding ∈ bindings, binding.objectId = id) ∧
      (∀ object, endpoints.source? = some object ∨ endpoints.destination? = some object →
        lookup object.id = .ok (some object)) ∧
      (∀ binding ∈ bindings, binding.direction = .factIsDestination →
        endpoints.source?.map Object.id = some binding.objectId) ∧
      (∀ binding ∈ bindings, binding.direction = .factIsSource →
        ((∀ other ∈ bindings, other.direction ≠ .biDirectional) →
          endpoints.destination?.map Object.id = some binding.objectId) ∧
        ((∃ other ∈ bindings, other.direction = .biDirectional) →
          endpoints.isBidirectional = true ∧
            endpoints.source?.map Object.id = bindings.head?.map (·.objectId))) ∧
      (endpoints.isBidirectional = true ↔
        bindings ≠ [] ∧ (∃ binding ∈ bindings, binding.direction = .biDirectional) ∧
          ∀ binding ∈ bindings, binding.direction ≠ .factIsDestination) := by
  have filled := resolve_ok_iff.mp done
  have unmarked : ¬ CorruptBindings bindings := by
    intro corrupted
    rw [resolve_of_corrupt lookup factId corrupted] at done
    cases done
    exact sound rfl
  have described := describes_ofBindings factId unmarked
  have ids := described.map_id_eq filled faithful
  rw [← Endpoints.source?_map, ← Endpoints.destination?_map,
    ← Endpoints.isBidirectional_map Object.id, ids]
  refine ⟨mem_found_iff filled faithful unmarked, filled.supplied faithful,
    described.source_of_marked, ?_, ?_⟩
  · intro binding bound oneWay
    constructor
    · intro unmixed
      exact described.destination_of_marked unmixed binding bound oneWay
    · intro mixed
      have bothWays := described.isBidirectional_of_mixed ⟨binding, bound, oneWay⟩ mixed
      exact ⟨bothWays, described.source_of_isBidirectional bothWays⟩
  · rw [described.isBidirectional_iff]
    constructor
    · intro marked
      obtain ⟨binding, bound, -⟩ := marked.1
      exact ⟨List.ne_nil_of_mem bound, marked⟩
    · exact And.right

theorem resolve_places_objects_of_two_ways :
    let a : Object := { id := ⟨1⟩, value := .text "x.example.org" }
    let b : Object := { id := ⟨2⟩ }
    let lookup := lookupIn [a, b]
    let crossed : List Binding := [⟨⟨1⟩, .factIsSource⟩, ⟨⟨2⟩, .factIsDestination⟩]
    let mixed : List Binding := [⟨⟨1⟩, .factIsSource⟩, ⟨⟨2⟩, .biDirectional⟩]
    Faithful lookup ∧
      (∃ endpoints, (resolve lookup none crossed).outcome = .ok endpoints ∧
        endpoints.kind ≠ .corrupt ∧
        endpoints.source?.map Object.id = some ⟨2⟩ ∧
        endpoints.destination?.map Object.id = some ⟨1⟩ ∧
        ¬ endpoints.isBidirectional = true) ∧
      ∃ endpoints, (resolve lookup none mixed).outcome = .ok endpoints ∧
        endpoints.kind ≠ .corrupt ∧
        endpoints.isBidirectional = true ∧
        endpoints.source?.map Object.id = some ⟨1⟩ ∧
        ∃ object, (endpoints.source? = some object ∨ endpoints.destination? = some object) ∧
          object.id = ⟨2⟩ := by
  intro a b lookup crossed mixed
  have faithful : Faithful lookup := lookupIn_faithful [a, b]
  have doneCrossed : (resolve lookup none crossed).outcome = .ok (.asymmetric b a) := rfl
  have doneMixed : (resolve lookup none mixed).outcome = .ok (.bidirectional a b) := rfl
  obtain ⟨-, -, source, destination, bothWays⟩ := resolve_places_objects faithful doneCrossed nofun
  obtain ⟨ids, -, -, paired, -⟩ := resolve_places_objects faithful doneMixed nofun
  obtain ⟨twoWays, first⟩ := (paired ⟨⟨1⟩, .factIsSource⟩ (by decide) rfl).2 (by decide)
  refine ⟨faithful, ⟨_, doneCrossed, nofun, ?_, ?_, ?_⟩, _, doneMixed, nofun, twoWays, first, ?_⟩
  · exact source ⟨⟨2⟩, .factIsDestination⟩ (by decide) rfl
  · exact (destination ⟨⟨1⟩, .factIsSource⟩ (by decide) rfl).1 (by decide)
  · rw [bothWays]
    decide
  · exact (ids ⟨2⟩).mpr ⟨⟨⟨2⟩, .biDirectional⟩, by decide, rfl⟩

end FactGraph
