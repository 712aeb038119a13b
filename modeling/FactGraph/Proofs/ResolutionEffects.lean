import FactGraph.Proofs.CanonicalBindings
import FactGraph.Proofs.FirstFault

namespace FactGraph

section Reports

variable {ε : Type}

/-- Whether bindings were given up with one diagnostic: nothing was looked up, nothing failed, and
    what came of them shows nothing but the diagnostic. -/
structure Resolution.Reports (resolution : Resolution ε) (diagnostic : Diagnostic) : Prop where
  lookups : resolution.lookups = []
  diagnostics : resolution.diagnostics = [diagnostic]
  outcome : ∃ endpoints, resolution.outcome = .ok endpoints ∧ endpoints.kind = .corrupt ∧
    endpoints.diagnostic? = some diagnostic ∧ endpoints.source? = none ∧
    endpoints.destination? = none ∧ endpoints.isBidirectional = false

theorem resolve_reports (lookup : Uuid → Except ε (Option Object)) (factId : Option Uuid)
    {bindings : List Binding} (corrupted : CorruptBindings bindings) :
    (resolve lookup factId bindings).Reports (corruption factId bindings) := by
  rw [resolve_of_corrupt lookup factId corrupted]
  exact ⟨rfl, rfl, _, rfl, rfl, rfl, rfl, rfl, rfl⟩

theorem resolve_kind_corrupt_iff (lookup : Uuid → Except ε (Option Object))
    (factId : Option Uuid) (bindings : List Binding) :
    (∃ endpoints, (resolve lookup factId bindings).outcome = .ok endpoints ∧
      endpoints.kind = .corrupt) ↔ CorruptBindings bindings := by
  constructor
  · rintro ⟨endpoints, done, kind⟩
    have marked := resolve_isCorrupt done
    cases endpoints <;> simp only [Endpoints.kind, reduceCtorEq] at kind
    exact of_decide_eq_true marked.symm
  · intro corrupted
    obtain ⟨endpoints, done, kind, -⟩ := (resolve_reports lookup factId corrupted).outcome
    exact ⟨endpoints, done, kind⟩

/-- Bindings are corrupt if there are more than two, or two in the same one-way direction. That is
    reported once, whatever the lookup would do, and nothing else is ever reported. -/
theorem corruption_reported_once (lookup : Uuid → Except ε (Option Object))
    (factId : Option Uuid) (bindings : List Binding) :
    let resolution := resolve lookup factId bindings
    let tooMany := 2 < bindings.length
    let sameDirection := bindings.length = 2 ∧
      ∃ direction ∈ [Direction.factIsSource, .factIsDestination],
        ∀ binding ∈ bindings, binding.direction = direction
    ((∃ endpoints, resolution.outcome = .ok endpoints ∧ endpoints.kind = .corrupt) ↔
        tooMany ∨ sameDirection) ∧
      (tooMany → resolution.Reports ⟨factId, .tooManyBindings, bindings.length⟩) ∧
      (sameDirection → resolution.Reports ⟨factId, .sameDirection, bindings.length⟩) ∧
      (¬ (tooMany ∨ sameDirection) → resolution.diagnostics = []) := by
  intro resolution tooMany sameDirection
  have corrupt_iff : CorruptBindings bindings ↔ tooMany ∨ sameDirection := corruptBindings_iff
  refine ⟨?_, ?_, ?_, ?_⟩
  · rw [← corrupt_iff]
    exact resolve_kind_corrupt_iff lookup factId bindings
  · intro many
    have reports := resolve_reports lookup factId (corrupt_iff.mpr (.inl many))
    have diagnostic : corruption factId bindings =
        ⟨factId, .tooManyBindings, bindings.length⟩ := by
      rw [corruption, if_pos many]
    rwa [diagnostic] at reports
  · intro same
    have few : ¬ 2 < bindings.length := by
      have two := same.1
      omega
    have reports := resolve_reports lookup factId (corrupt_iff.mpr (.inr same))
    have diagnostic : corruption factId bindings =
        ⟨factId, .sameDirection, bindings.length⟩ := by
      rw [corruption, if_neg few]
    rwa [diagnostic] at reports
  · intro sound
    rw [← corrupt_iff] at sound
    exact resolve_diagnostics_of_sound lookup factId sound

theorem corruption_reported_once_without_store :
    let failing : Uuid → Except String (Option Object) := fun _ => .error "storage unavailable"
    let pair : List Binding := [⟨⟨1⟩, .factIsSource⟩, ⟨⟨2⟩, .factIsSource⟩]
    let mixed : List Binding := [⟨⟨1⟩, .factIsSource⟩, ⟨⟨2⟩, .biDirectional⟩]
    (resolve failing (some ⟨9⟩) pair).Reports ⟨some ⟨9⟩, .sameDirection, 2⟩ ∧
      (resolve failing none (pair ++ mixed)).Reports ⟨none, .tooManyBindings, 4⟩ ∧
      (resolve failing (some ⟨9⟩) mixed).diagnostics = [] := by
  intro failing pair mixed
  obtain ⟨-, -, same, -⟩ := corruption_reported_once failing (some ⟨9⟩) pair
  obtain ⟨-, many, -, -⟩ := corruption_reported_once failing none (pair ++ mixed)
  obtain ⟨-, -, -, silent⟩ := corruption_reported_once failing (some ⟨9⟩) mixed
  exact ⟨same ⟨rfl, by decide⟩, many (by decide), silent (by decide)⟩

end Reports

section Lookups

variable {ε : Type} (lookup : Uuid → Except ε (Option Object))

def askedInOrder : List Uuid → List Uuid
  | [] => []
  | id :: rest =>
    match lookup id with
    | .ok (some _) => id :: askedInOrder rest
    | _ => [id]

section Asked

variable {lookup}

theorem askedInOrder_cons_of_found {id : Uuid} {object : Object}
    (found : lookup id = .ok (some object)) (rest : List Uuid) :
    askedInOrder lookup (id :: rest) = id :: askedInOrder lookup rest := by
  rw [askedInOrder, found]

theorem askedInOrder_of_found {ids : List Uuid}
    (found : ∀ id ∈ ids, ∃ object, lookup id = .ok (some object)) :
    askedInOrder lookup ids = ids := by
  induction ids with
  | nil => rfl
  | cons id rest ih =>
    rw [List.forall_mem_cons] at found
    obtain ⟨⟨object, here⟩, later⟩ := found
    rw [askedInOrder_cons_of_found here, ih later]

theorem askedInOrder_of_not_found {before after : List Uuid} {id : Uuid}
    (found : ∀ earlier ∈ before, ∃ object, lookup earlier = .ok (some object))
    (here : ∀ object, lookup id ≠ .ok (some object)) :
    askedInOrder lookup (before ++ id :: after) = before ++ [id] := by
  induction before with
  | nil =>
    rw [List.nil_append, askedInOrder]
    split
    · rename_i object looked
      exact absurd looked (here object)
    · rfl
  | cons first before ih =>
    rw [List.forall_mem_cons] at found
    obtain ⟨⟨object, looked⟩, later⟩ := found
    rw [List.cons_append, askedInOrder_cons_of_found looked, ih later, List.cons_append]

end Asked

theorem asked_fetchObject_bind {α : Type} (factId : Option Uuid) (id : Uuid)
    (next : Object → Fetch (ResolveFault ε) α) :
    (fetchObject lookup factId id >>= next).asked =
      match lookup id with
      | .ok (some object) => id :: (next object).asked
      | _ => [id] := by
  change ((fetchObject lookup factId id).andThen next).asked = _
  unfold Fetch.andThen fetchObject
  cases lookup id with
  | error cause => rfl
  | ok found => cases found <;> rfl

theorem Endpoints.mapM_fetch_asked (factId : Option Uuid) (shape : Endpoints Uuid) :
    (shape.mapM (fetchObject lookup factId)).asked = askedInOrder lookup shape.ends := by
  cases shape with
  | empty | corrupt => rfl
  | sourceOnly | destinationOnly | reflexive =>
    simp only [mapM, asked_fetchObject_bind, ends_sourceOnly, ends_destinationOnly, ends_reflexive,
      askedInOrder]
    rfl
  | asymmetric | bidirectional =>
    simp only [mapM, asked_fetchObject_bind, ends_asymmetric, ends_bidirectional, askedInOrder]
    rfl

namespace Endpoints.FilledBy

variable {lookup} {shape : Endpoints Uuid} {endpoints : Endpoints Object}

theorem bound_eq (filled : FilledBy lookup shape endpoints) (faithful : Faithful lookup) :
    endpoints.bindings.map (·.objectId) = shape.ends := by
  rw [ends, ← filled.directions_eq faithful, bindings, List.map_map, List.map_map]
  rfl

theorem construct_eq (filled : FilledBy lookup shape endpoints) :
    construct endpoints.kind endpoints.source? endpoints.destination? endpoints.diagnostic? =
      .ok endpoints := by
  refine construct_ok_iff.mpr ⟨⟨rfl, rfl, rfl, rfl⟩, ?_⟩
  intro a b same
  cases filled with
  | reflexive both =>
    cases same
    exact Object.isSame_self _
  | _ => cases same

end Endpoints.FilledBy

variable {lookup} (factId : Option Uuid) {bindings : List Binding}

theorem resolve_lookups (sound : ¬ CorruptBindings bindings) :
    (resolve lookup factId bindings).lookups = askedInOrder lookup (lookupOrder bindings) := by
  rw [← Endpoints.ends_ofBindings factId sound]
  exact Endpoints.mapM_fetch_asked lookup factId _

theorem resolve_stops {before after : List Uuid} {id : Uuid} {fault : ResolveFault ε}
    (sound : ¬ CorruptBindings bindings) (split : lookupOrder bindings = before ++ id :: after)
    (found : ∀ earlier ∈ before, ∃ object, lookup earlier = .ok (some object))
    (failed : (fetchObject lookup factId id).outcome = .error fault) :
    (resolve lookup factId bindings).lookups = before ++ [id] ∧
      (resolve lookup factId bindings).outcome = .error fault := by
  constructor
  · rw [resolve_lookups factId sound, split]
    apply askedInOrder_of_not_found found
    intro object looked
    rw [fetchObject_ok_iff.mpr looked] at failed
    cases failed
  · rw [resolve_error_iff, Endpoints.ends_ofBindings factId sound]
    exact ⟨before, id, after, split, found, failed⟩

/-- The Objects of bindings that describe a Fact are looked up in order. The first that is not found
    decides the fault; if all are found, the same Objects are stored for what comes of them, in the
    same order, and nothing about them is refused. -/
theorem lookups_follow_order (sound : ¬ CorruptBindings bindings) (faithful : Faithful lookup) :
    let resolution := resolve lookup factId bindings
    let order := lookupOrder bindings
    (∀ before id after, order = before ++ id :: after →
        (∀ earlier ∈ before, ∃ object, lookup earlier = .ok (some object)) →
        (lookup id = .ok none →
          resolution.lookups = before ++ [id] ∧
            resolution.outcome = .error (.missing ⟨id, factId⟩)) ∧
        ∀ cause, lookup id = .error cause →
          resolution.lookups = before ++ [id] ∧ resolution.outcome = .error (.lookup cause)) ∧
      ((∃ endpoints, resolution.outcome = .ok endpoints) ↔
        ∀ id ∈ order, ∃ object, lookup id = .ok (some object)) ∧
      ∀ endpoints, resolution.outcome = .ok endpoints →
        resolution.lookups = order ∧
          endpoints.bindings.map (·.objectId) = order ∧
          Endpoints.construct endpoints.kind endpoints.source? endpoints.destination?
            endpoints.diagnostic? = .ok endpoints := by
  intro resolution order
  have ends : (Endpoints.ofBindings factId bindings).ends = order :=
    Endpoints.ends_ofBindings factId sound
  have returns : (∃ endpoints, resolution.outcome = .ok endpoints) ↔
      ∀ id ∈ order, ∃ object, lookup id = .ok (some object) := by
    simp only [resolution, resolve_ok_iff, Endpoints.exists_filledBy_iff, ends]
  refine ⟨?_, returns, ?_⟩
  · intro before id after split found
    constructor
    · intro missing
      apply resolve_stops factId sound split found
      simp only [fetchObject, missing]
    · intro cause failed
      apply resolve_stops factId sound split found
      simp only [fetchObject, failed]
  · intro endpoints done
    have filled := resolve_ok_iff.mp done
    have found := returns.mp ⟨endpoints, done⟩
    have asked : resolution.lookups = order := by
      rw [resolve_lookups factId sound]
      exact askedInOrder_of_found found
    have bound := filled.bound_eq faithful
    rw [ends] at bound
    exact ⟨asked, bound, filled.construct_eq⟩

theorem lookups_follow_order_to_first_fault :
    let object : Object := { id := ⟨1⟩, value := .text "x.example.org" }
    let lookup : Uuid → Except String (Option Object) := fun id =>
      if id = ⟨1⟩ then .ok (some object)
      else if id = ⟨2⟩ then .ok none
      else .error "storage unavailable"
    let absent : List Binding := [⟨⟨2⟩, .biDirectional⟩, ⟨⟨1⟩, .factIsDestination⟩]
    let failing : List Binding := [⟨⟨3⟩, .biDirectional⟩, ⟨⟨2⟩, .factIsSource⟩]
    let known : List Binding := [⟨⟨1⟩, .biDirectional⟩, ⟨⟨1⟩, .factIsSource⟩]
    (¬ CorruptBindings absent ∧ ¬ CorruptBindings failing ∧ ¬ CorruptBindings known) ∧
      Faithful lookup ∧
      (resolve lookup (some ⟨9⟩) absent).lookups = [⟨1⟩, ⟨2⟩] ∧
      (resolve lookup (some ⟨9⟩) absent).outcome = .error (.missing ⟨⟨2⟩, some ⟨9⟩⟩) ∧
      (resolve lookup (some ⟨9⟩) failing).lookups = [⟨3⟩] ∧
      (resolve lookup (some ⟨9⟩) failing).outcome = .error (.lookup "storage unavailable") ∧
      (resolve lookup (some ⟨9⟩) known).lookups = [⟨1⟩] ∧
      ∃ endpoints, (resolve lookup (some ⟨9⟩) known).outcome = .ok endpoints ∧
        endpoints.bindings.map (·.objectId) = [⟨1⟩] := by
  intro object lookup absent failing known
  have sound : ¬ CorruptBindings absent ∧ ¬ CorruptBindings failing ∧ ¬ CorruptBindings known := by
    decide
  have faithful : Faithful lookup := by
    intro id other looked
    change (if id = ⟨1⟩ then _ else if id = ⟨2⟩ then _ else _) = _ at looked
    split at looked
    · rename_i one
      cases looked
      exact one.symm
    · split at looked <;> cases looked
  have found : ∀ id ∈ [(⟨1⟩ : Uuid)], ∃ object, lookup id = .ok (some object) :=
    List.forall_mem_singleton.mpr ⟨object, rfl⟩
  obtain ⟨stops, -, -⟩ := lookups_follow_order (some ⟨9⟩) sound.1 faithful
  obtain ⟨breaks, -, -⟩ := lookups_follow_order (some ⟨9⟩) sound.2.1 faithful
  obtain ⟨-, returns, done⟩ := lookups_follow_order (some ⟨9⟩) sound.2.2 faithful
  obtain ⟨asked, missing⟩ := (stops [⟨1⟩] ⟨2⟩ [] rfl found).1 rfl
  obtain ⟨first, cause⟩ := (breaks [] ⟨3⟩ [⟨2⟩] rfl (by simp)).2 _ rfl
  obtain ⟨endpoints, outcome⟩ := returns.mpr found
  obtain ⟨once, bound, -⟩ := done endpoints outcome
  exact ⟨sound, faithful, asked, missing, first, cause, once, endpoints, outcome, bound⟩

end Lookups

end FactGraph
