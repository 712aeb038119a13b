import FactGraph.Endpoints.Resolve

namespace FactGraph

def Faithful {ε : Type} (lookup : Uuid → Except ε (Option Object)) : Prop :=
  ∀ id object, lookup id = .ok (some object) → object.id = id

def CorruptBindings : List Binding → Prop
  | [] | [_] => False
  | [first, second] => first.direction = second.direction ∧ first.direction ≠ .biDirectional
  | _ :: _ :: _ :: _ => True

instance : DecidablePred CorruptBindings
  | [] | [_] => .isFalse id
  | [first, second] =>
    inferInstanceAs (Decidable (first.direction = second.direction ∧
      first.direction ≠ .biDirectional))
  | _ :: _ :: _ :: _ => .isTrue trivial

theorem corruptBindings_iff {bindings : List Binding} :
    CorruptBindings bindings ↔
      2 < bindings.length ∨
        bindings.length = 2 ∧ ∃ direction ∈ [Direction.factIsSource, .factIsDestination],
          ∀ binding ∈ bindings, binding.direction = direction := by
  match bindings with
  | [] | [_] => simp [CorruptBindings]
  | [⟨x, first⟩, ⟨y, second⟩] => cases first <;> cases second <;> simp [CorruptBindings]
  | _ :: _ :: _ :: _ => simp [CorruptBindings]

def corruption (factId : Option Uuid) (bindings : List Binding) : Diagnostic :=
  { factId
    problem := if 2 < bindings.length then .tooManyBindings else .sameDirection
    bindingCount := bindings.length }

/-- The ids of the Objects that bindings name, the one that is marked as the source first and none
    twice where no direction tells two ends apart. -/
def lookupOrder : List Binding → List Uuid
  | [first, second] =>
    if first.direction = .factIsDestination then [first.objectId, second.objectId]
    else if second.direction = .factIsDestination then [second.objectId, first.objectId]
    else if first.objectId = second.objectId then [first.objectId]
    else [first.objectId, second.objectId]
  | bindings => bindings.map (·.objectId)

theorem mem_lookupOrder {bindings : List Binding} {id : Uuid} :
    id ∈ lookupOrder bindings ↔ ∃ binding ∈ bindings, binding.objectId = id := by
  match bindings with
  | [] => simp [lookupOrder]
  | [binding] => simp [lookupOrder, eq_comm]
  | [first, second] =>
    have either : (∃ binding ∈ [first, second], binding.objectId = id) ↔
        id = first.objectId ∨ id = second.objectId := by simp [eq_comm]
    rw [either, lookupOrder]
    split
    · simp
    · split
      · simp [or_comm]
      · split
        · rename_i same
          simp [same]
        · simp
  | _ :: _ :: _ :: _ => simp [lookupOrder, eq_comm]

namespace Fetch

variable {ε α β : Type}

theorem bind_ok_iff {fetch : Fetch ε α} {next : α → Fetch ε β} {b : β} :
    (fetch >>= next).outcome = .ok b ↔
      ∃ a, fetch.outcome = .ok a ∧ (next a).outcome = .ok b := by
  change (fetch.andThen next).outcome = .ok b ↔ _
  unfold andThen
  cases fetch.outcome with
  | error e => simp
  | ok a => simp

@[simp] theorem pure_outcome (a : α) : (pure a : Fetch ε α).outcome = .ok a := rfl

end Fetch

theorem fetchObject_ok_iff {ε : Type} {lookup : Uuid → Except ε (Option Object)}
    {factId : Option Uuid} {id : Uuid} {object : Object} :
    (fetchObject lookup factId id).outcome = .ok object ↔ lookup id = .ok (some object) := by
  unfold fetchObject
  cases lookup id with
  | error cause => simp
  | ok found => cases found <;> simp

namespace Endpoints

variable {ε : Type} {lookup : Uuid → Except ε (Option Object)}

/-- Endpoints by id and by Object that belong together under a lookup. -/
inductive FilledBy (lookup : Uuid → Except ε (Option Object)) :
    Endpoints Uuid → Endpoints Object → Prop where
  | empty : FilledBy lookup .empty .empty
  | sourceOnly {i : Uuid} {a : Object} (source : lookup i = .ok (some a)) :
    FilledBy lookup (.sourceOnly i) (.sourceOnly a)
  | destinationOnly {j : Uuid} {b : Object} (destination : lookup j = .ok (some b)) :
    FilledBy lookup (.destinationOnly j) (.destinationOnly b)
  | reflexive {i j : Uuid} {a : Object} (both : lookup i = .ok (some a)) :
    FilledBy lookup (.reflexive i j) (.reflexive a a)
  | asymmetric {i j : Uuid} {a b : Object} (source : lookup i = .ok (some a))
    (destination : lookup j = .ok (some b)) :
    FilledBy lookup (.asymmetric i j) (.asymmetric a b)
  | bidirectional {i j : Uuid} {a b : Object} (source : lookup i = .ok (some a))
    (destination : lookup j = .ok (some b)) :
    FilledBy lookup (.bidirectional i j) (.bidirectional a b)
  | corrupt {diagnostic : Diagnostic} : FilledBy lookup (.corrupt diagnostic) (.corrupt diagnostic)

theorem mapM_fetch_ok_iff {factId : Option Uuid} {shape : Endpoints Uuid}
    {endpoints : Endpoints Object} :
    (shape.mapM (fetchObject lookup factId)).outcome = .ok endpoints ↔
      FilledBy lookup shape endpoints := by
  constructor
  · intro found
    cases shape <;>
      simp only [mapM, Fetch.bind_ok_iff, Fetch.pure_outcome, fetchObject_ok_iff,
        Except.ok.injEq] at found
    case empty => subst found; exact .empty
    case sourceOnly =>
      obtain ⟨a, source, rfl⟩ := found
      exact .sourceOnly source
    case destinationOnly =>
      obtain ⟨b, destination, rfl⟩ := found
      exact .destinationOnly destination
    case reflexive =>
      obtain ⟨a, both, rfl⟩ := found
      exact .reflexive both
    case asymmetric =>
      obtain ⟨a, source, b, destination, rfl⟩ := found
      exact .asymmetric source destination
    case bidirectional =>
      obtain ⟨a, source, b, destination, rfl⟩ := found
      exact .bidirectional source destination
    case corrupt => subst found; exact .corrupt
  · intro filled
    cases filled <;>
      simp only [mapM, Fetch.bind_ok_iff, Fetch.pure_outcome, fetchObject_ok_iff]
    case sourceOnly source => exact ⟨_, source, rfl⟩
    case destinationOnly destination => exact ⟨_, destination, rfl⟩
    case reflexive both => exact ⟨_, both, rfl⟩
    case asymmetric source destination => exact ⟨_, source, _, destination, rfl⟩
    case bidirectional source destination => exact ⟨_, source, _, destination, rfl⟩

def ends {α : Type} (endpoints : Endpoints α) : List α := endpoints.directions.map Prod.fst

section Ends

variable {α : Type} (a b : α)

@[simp] theorem ends_empty : (empty : Endpoints α).ends = [] := rfl

@[simp] theorem ends_sourceOnly : (sourceOnly a).ends = [a] := rfl

@[simp] theorem ends_destinationOnly : (destinationOnly b).ends = [b] := rfl

@[simp] theorem ends_reflexive : (reflexive a b).ends = [a] := rfl

@[simp] theorem ends_asymmetric : (asymmetric a b).ends = [a, b] := rfl

@[simp] theorem ends_bidirectional : (bidirectional a b).ends = [a, b] := rfl

@[simp] theorem ends_corrupt (diagnostic : Diagnostic) :
    (corrupt diagnostic : Endpoints α).ends = [] := rfl

end Ends

theorem mapM_congr {α β : Type} {m : Type → Type} [Monad m] {endpoints : Endpoints α}
    {first second : α → m β} (same : ∀ a ∈ endpoints.ends, first a = second a) :
    endpoints.mapM first = endpoints.mapM second := by
  cases endpoints <;> simp_all [mapM]

section Map

variable {α β : Type} (f : α → β)

def map (f : α → β) : Endpoints α → Endpoints β
  | empty => empty
  | sourceOnly a => sourceOnly (f a)
  | destinationOnly b => destinationOnly (f b)
  | reflexive a b => reflexive (f a) (f b)
  | asymmetric a b => asymmetric (f a) (f b)
  | bidirectional a b => bidirectional (f a) (f b)
  | corrupt diagnostic => corrupt diagnostic

variable (endpoints : Endpoints α)

@[simp] theorem kind_map : (endpoints.map f).kind = endpoints.kind := by
  cases endpoints <;> rfl

@[simp] theorem source?_map : (endpoints.map f).source? = endpoints.source?.map f := by
  cases endpoints <;> rfl

@[simp] theorem destination?_map :
    (endpoints.map f).destination? = endpoints.destination?.map f := by
  cases endpoints <;> rfl

@[simp] theorem isBidirectional_map :
    (endpoints.map f).isBidirectional = endpoints.isBidirectional := by
  cases endpoints <;> rfl

@[simp] theorem diagnostic?_map : (endpoints.map f).diagnostic? = endpoints.diagnostic? := by
  cases endpoints <;> rfl

theorem directions_map :
    (endpoints.map f).directions =
      endpoints.directions.map fun (a, direction) => (f a, direction) := by
  cases endpoints <;> rfl

@[simp] theorem ends_map : (endpoints.map f).ends = endpoints.ends.map f := by
  cases endpoints <;> rfl

@[simp] theorem map_id : endpoints.map id = endpoints := by
  cases endpoints <;> rfl

end Map

def SuppliedBy (endpoints : Endpoints Object) (lookup : Uuid → Except ε (Option Object)) : Prop :=
  ∀ object, endpoints.source? = some object ∨ endpoints.destination? = some object →
    lookup object.id = .ok (some object)

namespace FilledBy

variable {shape : Endpoints Uuid} {endpoints : Endpoints Object}

theorem isCorrupt_eq (filled : FilledBy lookup shape endpoints) :
    endpoints.isCorrupt = shape.isCorrupt := by
  cases filled <;> rfl

theorem diagnostic_eq (filled : FilledBy lookup shape endpoints) :
    endpoints.diagnostic? = shape.diagnostic? := by
  cases filled <;> rfl

theorem found {object : Object} (filled : FilledBy lookup shape endpoints)
    (atEnd : endpoints.source? = some object ∨ endpoints.destination? = some object) :
    ∃ id, lookup id = .ok (some object) := by
  cases filled <;>
    simp only [source?, destination?, Option.some.injEq, reduceCtorEq, or_false, false_or,
      or_self] at atEnd
  case sourceOnly source => exact ⟨_, atEnd ▸ source⟩
  case destinationOnly destination => exact ⟨_, atEnd ▸ destination⟩
  case reflexive both => exact ⟨_, atEnd ▸ both⟩
  case asymmetric source destination =>
    rcases atEnd with rfl | rfl
    · exact ⟨_, source⟩
    · exact ⟨_, destination⟩
  case bidirectional source destination =>
    rcases atEnd with rfl | rfl
    · exact ⟨_, source⟩
    · exact ⟨_, destination⟩

theorem supplied (filled : FilledBy lookup shape endpoints) (faithful : Faithful lookup) :
    endpoints.SuppliedBy lookup := by
  intro object atEnd
  obtain ⟨id, looked⟩ := filled.found atEnd
  rw [faithful id object looked]
  exact looked

end FilledBy

section Shape

variable (factId : Option Uuid) {bindings : List Binding}

variable {factId} in
theorem ofBindings_bidirectional {i j : Uuid}
    (shape : ofBindings factId bindings = bidirectional i j) : i ≠ j := by
  match bindings with
  | [] => cases shape
  | [⟨x, direction⟩] => cases direction <;> cases shape
  | [⟨x, first⟩, ⟨y, second⟩] =>
    cases first <;> cases second <;> simp only [ofBindings, ofPair, ofMutual, reduceCtorEq] at shape
    all_goals
      split at shape
      · cases shape
      · cases shape; assumption
  | _ :: _ :: _ :: _ => cases shape

theorem ofMutual_isCorrupt {i j : Uuid} : (ofMutual i j).isCorrupt = false := by
  unfold ofMutual
  split <;> rfl

theorem ofBindings_isCorrupt :
    (ofBindings factId bindings).isCorrupt = decide (CorruptBindings bindings) := by
  match bindings with
  | [] => rfl
  | [⟨x, direction⟩] => cases direction <;> rfl
  | [⟨x, first⟩, ⟨y, second⟩] =>
    cases first <;> cases second
    case biDirectional.biDirectional => exact ofMutual_isCorrupt
    case biDirectional.factIsSource => exact ofMutual_isCorrupt
    case factIsSource.biDirectional => exact ofMutual_isCorrupt
    all_goals rfl
  | _ :: _ :: _ :: _ => rfl

theorem ofBindings_of_corrupt (corrupted : CorruptBindings bindings) :
    ofBindings factId bindings = corrupt (corruption factId bindings) := by
  match bindings with
  | [] | [_] => exact corrupted.elim
  | [⟨x, first⟩, ⟨y, second⟩] =>
    obtain ⟨same, oneWay⟩ : first = second ∧ first ≠ .biDirectional := corrupted
    subst same
    cases first with
    | biDirectional => exact absurd rfl oneWay
    | factIsSource | factIsDestination => rfl
  | _ :: _ :: _ :: _ => simp [ofBindings, corruption]

theorem ends_ofBindings (sound : ¬ CorruptBindings bindings) :
    (ofBindings factId bindings).ends = lookupOrder bindings := by
  have bothWays (x y : Uuid) : (ofMutual x y).ends = if x = y then [x] else [x, y] := by
    unfold ofMutual
    split <;> rfl
  match bindings with
  | [] => rfl
  | [⟨x, direction⟩] => cases direction <;> rfl
  | [⟨x, first⟩, ⟨y, second⟩] =>
    cases first <;> cases second
    case factIsSource.factIsSource => simp [CorruptBindings] at sound
    case factIsDestination.factIsDestination => simp [CorruptBindings] at sound
    case biDirectional.biDirectional => exact bothWays x y
    case biDirectional.factIsSource => exact bothWays x y
    case factIsSource.biDirectional => exact bothWays x y
    all_goals rfl
  | _ :: _ :: _ :: _ => exact absurd trivial sound

theorem bound_of_mem_ends {id : Uuid} (atEnd : id ∈ (ofBindings factId bindings).ends) :
    ∃ binding ∈ bindings, binding.objectId = id := by
  by_cases corrupted : CorruptBindings bindings
  · rw [ofBindings_of_corrupt factId corrupted] at atEnd
    cases atEnd
  · rwa [ends_ofBindings factId corrupted, mem_lookupOrder] at atEnd

theorem exists_filledBy_iff {shape : Endpoints Uuid} :
    (∃ endpoints, FilledBy lookup shape endpoints) ↔
      ∀ id ∈ shape.ends, ∃ object, lookup id = .ok (some object) := by
  constructor
  · rintro ⟨endpoints, filled⟩
    cases filled <;> simp_all
  · intro known
    cases shape <;>
      simp only [ends_empty, ends_sourceOnly, ends_destinationOnly, ends_reflexive,
        ends_asymmetric, ends_bidirectional, ends_corrupt, List.forall_mem_cons] at known
    case empty => exact ⟨_, .empty⟩
    case sourceOnly => exact ⟨_, .sourceOnly known.1.choose_spec⟩
    case destinationOnly => exact ⟨_, .destinationOnly known.1.choose_spec⟩
    case reflexive => exact ⟨_, .reflexive known.1.choose_spec⟩
    case asymmetric => exact ⟨_, .asymmetric known.1.choose_spec known.2.1.choose_spec⟩
    case bidirectional => exact ⟨_, .bidirectional known.1.choose_spec known.2.1.choose_spec⟩
    case corrupt => exact ⟨_, .corrupt⟩

end Shape

end Endpoints

section Resolve

open Endpoints

variable {ε : Type} (lookup : Uuid → Except ε (Option Object)) (factId : Option Uuid)
variable {bindings : List Binding} {endpoints : Endpoints Object}

section Done

variable {lookup factId}

theorem resolve_ok_iff :
    (resolve lookup factId bindings).outcome = .ok endpoints ↔
      FilledBy lookup (ofBindings factId bindings) endpoints :=
  mapM_fetch_ok_iff

theorem resolve_diagnostics (done : (resolve lookup factId bindings).outcome = .ok endpoints) :
    (resolve lookup factId bindings).diagnostics = endpoints.diagnostic?.toList := by
  rw [(resolve_ok_iff.mp done).diagnostic_eq]
  rfl

theorem resolve_isCorrupt (done : (resolve lookup factId bindings).outcome = .ok endpoints) :
    endpoints.isCorrupt = decide (CorruptBindings bindings) := by
  rw [(resolve_ok_iff.mp done).isCorrupt_eq, ofBindings_isCorrupt]

end Done

theorem resolve_of_corrupt (corrupted : CorruptBindings bindings) :
    resolve lookup factId bindings =
      ⟨[], [corruption factId bindings], .ok (.corrupt (corruption factId bindings))⟩ := by
  unfold resolve
  rw [ofBindings_of_corrupt factId corrupted]
  rfl

theorem resolve_diagnostics_of_sound (sound : ¬ CorruptBindings bindings) :
    (resolve lookup factId bindings).diagnostics = [] := by
  have unmarked : (ofBindings factId bindings).isCorrupt = false := by
    rw [ofBindings_isCorrupt]
    exact decide_eq_false sound
  change (ofBindings factId bindings).diagnostic?.toList = []
  cases shape : ofBindings factId bindings <;>
    simp only [shape, isCorrupt, Bool.true_eq_false] at unmarked
  all_goals rfl

theorem resolve_succeeds_iff :
    (∃ endpoints, (resolve lookup factId bindings).outcome = .ok endpoints) ↔
      CorruptBindings bindings ∨
        ∀ binding ∈ bindings, ∃ object, lookup binding.objectId = .ok (some object) := by
  by_cases corrupted : CorruptBindings bindings
  · simp [resolve_of_corrupt lookup factId corrupted, corrupted]
  · simp only [resolve_ok_iff, exists_filledBy_iff, ends_ofBindings factId corrupted,
      mem_lookupOrder, corrupted, false_or]
    constructor
    · intro known binding bound
      exact known _ ⟨binding, bound, rfl⟩
    · rintro known _ ⟨binding, bound, rfl⟩
      exact known binding bound

variable {lookup} in
theorem resolve_congr {other : Uuid → Except ε (Option Object)}
    (same : ∀ binding ∈ bindings, lookup binding.objectId = other binding.objectId) :
    resolve lookup factId bindings = resolve other factId bindings := by
  have fetched : ∀ id ∈ (ofBindings factId bindings).ends,
      fetchObject lookup factId id = fetchObject other factId id := by
    intro id atEnd
    obtain ⟨binding, bound, rfl⟩ := bound_of_mem_ends factId atEnd
    unfold fetchObject
    rw [same binding bound]
  simp only [resolve, mapM_congr fetched]

end Resolve

end FactGraph
