import FactGraph.Endpoints.Construct
import FactGraph.Proofs.Resolution

namespace FactGraph

namespace Endpoints

/-- Endpoints in the one form that their bindings can be read back to. -/
def Normal : Endpoints Object → Prop
  | reflexive a b => a = b
  | bidirectional a b => a.id ≠ b.id
  | corrupt _ => False
  | empty | sourceOnly _ | destinationOnly _ | asymmetric _ _ => True

theorem ofParts_normal (source destination : Option Object) (isBidirectional : Bool) :
    (ofParts source destination isBidirectional).Normal := by
  match source, destination, isBidirectional with
  | none, none, _ => trivial
  | some _, none, true | none, some _, true => rfl
  | some _, none, false | none, some _, false | some _, some _, false => trivial
  | some a, some b, true =>
    by_cases same : a.id = b.id
    · have shape : ofParts (some a) (some b) true = reflexive a a := if_pos same
      rw [shape]
      rfl
    · have shape : ofParts (some a) (some b) true = bidirectional a b := if_neg same
      rw [shape]
      exact same

theorem Normal.ofParts_eq {endpoints : Endpoints Object} (normal : endpoints.Normal) :
    ofParts endpoints.source? endpoints.destination? endpoints.isBidirectional = endpoints := by
  cases endpoints with
  | empty | sourceOnly | destinationOnly | asymmetric => rfl
  | reflexive a b =>
    obtain rfl : a = b := normal
    exact if_pos rfl
  | bidirectional a b => exact if_neg normal
  | corrupt diagnostic => exact normal.elim

variable {ε : Type} {lookup : Uuid → Except ε (Option Object)}

section Normal

variable {endpoints : Endpoints Object}

theorem Normal.mem_ends_iff (normal : endpoints.Normal) {object : Object} :
    object ∈ endpoints.ends ↔
      endpoints.source? = some object ∨ endpoints.destination? = some object := by
  cases endpoints with
  | reflexive a b =>
    obtain rfl : a = b := normal
    simp [source?, destination?, eq_comm]
  | corrupt diagnostic => exact normal.elim
  | _ => simp [source?, destination?, eq_comm]

theorem Normal.ofBindings_bindings (normal : endpoints.Normal) (factId : Option Uuid) :
    ofBindings factId endpoints.bindings = endpoints.map Object.id := by
  cases endpoints with
  | empty | sourceOnly | destinationOnly | asymmetric => rfl
  | reflexive a b =>
    obtain rfl : a = b := normal
    rfl
  | bidirectional a b => exact if_neg normal
  | corrupt diagnostic => exact normal.elim

theorem Normal.filledBy_map {kept : Object → Object} (normal : endpoints.Normal)
    (found : ∀ object ∈ endpoints.ends, lookup object.id = .ok (some (kept object)))
    (factId : Option Uuid) :
    FilledBy lookup (ofBindings factId endpoints.bindings) (endpoints.map kept) := by
  rw [normal.ofBindings_bindings]
  cases endpoints with
  | empty => exact .empty
  | sourceOnly a => exact .sourceOnly (found a (by simp))
  | destinationOnly b => exact .destinationOnly (found b (by simp))
  | reflexive a b =>
    obtain rfl : a = b := normal
    exact .reflexive (found a (by simp))
  | asymmetric a b => exact .asymmetric (found a (by simp)) (found b (by simp))
  | bidirectional a b => exact .bidirectional (found a (by simp)) (found b (by simp))
  | corrupt diagnostic => exact normal.elim

theorem Normal.filledBy (normal : endpoints.Normal) (supplied : endpoints.SuppliedBy lookup)
    (factId : Option Uuid) :
    FilledBy lookup (ofBindings factId endpoints.bindings) endpoints := by
  have found : ∀ object ∈ endpoints.ends, lookup object.id = .ok (some (id object)) :=
    fun object atEnd => supplied object (normal.mem_ends_iff.mp atEnd)
  have filled := normal.filledBy_map found factId
  rwa [map_id] at filled

end Normal

theorem FilledBy.normal {factId : Option Uuid} {bindings : List Binding}
    {endpoints : Endpoints Object} (filled : FilledBy lookup (ofBindings factId bindings) endpoints)
    (faithful : Faithful lookup) (sound : endpoints.isCorrupt = false) : endpoints.Normal := by
  generalize described : ofBindings factId bindings = shape at filled
  cases filled with
  | empty | sourceOnly | destinationOnly | asymmetric => trivial
  | reflexive => rfl
  | bidirectional source destination =>
    change _ ≠ _
    rw [faithful _ _ source, faithful _ _ destination]
    exact ofBindings_bidirectional described
  | corrupt => cases sound

theorem diagnostic_eq_none {endpoints : Endpoints Object} (sound : endpoints.kind ≠ .corrupt) :
    endpoints.diagnostic? = none := by
  cases endpoints with
  | corrupt diagnostic => exact absurd rfl sound
  | _ => rfl

theorem Normal.sound {endpoints : Endpoints Object} (normal : endpoints.Normal) :
    endpoints.kind ≠ .corrupt := by
  cases endpoints with
  | corrupt diagnostic => exact normal.elim
  | _ => nofun

theorem Normal.resolve_bindings {endpoints : Endpoints Object} (normal : endpoints.Normal)
    (supplied : endpoints.SuppliedBy lookup) (factId : Option Uuid) :
    (resolve lookup factId endpoints.bindings).outcome = .ok endpoints ∧
      (resolve lookup factId endpoints.bindings).diagnostics = [] := by
  have done := resolve_ok_iff.mpr (normal.filledBy supplied factId)
  refine ⟨done, ?_⟩
  rw [resolve_diagnostics done, diagnostic_eq_none normal.sound]
  rfl

theorem construct_ok_iff {kind : EndpointKind} {source destination : Option Object}
    {diagnostic : Option Diagnostic} {endpoints : Endpoints Object} :
    construct kind source destination diagnostic = .ok endpoints ↔
      (endpoints.kind = kind ∧ endpoints.source? = source ∧ endpoints.destination? = destination ∧
        endpoints.diagnostic? = diagnostic) ∧
      ∀ a b, endpoints = reflexive a b → a.isSame b = true := by
  constructor
  · intro made
    unfold construct at made
    split at made
    case h_7 a b _ =>
      split at made
      · split at made
        · rename_i same absent
          cases made
          rw [Option.isNone_iff_eq_none] at absent
          refine ⟨⟨rfl, rfl, rfl, absent.symm⟩, ?_⟩
          rintro _ _ ⟨⟩
          exact same
        · cases made
      · cases made
    case h_8 => split at made <;> cases made
    all_goals
      cases made
      exact ⟨⟨rfl, rfl, rfl, rfl⟩, by simp⟩
  · rintro ⟨⟨rfl, rfl, rfl, rfl⟩, same⟩
    cases endpoints with
    | reflexive a b =>
      change (if a.isSame b = true then _ else _) = _
      rw [if_pos (same a b rfl)]
      rfl
    | _ => rfl

def Same : Endpoints Object → Endpoints Object → Prop
  | empty, empty => True
  | sourceOnly a, sourceOnly b | destinationOnly a, destinationOnly b => a.isSame b = true
  | reflexive a b, reflexive c d | asymmetric a b, asymmetric c d
  | bidirectional a b, bidirectional c d => a.isSame c = true ∧ b.isSame d = true
  | corrupt left, corrupt right => left = right
  | _, _ => False

theorem Same.kind_eq {left right : Endpoints Object} (same : left.Same right) :
    left.kind = right.kind := by
  cases left <;> cases right <;> simp only [Same] at same <;> rfl

def SameSuppliedBy (endpoints : Endpoints Object) (lookup : Uuid → Except ε (Option Object)) :
    Prop :=
  ∀ object, endpoints.source? = some object ∨ endpoints.destination? = some object →
    ∃ found, lookup object.id = .ok (some found) ∧ found.isSame object = true

theorem isSame_id {a b : Object} (same : a.isSame b = true) : a.id = b.id := by
  simp only [Object.isSame, Bool.or_eq_true, Bool.and_eq_true, decide_eq_true_eq] at same
  rcases same with rfl | ⟨⟨same, _⟩, _⟩
  · rfl
  · exact same

theorem same_filledBy {endpoints : Endpoints Object} (sound : endpoints.kind ≠ .corrupt)
    (one : ∀ a b, endpoints = reflexive a b → a.isSame b = true)
    (two : ∀ a b, endpoints = bidirectional a b → a.id ≠ b.id)
    (supplied : endpoints.SameSuppliedBy lookup) (factId : Option Uuid) :
    ∃ result, FilledBy lookup (ofBindings factId endpoints.bindings) result ∧
      result.Same endpoints := by
  cases endpoints with
  | empty => exact ⟨_, .empty, trivial⟩
  | sourceOnly a =>
    obtain ⟨found, looked, same⟩ := supplied a (.inl rfl)
    exact ⟨_, .sourceOnly looked, same⟩
  | destinationOnly b =>
    obtain ⟨found, looked, same⟩ := supplied b (.inr rfl)
    exact ⟨_, .destinationOnly looked, same⟩
  | reflexive a b =>
    obtain ⟨found, looked, same⟩ := supplied a (.inl rfl)
    obtain ⟨other, lookedOther, sameOther⟩ := supplied b (.inr rfl)
    -- Both ends are looked up under one id, so that one Object is found for them.
    rw [← isSame_id (one a b rfl), looked] at lookedOther
    cases lookedOther
    exact ⟨_, .reflexive looked, same, sameOther⟩
  | asymmetric a b =>
    obtain ⟨source, lookedSource, sameSource⟩ := supplied a (.inl rfl)
    obtain ⟨destination, lookedDestination, sameDestination⟩ := supplied b (.inr rfl)
    exact ⟨_, .asymmetric lookedSource lookedDestination, sameSource, sameDestination⟩
  | bidirectional a b =>
    obtain ⟨source, lookedSource, sameSource⟩ := supplied a (.inl rfl)
    obtain ⟨destination, lookedDestination, sameDestination⟩ := supplied b (.inr rfl)
    have shape : ofBindings factId (bidirectional a b).bindings = bidirectional a.id b.id :=
      if_neg (two a b rfl)
    rw [shape]
    exact ⟨_, .bidirectional lookedSource lookedDestination, sameSource, sameDestination⟩
  | corrupt diagnostic => exact absurd rfl sound

theorem normal_of_supplied {endpoints : Endpoints Object} (sound : endpoints.kind ≠ .corrupt)
    (one : ∀ a b, endpoints = reflexive a b → a.isSame b = true)
    (two : ∀ a b, endpoints = bidirectional a b → a.id ≠ b.id)
    (supplied : endpoints.SuppliedBy lookup) : endpoints.Normal := by
  cases endpoints with
  | reflexive a b =>
    have first := supplied a (.inl rfl)
    have second := supplied b (.inr rfl)
    rw [isSame_id (one a b rfl), second] at first
    exact (Option.some.inj (Except.ok.inj first)).symm
  | bidirectional a b => exact two a b rfl
  | corrupt diagnostic => exact absurd rfl sound
  | _ => trivial

theorem self_pair_filledBy {a b found : Object} (same : a.id = b.id)
    (looked : lookup a.id = .ok (some found)) (factId : Option Uuid) :
    FilledBy lookup (ofBindings factId (bidirectional a b).bindings) (reflexive found found) := by
  have shape : ofBindings factId (bidirectional a b).bindings = reflexive a.id a.id := if_pos same
  rw [shape]
  exact .reflexive looked

end Endpoints

def lookupIn (objects : List Object) (id : Uuid) : Except Empty (Option Object) :=
  .ok (objects.find? (·.id = id))

theorem lookupIn_faithful (objects : List Object) : Faithful (lookupIn objects) := by
  intro id object looked
  have found := List.find?_some (p := fun object : Object => decide (object.id = id))
    (Except.ok.inj looked)
  exact of_decide_eq_true found

section RoundTrip

variable {ε : Type} {lookup : Uuid → Except ε (Option Object)}

/-- What bindings resolve to is kept by the parts of a record and by the bindings it is written back
    to, whichever bindings it came from. -/
theorem resolve_encode_resolve {factId : Option Uuid} {bindings : List Binding}
    {endpoints : Endpoints Object} (faithful : Faithful lookup)
    (done : (resolve lookup factId bindings).outcome = .ok endpoints)
    (sound : endpoints.isCorrupt = false) :
    Endpoints.ofParts endpoints.source? endpoints.destination? endpoints.isBidirectional =
        endpoints ∧
      ∀ otherId, (resolve lookup otherId endpoints.bindings).outcome = .ok endpoints ∧
        (resolve lookup otherId endpoints.bindings).diagnostics = [] := by
  have filled := resolve_ok_iff.mp done
  have normal := filled.normal faithful sound
  exact ⟨normal.ofParts_eq, normal.resolve_bindings (filled.supplied faithful)⟩

theorem resolve_encode_resolve_mixed_pair :
    let object : Object := { id := ⟨7⟩, value := .text "x.example.org" }
    let bindings : List Binding := [⟨⟨7⟩, .factIsSource⟩, ⟨⟨7⟩, .biDirectional⟩]
    (resolve (lookupIn [object]) none bindings).outcome = .ok (.reflexive object object) ∧
      Endpoints.ofParts (some object) (some object) true = .reflexive object object ∧
      ∀ otherId,
        (resolve (lookupIn [object]) otherId [⟨⟨7⟩, .biDirectional⟩]).outcome =
            .ok (.reflexive object object) ∧
          (resolve (lookupIn [object]) otherId [⟨⟨7⟩, .biDirectional⟩]).diagnostics = [] := by
  intro object bindings
  have done : (resolve (lookupIn [object]) none bindings).outcome =
      .ok (.reflexive object object) := rfl
  exact ⟨done, resolve_encode_resolve (lookupIn_faithful [object]) done rfl⟩

/-- The bindings of endpoints that can be made are read back to equal ones, but for a pair in both
    directions whose two ends have one id. -/
theorem made_endpoints_read_back_iff {kind : EndpointKind} {source destination : Option Object}
    {diagnostic : Option Diagnostic} {endpoints : Endpoints Object}
    (made : Endpoints.construct kind source destination diagnostic = .ok endpoints)
    (sound : kind ≠ .corrupt) (supplied : endpoints.SameSuppliedBy lookup)
    (factId : Option Uuid) :
    ∃ result, (resolve lookup factId endpoints.bindings).outcome = .ok result ∧
      (resolve lookup factId endpoints.bindings).diagnostics = [] ∧
      (result.Same endpoints ↔ ∀ a b, endpoints = .bidirectional a b → a.id ≠ b.id) ∧
      (endpoints.SuppliedBy lookup →
        (result = endpoints ↔ ∀ a b, endpoints = .bidirectional a b → a.id ≠ b.id)) := by
  obtain ⟨⟨kindEq, _⟩, one⟩ := Endpoints.construct_ok_iff.mp made
  rw [← kindEq] at sound
  by_cases two : ∀ a b, endpoints = .bidirectional a b → a.id ≠ b.id
  · obtain ⟨result, filled, same⟩ := Endpoints.same_filledBy sound one two supplied factId
    have done := resolve_ok_iff.mpr filled
    refine ⟨result, done, ?_, iff_of_true same two, fun exactly => iff_of_true ?_ two⟩
    · rw [← same.kind_eq] at sound
      rw [resolve_diagnostics done, Endpoints.diagnostic_eq_none sound]
      rfl
    · have normal := Endpoints.normal_of_supplied sound one two exactly
      have again := (normal.resolve_bindings exactly factId).1
      exact Except.ok.inj (done.symm.trans again)
  · -- The two bindings name one id and are read as one Object, which is of another kind.
    have selfPair : ∃ a b, endpoints = .bidirectional a b ∧ a.id = b.id := by
      simpa using two
    obtain ⟨a, b, rfl, same⟩ := selfPair
    obtain ⟨found, looked, _⟩ := supplied a (.inl rfl)
    have done := resolve_ok_iff.mpr (Endpoints.self_pair_filledBy same looked factId)
    refine ⟨_, done, ?_, iff_of_false id two, fun _ => iff_of_false nofun two⟩
    rw [resolve_diagnostics done]
    rfl

theorem made_endpoints_read_back_reflexive :
    let source : Object := { id := ⟨7⟩, value := .int 1 }
    let destination : Object := { id := ⟨7⟩, value := .bool true }
    Endpoints.construct .reflexive (some source) (some destination) none =
        .ok (.reflexive source destination) ∧
      ∃ result,
        (resolve (lookupIn [source]) none [⟨⟨7⟩, .biDirectional⟩]).outcome = .ok result ∧
          result.Same (.reflexive source destination) := by
  intro source destination
  have one : source.isSame destination = true := by decide
  have made : Endpoints.construct .reflexive (some source) (some destination) none =
      .ok (.reflexive source destination) := by
    refine Endpoints.construct_ok_iff.mpr ⟨⟨rfl, rfl, rfl, rfl⟩, ?_⟩
    rintro _ _ ⟨⟩
    exact one
  have supplied :
      (Endpoints.reflexive source destination).SameSuppliedBy (lookupIn [source]) := by
    intro object atEnd
    refine ⟨source, ?_⟩
    rcases atEnd with atEnd | atEnd <;> cases atEnd
    · exact ⟨rfl, by decide⟩
    · exact ⟨rfl, by decide⟩
  obtain ⟨result, done, -, same, -⟩ := made_endpoints_read_back_iff made nofun supplied none
  exact ⟨made, result, done, same.mpr nofun⟩

theorem pair_of_one_object_not_read_back :
    let object : Object := { id := ⟨7⟩, value := .text "x.example.org" }
    let pair : Endpoints Object := .bidirectional object object
    Endpoints.construct .bidirectional (some object) (some object) none = .ok pair ∧
      pair.bindings = [⟨⟨7⟩, .biDirectional⟩, ⟨⟨7⟩, .biDirectional⟩] ∧
      pair.SuppliedBy (lookupIn [object]) ∧
      (resolve (lookupIn [object]) none pair.bindings).outcome = .ok (.reflexive object object) ∧
      ¬ (Endpoints.reflexive object object).Same pair := by
  intro object pair
  refine ⟨rfl, rfl, ?_, rfl, id⟩
  intro found atEnd
  rcases atEnd with atEnd | atEnd <;> cases atEnd <;> rfl

end RoundTrip

end FactGraph
