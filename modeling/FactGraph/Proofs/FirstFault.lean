import FactGraph.Proofs.Reading

namespace FactGraph

/-- Whether a list has an item for which `met` holds while `passed` holds for all before it. -/
def MetFirst {α : Type} (passed met : α → Prop) (items : List α) : Prop :=
  ∃ before item after, items = before ++ item :: after ∧ (∀ earlier ∈ before, passed earlier) ∧
    met item

section MetFirst

variable {α : Type} {passed met : α → Prop}

@[simp] theorem not_metFirst_nil : ¬ MetFirst passed met [] := by
  rintro ⟨before, item, after, split, -⟩
  cases before <;> cases split

@[simp] theorem metFirst_cons {first : α} {rest : List α} :
    MetFirst passed met (first :: rest) ↔ met first ∨ passed first ∧ MetFirst passed met rest := by
  constructor
  · rintro ⟨before, item, after, split, earlier, here⟩
    cases before with
    | nil =>
      cases split
      exact .inl here
    | cons head before =>
      cases split
      rw [List.forall_mem_cons] at earlier
      exact .inr ⟨earlier.1, before, item, after, rfl, earlier.2, here⟩
  · rintro (here | ⟨head, before, item, after, rfl, earlier, here⟩)
    · exact ⟨[], first, rest, rfl, by simp, here⟩
    · exact ⟨first :: before, item, after, rfl, List.forall_mem_cons.mpr ⟨head, earlier⟩, here⟩

theorem forall_or_metFirst (either : ∀ item, passed item ∨ met item) (items : List α) :
    (∀ item ∈ items, passed item) ∨ MetFirst passed met items := by
  induction items with
  | nil => exact .inl (by simp)
  | cons first rest ih =>
    rw [List.forall_mem_cons, metFirst_cons]
    rcases either first with head | here
    · rcases ih with all | later
      · exact .inl ⟨head, all⟩
      · exact .inr (.inr ⟨head, later⟩)
    · exact .inr (.inl here)

end MetFirst

section Except

variable {α β ε : Type} {first : Except ε α} {next : α → Except ε β}

theorem bind_ok_iff {result : β} :
    (first >>= next) = .ok result ↔ ∃ a, first = .ok a ∧ next a = .ok result := by
  cases first with
  | error cause => simp [bind, Except.bind]
  | ok a => simp [bind, Except.bind]

theorem bind_error_iff {cause : ε} :
    (first >>= next) = .error cause ↔
      first = .error cause ∨ ∃ a, first = .ok a ∧ next a = .error cause := by
  cases first with
  | error cause => simp [bind, Except.bind]
  | ok a => simp [bind, Except.bind]

theorem mapM_error_iff {read : α → Except ε β} {items : List α} {cause : ε} :
    items.mapM read = .error cause ↔
      MetFirst (fun item => ∃ result, read item = .ok result) (fun item => read item = .error cause)
        items := by
  induction items with
  | nil => simp [pure, Except.pure]
  | cons item items ih =>
    rw [List.mapM_cons, metFirst_cons, ← ih, bind_error_iff]
    simp [bind_error_iff, pure, Except.pure]

theorem mapM_accepts_iff {read : α → Except ε β} {items : List α} :
    (∃ results, items.mapM read = .ok results) ↔
      ∀ item ∈ items, ∃ result, read item = .ok result := by
  induction items with
  | nil => simp [pure, Except.pure]
  | cons item items ih =>
    rw [List.forall_mem_cons, ← ih]
    simp only [List.mapM_cons, bind_ok_iff, pure, Except.pure, Except.ok.injEq]
    constructor
    · rintro ⟨_, first, done, rest, remaining, rfl⟩
      exact ⟨⟨first, done⟩, rest, remaining⟩
    · rintro ⟨⟨first, done⟩, rest, remaining⟩
      exact ⟨first :: rest, first, done, rest, remaining, rfl⟩

end Except

namespace Fetch

variable {ε α β : Type}

theorem bind_error_iff {fetch : Fetch ε α} {next : α → Fetch ε β} {e : ε} :
    (fetch >>= next).outcome = .error e ↔
      fetch.outcome = .error e ∨ ∃ a, fetch.outcome = .ok a ∧ (next a).outcome = .error e := by
  change (fetch.andThen next).outcome = .error e ↔ _
  unfold andThen
  cases fetch.outcome with
  | error e => simp
  | ok a => simp

end Fetch

section Resolve

variable {ε : Type} {lookup : Uuid → Except ε (Option Object)} {factId : Option Uuid}

theorem Endpoints.mapM_fetch_error_iff {shape : Endpoints Uuid} {fault : ResolveFault ε} :
    (shape.mapM (fetchObject lookup factId)).outcome = .error fault ↔
      MetFirst (fun id => ∃ object, lookup id = .ok (some object))
        (fun id => (fetchObject lookup factId id).outcome = .error fault) shape.ends := by
  cases shape <;>
    simp [mapM, Fetch.bind_error_iff, fetchObject_ok_iff]

theorem resolve_error_iff {bindings : List Binding} {fault : ResolveFault ε} :
    (resolve lookup factId bindings).outcome = .error fault ↔
      MetFirst (fun id => ∃ object, lookup id = .ok (some object))
        (fun id => (fetchObject lookup factId id).outcome = .error fault)
        (Endpoints.ofBindings factId bindings).ends :=
  Endpoints.mapM_fetch_error_iff

end Resolve

namespace Stores

theorem fetchObject_error_iff {stores : Stores} {factId : Option Uuid} {id : Uuid}
    {fault : ResolveFault Empty} :
    (fetchObject stores.lookup factId id).outcome = .error fault ↔
      stores.getObject id = none ∧ fault = .missing ⟨id, factId⟩ := by
  unfold fetchObject lookup
  cases stores.getObject id <;> simp [eq_comm]

theorem read_error_iff {stores : Stores} {fact : StoredFact} {missing : MissingObject} :
    (stores.read fact).outcome = .error missing ↔
      MetFirst (fun id => stores.getObject id ≠ none)
        (fun id => stores.getObject id = none ∧ missing = ⟨id, some fact.id⟩)
        (Endpoints.ofBindings (some fact.id) fact.bindings).ends := by
  have failed : (stores.read fact).outcome = .error missing ↔
      (resolve stores.lookup (some fact.id) fact.bindings).outcome = .error (.missing missing) := by
    rw [read_outcome]
    cases (resolve stores.lookup (some fact.id) fact.bindings).outcome with
    | ok endpoints => simp
    | error fault =>
      cases fault with
      | missing object => simp [ResolveFault.toMissing]
      | lookup cause => cases cause
  rw [failed, resolve_error_iff]
  simp [fetchObject_error_iff, lookup, Option.ne_none_iff_exists']

end Stores

end FactGraph
