import FactGraph.Proofs.FirstFault
import FactGraph.Fact.Criteria
import FactGraph.Fact.Document
import Mathlib.Data.List.Permutation

namespace FactGraph

namespace Endpoints

/-- Endpoints that are equal, or a pair in both directions with its ends exchanged. -/
inductive EqualUpToTie {α : Type} : Endpoints α → Endpoints α → Prop where
  | same (endpoints : Endpoints α) : EqualUpToTie endpoints endpoints
  | exchanged (a b : α) : EqualUpToTie (bidirectional a b) (bidirectional b a)

namespace EqualUpToTie

variable {α : Type} {left right : Endpoints α}

theorem kind_eq (equal : EqualUpToTie left right) : right.kind = left.kind := by
  cases equal <;> rfl

theorem diagnostic_eq (equal : EqualUpToTie left right) : right.diagnostic? = left.diagnostic? := by
  cases equal <;> rfl

theorem eq_of_kind (equal : EqualUpToTie left right) (decided : left.kind ≠ .bidirectional) :
    right = left := by
  cases equal with
  | same => rfl
  | exchanged a b => exact absurd rfl decided

theorem eq_or_exchanged {a b : α} (equal : EqualUpToTie (bidirectional a b) right) :
    right = bidirectional a b ∨ right = bidirectional b a := by
  cases equal with
  | same => exact .inl rfl
  | exchanged => exact .inr rfl

theorem exists_filledBy {ε : Type} {lookup : Uuid → Except ε (Option Object)}
    {first second : Endpoints Uuid} {endpoints : Endpoints Object}
    (equal : EqualUpToTie first second) (filled : FilledBy lookup first endpoints) :
    ∃ again, FilledBy lookup second again ∧ EqualUpToTie endpoints again := by
  cases equal with
  | same => exact ⟨endpoints, filled, .same endpoints⟩
  | exchanged =>
    cases filled with
    | bidirectional source destination =>
      exact ⟨_, .bidirectional destination source, .exchanged _ _⟩

end EqualUpToTie

section Shape

variable (factId : Option Uuid)

theorem ofMutual_swap (x y : Uuid) : EqualUpToTie (ofMutual x y) (ofMutual y x) := by
  by_cases one : x = y
  · subst y
    exact .same _
  · have other : y ≠ x := fun same => one same.symm
    simp only [ofMutual, one, other, ↓reduceIte]
    exact .exchanged x y

theorem ofPair_swap (first second : Binding) :
    EqualUpToTie (ofPair factId first second) (ofPair factId second first) := by
  obtain ⟨x, first⟩ := first
  obtain ⟨y, second⟩ := second
  -- A pair that names its source is read alike in both orders, and so is a corrupt one.
  cases first <;> cases second
  case biDirectional.biDirectional => exact ofMutual_swap x y
  case biDirectional.factIsSource => exact ofMutual_swap x y
  case factIsSource.biDirectional => exact ofMutual_swap x y
  all_goals exact .same _

theorem ofBindings_perm {bindings others : List Binding} (reordered : bindings.Perm others) :
    EqualUpToTie (ofBindings factId bindings) (ofBindings factId others) := by
  match bindings with
  | [] =>
    rw [reordered.nil_eq]
    exact .same _
  | [binding] =>
    rw [List.singleton_perm.mp reordered]
    exact .same _
  | [first, second] =>
    rcases List.pair_perm.mp reordered with same | swapped
    · rw [same]
      exact .same _
    · rw [swapped]
      exact ofPair_swap factId first second
  | first :: second :: third :: rest =>
    -- Of too many bindings, only their number is reported.
    have length := reordered.length_eq
    have many : CorruptBindings others := by
      rw [corruptBindings_iff, ← length]
      left
      simp
    have reported : corruption factId others =
        corruption factId (first :: second :: third :: rest) := by
      unfold corruption
      rw [length]
    rw [ofBindings_of_corrupt factId many, reported]
    exact .same _

end Shape

end Endpoints

section Resolve

open Endpoints

variable {ε : Type} {lookup : Uuid → Except ε (Option Object)} {factId : Option Uuid}
variable {bindings others : List Binding} {endpoints : Endpoints Object}

theorem resolve_perm (reordered : bindings.Perm others)
    (done : (resolve lookup factId bindings).outcome = .ok endpoints) :
    ∃ again, (resolve lookup factId others).outcome = .ok again ∧ EqualUpToTie endpoints again := by
  obtain ⟨again, filled, equal⟩ :=
    (ofBindings_perm factId reordered).exists_filledBy (resolve_ok_iff.mp done)
  exact ⟨again, resolve_ok_iff.mpr filled, equal⟩

theorem resolve_missing_iff (answers : ∀ id, ∃ found, lookup id = .ok found) :
    (∃ missing, (resolve lookup factId bindings).outcome = .error (.missing missing)) ↔
      ¬ ∃ endpoints, (resolve lookup factId bindings).outcome = .ok endpoints := by
  cases outcome : (resolve lookup factId bindings).outcome with
  | ok endpoints => simp
  | error fault =>
    cases fault with
    | missing object => simp
    | lookup cause =>
      obtain ⟨-, id, -, -, -, failed⟩ := resolve_error_iff.mp outcome
      obtain ⟨found, looked⟩ := answers id
      cases found <;> simp [fetchObject, looked] at failed

end Resolve

namespace Stores

variable {stores : Stores} {fact : StoredFact} {record : FactRecord}

theorem read_perm {others : List Binding} (reordered : fact.bindings.Perm others)
    (read : (stores.read fact).outcome = .ok record)
    (decided : record.endpoints.kind ≠ .bidirectional) :
    (stores.read { fact with bindings := others }).outcome = .ok record := by
  obtain ⟨endpoints, resolved, made⟩ := read_ok_iff.mp read
  obtain ⟨again, resolvedAgain, equal⟩ := resolve_perm reordered resolved
  have oneWay : endpoints.kind ≠ .bidirectional := by
    intro tied
    have sound : endpoints.isCorrupt = false := by
      cases endpoints <;> simp_all [Endpoints.kind, Endpoints.isCorrupt]
    have normal := (resolve_ok_iff.mp resolved).normal stores.lookup_faithful sound
    rw [← made, endpoints_recordWith normal] at decided
    exact decided tied
  rw [equal.eq_of_kind oneWay] at resolvedAgain
  exact read_ok_iff.mpr ⟨endpoints, resolvedAgain, made⟩

end Stores

/-- The order in which bindings are stored decides which end of a pair in both directions is the
    source, and nothing else. -/
theorem stored_order_breaks_ties {ε : Type} {lookup : Uuid → Except ε (Option Object)}
    {bindings others : List Binding} (answers : ∀ id, ∃ found, lookup id = .ok found)
    (reordered : bindings.Perm others) (factId : Option Uuid) :
    let first := resolve lookup factId bindings
    let second := resolve lookup factId others
    ((∃ missing, first.outcome = .error (.missing missing)) ↔
        ∃ missing, second.outcome = .error (.missing missing)) ∧
      (∀ endpoints again, first.outcome = .ok endpoints → second.outcome = .ok again →
        again.kind = endpoints.kind ∧
          second.diagnostics = first.diagnostics ∧
          (endpoints.kind ≠ .bidirectional → again = endpoints) ∧
          ∀ a b, endpoints = .bidirectional a b →
            again = .bidirectional a b ∨ again = .bidirectional b a) ∧
      ∀ (stores : Stores) (fact : StoredFact) (record : FactRecord), fact.bindings = bindings →
        (stores.read fact).outcome = .ok record → record.endpoints.kind ≠ .bidirectional →
        ∃ again, (stores.read { fact with bindings := others }).outcome = .ok again ∧
          again.toStored.bindings = record.toStored.bindings ∧
          again.toDocument.objects = record.toDocument.objects ∧
          again.toCriteria = record.toCriteria := by
  intro first second
  refine ⟨?_, ?_, ?_⟩
  · rw [resolve_missing_iff answers, resolve_missing_iff answers, not_iff_not]
    constructor
    · intro returned
      obtain ⟨endpoints, done⟩ := returned
      obtain ⟨again, doneAgain, -⟩ := resolve_perm reordered done
      exact ⟨again, doneAgain⟩
    · intro returned
      obtain ⟨again, doneAgain⟩ := returned
      obtain ⟨endpoints, done, -⟩ := resolve_perm reordered.symm doneAgain
      exact ⟨endpoints, done⟩
  · intro endpoints again done doneAgain
    obtain ⟨other, doneOther, equal⟩ := resolve_perm reordered done
    obtain rfl : again = other := Except.ok.inj (doneAgain.symm.trans doneOther)
    refine ⟨equal.kind_eq, ?_, equal.eq_of_kind, ?_⟩
    · rw [resolve_diagnostics done, resolve_diagnostics doneAgain, equal.diagnostic_eq]
    · intro a b tied
      subst tied
      exact equal.eq_or_exchanged
  · intro stores fact record stored read decided
    subst stored
    exact ⟨record, Stores.read_perm reordered read decided, rfl, rfl, rfl⟩

theorem stored_order_breaks_ties_of_mixed_pairs :
    let a : Object := { id := ⟨1⟩, value := .text "x.example.org" }
    let b : Object := { id := ⟨2⟩ }
    let stores := Stores.empty.run [.saveObject a, .saveObject b]
    let tied : List Binding := [⟨⟨1⟩, .factIsSource⟩, ⟨⟨2⟩, .biDirectional⟩]
    let decided : List Binding := [⟨⟨1⟩, .biDirectional⟩, ⟨⟨2⟩, .factIsDestination⟩]
    let unknown : List Binding := [⟨⟨1⟩, .biDirectional⟩, ⟨⟨3⟩, .factIsSource⟩]
    let fact : StoredFact := { id := ⟨9⟩, bindings := decided }
    (resolve stores.lookup none tied).outcome = .ok (.bidirectional a b) ∧
      (∀ again, (resolve stores.lookup none tied.reverse).outcome = .ok again →
        again = .bidirectional a b ∨ again = .bidirectional b a) ∧
      (resolve stores.lookup none decided).outcome = .ok (.asymmetric b a) ∧
      (∀ again, (resolve stores.lookup none decided.reverse).outcome = .ok again →
        again = .asymmetric b a) ∧
      (∃ missing, (resolve stores.lookup none unknown.reverse).outcome =
        .error (.missing missing)) ∧
      ∃ again, (stores.read { fact with bindings := decided.reverse }).outcome = .ok again ∧
        again.toStored.bindings = [⟨⟨2⟩, .factIsDestination⟩, ⟨⟨1⟩, .factIsSource⟩] := by
  intro a b stores tied decided unknown fact
  have answers : ∀ id, ∃ found, stores.lookup id = .ok found := fun id => ⟨_, rfl⟩
  have reversed (bindings : List Binding) : bindings.Perm bindings.reverse :=
    (List.reverse_perm bindings).symm
  have resolvedTied : (resolve stores.lookup none tied).outcome = .ok (.bidirectional a b) := rfl
  have resolved : (resolve stores.lookup none decided).outcome = .ok (.asymmetric b a) := rfl
  have read : (stores.read fact).outcome = .ok (stores.recordWith fact (.asymmetric b a)) := rfl
  obtain ⟨-, ties, -⟩ := stored_order_breaks_ties answers (reversed tied) none
  obtain ⟨-, keeps, stored⟩ := stored_order_breaks_ties answers (reversed decided) none
  obtain ⟨fails, -, -⟩ := stored_order_breaks_ties answers (reversed unknown) none
  obtain ⟨again, readAgain, bindings, -⟩ := stored stores fact _ rfl read nofun
  refine ⟨resolvedTied, ?_, resolved, ?_, fails.mp ⟨_, rfl⟩, again, readAgain, bindings⟩
  · intro again done
    obtain ⟨-, -, -, exchanged⟩ := ties _ again resolvedTied done
    exact exchanged a b rfl
  · intro again done
    obtain ⟨-, -, equal, -⟩ := keeps _ again resolved done
    exact equal nofun

end FactGraph
