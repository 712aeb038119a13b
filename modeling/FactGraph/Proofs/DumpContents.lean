import FactGraph.Dump.Reader
import FactGraph.Proofs.FirstFault
import FactGraph.Proofs.Updates
import Mathlib.Data.List.Forall2

namespace FactGraph

section Related

variable {α β : Type} {R : α → β → Prop} {left : List α} {right : List β}

theorem forall₂_lastEach {leftId? : α → Option Uuid} {rightId? : β → Option Uuid}
    (related : List.Forall₂ R left right) (agree : ∀ a b, R a b → leftId? a = rightId? b) :
    List.Forall₂ R (lastEach leftId? left) (lastEach rightId? right) := by
  obtain ⟨lengths, each⟩ := List.forall₂_iff_zip.mp related
  have lefts : (left.zip right).map Prod.fst = left := List.map_fst_zip (Nat.le_of_eq lengths)
  have rights : (left.zip right).map Prod.snd = right :=
    List.map_snd_zip (Nat.le_of_eq lengths.symm)
  -- Both lists are columns of one list of pairs, on which the two ways to read an id agree.
  generalize left.zip right = pairs at lefts rights each
  subst lefts rights
  have ids : lastEach (fun pair => leftId? (Prod.fst pair)) pairs =
      lastEach (fun pair => rightId? (Prod.snd pair)) pairs :=
    lastEach_congr fun _ member => agree _ _ (each member)
  rw [lastEach_map, lastEach_map, ids, List.forall₂_map_left_iff, List.forall₂_map_right_iff,
    List.forall₂_same]
  exact fun _ last => each (mem_of_mem_lastEach last)

theorem countP_eq_of_forall₂ {p : α → Prop} {q : β → Prop} [DecidablePred p] [DecidablePred q]
    (related : List.Forall₂ R left right) (agree : ∀ a b, R a b → (p a ↔ q b)) :
    left.countP p = right.countP q := by
  induction related with
  | nil => rfl
  | cons head _ ih =>
    rw [List.countP_cons, List.countP_cons, ih]
    simp only [decide_eq_true_eq, agree _ _ head]

theorem forall_mem_iff_of_forall₂ {p : α → Prop} {q : β → Prop}
    (related : List.Forall₂ R left right) (agree : ∀ a b, R a b → (p a ↔ q b)) :
    (∀ a ∈ left, p a) ↔ ∀ b ∈ right, q b := by
  induction related with
  | nil => simp
  | cons head _ ih => simp only [List.forall_mem_cons, ih, agree _ _ head]

end Related

namespace Json

def member? (key : String) : Json → Option Json
  | object members => get? members key
  | _ => none

@[simp] theorem member?_object (key : String) (members : List (Text × Json)) :
    (object members).member? key = get? members key := rfl

/-- The items of the list under a key; none if there is no list. -/
def items (key : String) (value : Json) : List Json :=
  match value.member? key with
  | some (list items) => items
  | _ => []

def idUnder (key : String) (value : Json) : Option Uuid :=
  (value.member? key).bind fun spelling => Uuid.ofText? spelling.display

structure SpellsBinding (entry : Json) (binding : Binding) : Prop where
  objectId : entry.idUnder "object_id" = some binding.objectId
  direction : entry.member? "direction" = some (.text binding.direction.wireName)

structure SpellsFact (entry : Json) (fact : StoredFact) : Prop where
  id : entry.idUnder "id" = some fact.id
  bindings : List.Forall₂ SpellsBinding (entry.items "bindings") fact.bindings

end Json

theorem Direction.ofWireName?_eq_some_iff {name : String} {direction : Direction} :
    Direction.ofWireName? name = some direction ↔ name = direction.wireName := by
  constructor
  · intro found
    have same := List.find?_some (p := fun known => decide (Direction.wireName known = name)) found
    exact (of_decide_eq_true same).symm
  · rintro rfl
    cases direction <;> decide

namespace Dump

section Except

variable {α β ε : Type}

theorem mapM_ok_iff {read : α → Except ε β} {items : List α} {results : List β} :
    items.mapM read = .ok results ↔
      List.Forall₂ (fun item result => read item = .ok result) items results := by
  induction items generalizing results with
  | nil => simp [pure, Except.pure, eq_comm]
  | cons item items ih =>
    rw [List.mapM_cons, List.forall₂_cons_left_iff]
    simp only [bind_ok_iff, ih, pure, Except.pure, Except.ok.injEq]
    constructor
    · rintro ⟨first, done, rest, remaining, rfl⟩
      exact ⟨first, rest, done, remaining, rfl⟩
    · rintro ⟨first, rest, done, remaining, rfl⟩
      exact ⟨first, done, rest, remaining, rfl⟩

end Except

section Readers

variable {key : String} {place : Place} {members : Members}

theorem required_ok_iff {value : Json} :
    required key place members = .ok value ↔ (Json.object members).member? key = some value := by
  unfold required refuse
  rw [Json.member?_object]
  cases Json.get? members key <;> simp

theorem readId_ok_iff {value : Json} {id : Uuid} :
    readId place value = .ok id ↔ Uuid.ofText? value.display = some id := by
  unfold readId refuse
  cases Uuid.ofText? value.display <;> simp

theorem requiredId_ok_iff {id : Uuid} :
    requiredId key place members = .ok id ↔ (Json.object members).idUnder key = some id := by
  unfold requiredId Json.idUnder
  simp only [bind_ok_iff, required_ok_iff, readId_ok_iff, Option.bind_eq_some_iff]

theorem asMembers?_eq_some_iff {value : Json} :
    asMembers? value = some members ↔ value = .object members := by
  cases value <;> simp [asMembers?]

theorem asEntries_ok_iff {items : List Json} {entries : List Members} :
    asEntries key place items = .ok entries ↔ items = entries.map .object := by
  have shapes : items.mapM asMembers? = some entries ↔ items = entries.map .object := by
    induction items generalizing entries with
    | nil => simp [eq_comm]
    | cons item items ih =>
      rw [List.mapM_cons, eq_comm (a := item :: items), List.map_eq_cons_iff]
      simp only [Option.bind_eq_bind, Option.bind_eq_some_iff, asMembers?_eq_some_iff, ih,
        Option.pure_def, Option.some.injEq]
      constructor
      · rintro ⟨first, same, rest, remaining, rfl⟩
        exact ⟨first, rest, rfl, same.symm, remaining.symm⟩
      · rintro ⟨first, rest, rfl, same, remaining⟩
        exact ⟨first, same.symm, rest, remaining.symm, rfl⟩
  rw [← shapes]
  unfold asEntries refuse
  cases items.mapM asMembers? <;> simp

theorem asList_ok_iff {value : Json} {items : List Json} :
    asList key place value = .ok items ↔ value = .list items := by
  cases value <;> simp [asList, refuse]

theorem entriesAt_ok_iff {entries : List Members} :
    entriesAt key place members = .ok entries ↔
      (Json.get? members key).getD (.list []) = .list (entries.map .object) := by
  simp only [entriesAt, listAt, bind_ok_iff, asList_ok_iff, asEntries_ok_iff]
  constructor
  · rintro ⟨items, listed, rfl⟩
    exact listed
  · intro listed
    exact ⟨_, listed, rfl⟩

theorem entriesAt_ok {entries : List Members} (done : entriesAt key place members = .ok entries) :
    (Json.object members).items key = entries.map .object := by
  have listed := entriesAt_ok_iff.mp done
  unfold Json.items
  rw [Json.member?_object]
  cases found : Json.get? members key with
  | none =>
    rw [found] at listed
    exact Json.list.inj listed
  | some value =>
    rw [found] at listed
    obtain rfl : value = .list (entries.map .object) := listed
    rfl

theorem readDirection_ok_iff {value : Json} {direction : Direction} :
    readDirection place value = .ok direction ↔ value = .text direction.wireName := by
  unfold readDirection refuse
  cases value with
  | text name =>
    cases name with
    | plain name =>
      have known := @Direction.ofWireName?_eq_some_iff name direction
      cases read : Direction.ofWireName? name <;> simp_all [Text.string?]
    | broken before surrogate after => simp [Text.string?]
  | _ => simp

end Readers

theorem forall₂_entries {α : Type} {read : Members → Except LoadFault α} {Spells : Json → α → Prop}
    {entries : List Members} {results : List α} (done : entries.mapM read = .ok results)
    (spelt : ∀ entry result, read entry = .ok result → Spells (.object entry) result) :
    List.Forall₂ Spells (entries.map .object) results := by
  rw [List.forall₂_map_left_iff]
  exact (mapM_ok_iff.mp done).imp spelt

theorem readObject_ok {entry : Members} {object : Object} (done : readObject entry = .ok object) :
    (Json.object entry).idUnder "id" = some object.id := by
  simp only [readObject, bind_ok_iff, requiredId_ok_iff] at done
  obtain ⟨id, spelt, typeId, _, made⟩ := done
  cases made
  exact spelt

theorem readBinding_ok {place : Place} {entry : Members} {binding : Binding}
    (done : readBinding place entry = .ok binding) :
    (Json.object entry).SpellsBinding binding := by
  simp only [readBinding, bind_ok_iff, required_ok_iff, requiredId_ok_iff,
    readDirection_ok_iff] at done
  obtain ⟨_, spelt, direction, rfl, objectId, bound, made⟩ := done
  cases made
  exact ⟨bound, spelt⟩

theorem readFact_ok {entry : Members} {fact : StoredFact} (done : readFact entry = .ok fact) :
    (Json.object entry).SpellsFact fact := by
  simp only [readFact, bind_ok_iff, requiredId_ok_iff] at done
  obtain ⟨id, spelt, mode, _, typeId, _, inReferenceToId, _, organizationId, _, originId, _,
    addedById, _, confidence, _, trust, _, timestamp, _, lastSeen, _,
    entries, listed, bindings, read, made⟩ := done
  cases made
  refine ⟨spelt, ?_⟩
  rw [entriesAt_ok listed]
  exact forall₂_entries read fun _ _ => readBinding_ok

theorem ofJson_ok {json : Json} {dump : Dump} (accepted : ofJson json = .ok dump) :
    List.Forall₂ (fun entry object => entry.idUnder "id" = some object.id) (json.items "objects")
        dump.objects ∧
      List.Forall₂ Json.SpellsFact (json.items "facts") dump.facts := by
  cases json with
  | object members =>
    simp only [ofJson, ofMembers, bind_ok_iff, required_ok_iff, asList_ok_iff,
      asEntries_ok_iff] at accepted
    obtain ⟨objectEntries, listed, objects, readObjects, _, present, _, rfl, factEntries, rfl,
      facts, readFacts, _, _, acl, _, _, _, comments, _, _, _, retracted, _, made⟩ := accepted
    cases made
    constructor
    · rw [entriesAt_ok listed]
      exact forall₂_entries readObjects fun _ _ => readObject_ok
    · have factSection : (Json.object members).items "facts" = factEntries.map .object := by
        unfold Json.items
        rw [present]
      rw [factSection]
      exact forall₂_entries readFacts fun _ _ => readFact_ok
  | _ => cases accepted

theorem toStores_eq (dump : Dump) :
    dump.toStores =
      { objects := .ofList dump.objects
        facts := .ofList dump.facts
        acl := dump.acl
        comments := dump.comments
        documents := .ofList (dump.retracted.map retractedDocument) } := by
  have documents : (dump.retracted.map fun id => Change.indexDocument (retractedDocument id)) =
      (dump.retracted.map retractedDocument).map .indexDocument := by
    rw [List.map_map]
    rfl
  unfold toStores changes
  rw [documents]
  simp only [Stores.run_append, Stores.run_saveObject, Stores.run_saveFact,
    Stores.run_saveAclEntry, Stores.run_saveComment, Stores.run_indexDocument]
  rfl

end Dump

end FactGraph
