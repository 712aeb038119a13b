import FactGraph.Proofs.RoundTrip
import FactGraph.Stores.Reading

namespace FactGraph.Stores

abbrev lookup (stores : Stores) : Uuid → Except Empty (Option Object) :=
  fun id => .ok (stores.getObject id)

theorem lookup_faithful (stores : Stores) : Faithful stores.lookup := by
  intro id object looked
  exact (Table.get?_eq_some_iff.mp (Except.ok.inj looked)).2

def recordWith (stores : Stores) (fact : StoredFact) (endpoints : Endpoints Object) : FactRecord :=
  { fact.toFactHead with
    source := endpoints.source?
    destination := endpoints.destination?
    isBidirectional := endpoints.isBidirectional
    flags := stores.flagsOf fact.id
    acl := (stores.fetchAcl fact.id).map (·.toAclEntry)
    comments := (stores.fetchComments fact.id).map (·.toComment) }

theorem read_outcome (stores : Stores) (fact : StoredFact) :
    (stores.read fact).outcome =
      match (resolve stores.lookup (some fact.id) fact.bindings).outcome with
      | .error fault => .error fault.toMissing
      | .ok endpoints => .ok (stores.recordWith fact endpoints) := rfl

theorem read_ok_iff {stores : Stores} {fact : StoredFact} {record : FactRecord} :
    (stores.read fact).outcome = .ok record ↔
      ∃ endpoints, (resolve stores.lookup (some fact.id) fact.bindings).outcome = .ok endpoints ∧
        stores.recordWith fact endpoints = record := by
  rw [read_outcome]
  cases (resolve stores.lookup (some fact.id) fact.bindings).outcome <;> simp

theorem head_of_read {stores : Stores} {fact : StoredFact} {record : FactRecord}
    (read : (stores.read fact).outcome = .ok record) : record.toFactHead = fact.toFactHead := by
  obtain ⟨endpoints, -, rfl⟩ := read_ok_iff.mp read
  rfl

theorem read_of_resolved {stores : Stores} {fact : StoredFact} {endpoints : Endpoints Object}
    (resolved : (resolve stores.lookup (some fact.id) fact.bindings).outcome = .ok endpoints) :
    stores.read fact =
      ⟨endpoints.diagnostic?.toList, .ok (stores.recordWith fact endpoints)⟩ := by
  have outcome := read_ok_iff.mpr ⟨endpoints, resolved, rfl⟩
  have diagnostics := resolve_diagnostics resolved
  rw [← outcome, ← diagnostics]
  rfl

structure AgreeOn (fact : StoredFact) (first second : Stores) : Prop where
  objects : ∀ binding ∈ fact.bindings,
    first.getObject binding.objectId = second.getObject binding.objectId
  flags : first.flagsOf fact.id = second.flagsOf fact.id
  acl : first.fetchAcl fact.id = second.fetchAcl fact.id
  comments : first.fetchComments fact.id = second.fetchComments fact.id

theorem AgreeOn.read_eq {fact : StoredFact} {first second : Stores}
    (agree : AgreeOn fact first second) : first.read fact = second.read fact := by
  have resolved : resolve first.lookup (some fact.id) fact.bindings =
      resolve second.lookup (some fact.id) fact.bindings := by
    apply resolve_congr
    intro binding bound
    exact congrArg Except.ok (agree.objects binding bound)
  unfold read
  simp only [resolved, agree.flags, agree.acl, agree.comments]

def Dangling (stores : Stores) (fact : StoredFact) : Prop :=
  ¬ CorruptBindings fact.bindings ∧
    ∃ binding ∈ fact.bindings, stores.getObject binding.objectId = none

instance (stores : Stores) : DecidablePred stores.Dangling := fun fact =>
  inferInstanceAs (Decidable (¬ CorruptBindings fact.bindings ∧
    ∃ binding ∈ fact.bindings, stores.getObject binding.objectId = none))

theorem read_succeeds_iff {stores : Stores} {fact : StoredFact} :
    (∃ record, (stores.read fact).outcome = .ok record) ↔ ¬ stores.Dangling fact := by
  have known : ∀ id, (∃ object, stores.lookup id = .ok (some object)) ↔
      stores.getObject id ≠ none := by
    intro id
    simp [lookup, Option.ne_none_iff_exists']
  have resolved : (∃ endpoints,
      (resolve stores.lookup (some fact.id) fact.bindings).outcome = .ok endpoints) ↔
      CorruptBindings fact.bindings ∨
        ∀ binding ∈ fact.bindings, stores.getObject binding.objectId ≠ none := by
    simp only [resolve_succeeds_iff, known]
  have read : (∃ record, (stores.read fact).outcome = .ok record) ↔ ∃ endpoints,
      (resolve stores.lookup (some fact.id) fact.bindings).outcome = .ok endpoints := by
    rw [read_outcome]
    cases (resolve stores.lookup (some fact.id) fact.bindings).outcome <;> simp
  rw [read, resolved]
  unfold Dangling
  by_cases corrupted : CorruptBindings fact.bindings <;> simp [corrupted]

theorem read_fails_iff {stores : Stores} {fact : StoredFact} :
    (∃ missing, (stores.read fact).outcome = .error missing) ↔ stores.Dangling fact := by
  cases outcome : (stores.read fact).outcome with
  | error missing =>
    have dangling : stores.Dangling fact := by
      refine Decidable.of_not_not fun sound => ?_
      obtain ⟨record, succeeded⟩ := read_succeeds_iff.mpr sound
      rw [outcome] at succeeded
      cases succeeded
    simp [dangling]
  | ok record =>
    have sound := read_succeeds_iff.mp ⟨record, outcome⟩
    simp [sound]

theorem read_diagnostics (stores : Stores) (fact : StoredFact) :
    (stores.read fact).diagnostics =
      if CorruptBindings fact.bindings then [corruption (some fact.id) fact.bindings] else [] := by
  change (resolve stores.lookup (some fact.id) fact.bindings).diagnostics = _
  split
  · rename_i corrupted
    rw [resolve_of_corrupt stores.lookup (some fact.id) corrupted]
  · rename_i sound
    exact resolve_diagnostics_of_sound stores.lookup (some fact.id) sound

theorem read_diagnostics_of_error {stores : Stores} {fact : StoredFact} {missing : MissingObject}
    (failed : (stores.read fact).outcome = .error missing) :
    (stores.read fact).diagnostics = [] := by
  have sound := (read_fails_iff.mp ⟨missing, failed⟩).1
  exact resolve_diagnostics_of_sound stores.lookup (some fact.id) sound

theorem exists_normal_of_resolved {stores : Stores} {fact : StoredFact}
    {endpoints : Endpoints Object}
    (resolved : (resolve stores.lookup (some fact.id) fact.bindings).outcome = .ok endpoints) :
    ∃ normal : Endpoints Object, normal.Normal ∧ normal.SuppliedBy stores.lookup ∧
      stores.recordWith fact endpoints = stores.recordWith fact normal := by
  have filled := resolve_ok_iff.mp resolved
  cases sound : endpoints.isCorrupt with
  | false =>
    have normal := filled.normal stores.lookup_faithful sound
    exact ⟨endpoints, normal, filled.supplied stores.lookup_faithful, rfl⟩
  | true =>
    cases endpoints <;> simp only [Endpoints.isCorrupt, Bool.false_eq_true] at sound
    refine ⟨.empty, trivial, ?_, rfl⟩
    intro object atEnd
    rcases atEnd with atEnd | atEnd <;> cases atEnd

theorem endpoints_recordWith {normal : Endpoints Object} (isNormal : normal.Normal)
    (stores : Stores) (fact : StoredFact) :
    (stores.recordWith fact normal).endpoints = normal := isNormal.ofParts_eq

theorem read_toStored {stores : Stores} {fact : StoredFact} {record : FactRecord}
    (done : (stores.read fact).outcome = .ok record) :
    stores.read record.toStored = ⟨[], .ok record⟩ := by
  obtain ⟨endpoints, resolved, rfl⟩ := read_ok_iff.mp done
  obtain ⟨normal, isNormal, supplied, same⟩ := exists_normal_of_resolved resolved
  rw [same]
  let stored : StoredFact := { fact.toFactHead with bindings := normal.bindings }
  have written : (stores.recordWith fact normal).toStored = stored := by
    unfold FactRecord.toStored
    rw [endpoints_recordWith isNormal]
    rfl
  obtain ⟨again, -⟩ := isNormal.resolve_bindings supplied (some stored.id)
  have readAgain : stores.read stored = _ := read_of_resolved again
  rw [written, readAgain, Endpoints.diagnostic_eq_none isNormal.sound]
  rfl

end FactGraph.Stores
