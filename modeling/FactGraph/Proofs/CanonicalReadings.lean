import FactGraph.Proofs.CanonicalBindings
import FactGraph.Proofs.Reading

namespace FactGraph

theorem StoredFact.eq_iff {first second : StoredFact} :
    first = second ↔ first.toFactHead = second.toFactHead ∧ first.bindings = second.bindings := by
  cases first
  cases second
  simp

namespace Stores

variable {stores : Stores} {fact : StoredFact} {record : FactRecord}

theorem bindings_of_read (read : (stores.read fact).outcome = .ok record) :
    record.endpoints.bindings = canonicalForm fact.bindings := by
  obtain ⟨endpoints, resolved, rfl⟩ := read_ok_iff.mp read
  have filled := resolve_ok_iff.mp resolved
  rw [← filled.bindings_eq stores.lookup_faithful]
  cases sound : endpoints.isCorrupt with
  | false =>
    have normal := filled.normal stores.lookup_faithful sound
    rw [endpoints_recordWith normal]
  | true => cases endpoints <;> simp only [Endpoints.isCorrupt, Bool.false_eq_true] at sound; rfl

theorem toStored_eq_iff (read : (stores.read fact).outcome = .ok record) :
    record.toStored = fact ↔ CanonicalList fact.bindings := by
  have head : record.toStored.toFactHead = fact.toFactHead := head_of_read read
  have bindings : record.toStored.bindings = canonicalForm fact.bindings := bindings_of_read read
  rw [StoredFact.eq_iff, bindings, canonicalForm_eq_self_iff]
  exact and_iff_right head

/-- A Fact that is read and stored again is in canonical form, is the same Fact if it was so
    before, and stays as it is when that is done once more. -/
theorem stored_again_canonical (read : (stores.read fact).outcome = .ok record) :
    record.toStored.toFactHead = fact.toFactHead ∧
      CanonicalList record.toStored.bindings ∧
      (record.toStored = fact ↔ CanonicalList fact.bindings) ∧
      ∃ again, (stores.read record.toStored).outcome = .ok again ∧
        again.toStored = record.toStored := by
  have bindings : record.toStored.bindings = canonicalForm fact.bindings := bindings_of_read read
  have canonical : CanonicalList record.toStored.bindings := by
    rw [bindings]
    exact canonical_iff_listed.mp (canonicalForm_canonical fact.bindings)
  have readAgain : (stores.read record.toStored).outcome = .ok record := by
    rw [read_toStored read]
  exact ⟨head_of_read read, canonical, toStored_eq_iff read, record, readAgain, rfl⟩

theorem stored_again_canonical_of_redundant :
    let stores := Stores.empty.run [.saveObject { id := ⟨1⟩, value := .text "x.example.org" }]
    let fact : StoredFact :=
      { id := ⟨9⟩, value := .int 3, bindings := [⟨⟨1⟩, .biDirectional⟩, ⟨⟨1⟩, .factIsSource⟩] }
    ∃ record, (stores.read fact).outcome = .ok record ∧
      record.toStored.value = .int 3 ∧
      CanonicalList record.toStored.bindings ∧
      record.toStored ≠ fact ∧
      ∃ again, (stores.read record.toStored).outcome = .ok again ∧
        again.toStored = record.toStored := by
  intro stores fact
  let object : Object := { id := ⟨1⟩, value := .text "x.example.org" }
  have read : (stores.read fact).outcome =
      .ok (stores.recordWith fact (.reflexive object object)) := rfl
  obtain ⟨head, canonical, same, again⟩ := stored_again_canonical read
  have redundant : ¬ CanonicalList fact.bindings := nofun
  exact ⟨_, read, congrArg FactHead.value head, canonical,
    fun unchanged => redundant (same.mp unchanged), again⟩

end Stores

end FactGraph
