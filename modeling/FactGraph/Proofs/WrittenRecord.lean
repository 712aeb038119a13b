import FactGraph.Proofs.FirstFault

namespace FactGraph

namespace FactRecord

/-- A record as it is once it has been stored: in both directions with one Object, that Object is on
    both sides, and with none there are no directions. -/
def settled (record : FactRecord) : FactRecord :=
  match record.isBidirectional, record.source, record.destination with
  | false, _, _ => record
  | true, none, none => { record with isBidirectional := false }
  | true, some a, none => { record with destination := some a }
  | true, none, some b => { record with source := some b }
  | true, some a, some b => if a.id = b.id then { record with destination := some a } else record

variable (record : FactRecord)

theorem endpoints_settled :
    record.endpoints.source? = record.settled.source ∧
      record.endpoints.destination? = record.settled.destination ∧
      record.endpoints.isBidirectional = record.settled.isBidirectional := by
  obtain ⟨head, source, destination, isBidirectional, flags, acl, comments⟩ := record
  cases isBidirectional with
  | false => cases source <;> cases destination <;> exact ⟨rfl, rfl, rfl⟩
  | true =>
    cases source with
    | none => cases destination <;> exact ⟨rfl, rfl, rfl⟩
    | some a =>
      cases destination with
      | none => exact ⟨rfl, rfl, rfl⟩
      | some b =>
        by_cases same : a.id = b.id
        · simp [endpoints, settled, Endpoints.ofParts, same, Endpoints.source?,
            Endpoints.destination?, Endpoints.isBidirectional]
        · simp [endpoints, settled, Endpoints.ofParts, same, Endpoints.source?,
            Endpoints.destination?, Endpoints.isBidirectional]

end FactRecord

namespace Stores

variable (stores : Stores) (record : FactRecord)

/-- Writing a record and reading it back gives what is kept of its Objects, and names the first of
    them that is not kept. -/
theorem read_written_record :
    (∀ kept : Object → Object,
      (∀ object ∈ record.endpoints.ends, stores.getObject object.id = some (kept object)) →
        stores.read record.toStored =
          ⟨[], .ok
            { record.toFactHead with
              source := record.settled.source.map kept
              destination := record.settled.destination.map kept
              isBidirectional := record.settled.isBidirectional
              flags := stores.flagsOf record.id
              acl := (stores.fetchAcl record.id).map (·.toAclEntry)
              comments := (stores.fetchComments record.id).map (·.toComment) }⟩) ∧
      ∀ missing : Object,
        record.endpoints.ends.find? (fun object => stores.getObject object.id = none) =
            some missing →
          stores.read record.toStored = ⟨[], .error ⟨missing.id, some record.id⟩⟩ := by
  have normal : record.endpoints.Normal := Endpoints.ofParts_normal _ _ _
  obtain ⟨source, destination, bothWays⟩ := record.endpoints_settled
  constructor
  · intro kept found
    have looked : ∀ object ∈ record.endpoints.ends,
        stores.lookup object.id = .ok (some (kept object)) :=
      fun object atEnd => congrArg Except.ok (found object atEnd)
    have resolved := resolve_ok_iff.mpr (normal.filledBy_map looked (some record.id))
    have silent : (record.endpoints.map kept).diagnostic? = none := by
      rw [Endpoints.diagnostic?_map, Endpoints.diagnostic_eq_none normal.sound]
    have read : stores.read record.toStored = _ := read_of_resolved resolved
    rw [read, silent]
    unfold recordWith
    rw [Endpoints.source?_map, Endpoints.destination?_map, Endpoints.isBidirectional_map, source,
      destination, bothWays]
    rfl
  · intro missing first
    obtain ⟨unknown, before, after, split, known⟩ := List.find?_eq_some_iff_append.mp first
    have failed : (stores.read record.toStored).outcome =
        .error ⟨missing.id, some record.id⟩ := by
      have ends : (Endpoints.ofBindings (some record.toStored.id) record.toStored.bindings).ends =
          record.endpoints.ends.map Object.id := by
        rw [← Endpoints.ends_map, ← normal.ofBindings_bindings]
        rfl
      rw [read_error_iff, ends, split, List.map_append, List.map_cons]
      refine ⟨_, missing.id, _, rfl, ?_, of_decide_eq_true unknown, rfl⟩
      intro id earlier
      obtain ⟨object, atEnd, rfl⟩ := List.mem_map.mp earlier
      simpa using known object atEnd
    rw [← failed, ← read_diagnostics_of_error failed]

theorem read_written_record_of_one_id :
    let object : Object := { id := ⟨1⟩, value := .text "x.example.org" }
    let stores := Stores.empty.run
      [.saveObject object, .indexDocument { id := ⟨7⟩, isRetracted := true }]
    let record : FactRecord :=
      { id := ⟨7⟩
        source := some object
        destination := some { id := ⟨1⟩, value := .text "y.example.org" }
        isBidirectional := true }
    let unknown : FactRecord :=
      { record with source := some { id := ⟨3⟩ }, destination := some { id := ⟨2⟩ } }
    stores.read record.toStored =
        ⟨[], .ok
          { record with destination := some object, flags := .ofList [.retractedHint] }⟩ ∧
      stores.read unknown.toStored = ⟨[], .error ⟨⟨3⟩, some ⟨7⟩⟩⟩ := by
  intro object stores record unknown
  have found : ∀ shown ∈ record.endpoints.ends, stores.getObject shown.id = some (id shown) := by
    intro shown atEnd
    obtain rfl : shown = object := List.mem_singleton.mp atEnd
    rfl
  exact ⟨(read_written_record stores record).1 id found,
    (read_written_record stores unknown).2 { id := ⟨3⟩ } rfl⟩

end Stores

end FactGraph
