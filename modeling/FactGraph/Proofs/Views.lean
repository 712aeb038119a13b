import FactGraph.Fact.Criteria
import FactGraph.Fact.Document
import FactGraph.Proofs.FirstFault
import FactGraph.Published

namespace FactGraph

/-- Whether a lookup answers from a list of Objects alone: with one of them that has the id, if there
    is one. -/
structure AnswersFrom {ε : Type} (lookup : Uuid → Except ε (Option Object))
    (objects : List Object) : Prop where
  listed : ∀ id object, lookup id = .ok (some object) → object ∈ objects ∧ object.id = id
  complete : ∀ object ∈ objects, ∃ found, lookup object.id = .ok (some found)

theorem lookupIn_answersFrom (objects : List Object) : AnswersFrom (lookupIn objects) objects := by
  constructor
  · intro id object looked
    exact ⟨List.mem_of_find?_eq_some (Except.ok.inj looked), lookupIn_faithful objects id object looked⟩
  · intro object member
    have found : (objects.find? (·.id = object.id)).isSome := by
      rw [List.find?_isSome]
      exact ⟨object, member, decide_eq_true rfl⟩
    obtain ⟨first, same⟩ := Option.isSome_iff_exists.mp found
    exact ⟨first, congrArg Except.ok same⟩

theorem AnswersFrom.supplies {ε : Type} {lookup : Uuid → Except ε (Option Object)}
    {stores : Stores} {endpoints : Endpoints Object} (alone : AnswersFrom lookup endpoints.ends)
    (normal : endpoints.Normal) (kept : endpoints.SuppliedBy stores.lookup) :
    endpoints.SuppliedBy lookup := by
  intro object atEnd
  obtain ⟨found, looked⟩ := alone.complete object (normal.mem_ends_iff.mpr atEnd)
  obtain ⟨listed, same⟩ := alone.listed _ _ looked
  have first := kept found (normal.mem_ends_iff.mp listed)
  rw [same, kept object atEnd] at first
  cases first
  exact looked

def FactDocument.bindings (document : FactDocument) : List Binding :=
  document.objects.map fun object => ⟨object.id, object.direction⟩

namespace FactRecord

variable (record : FactRecord)

theorem toDocument_bindings : record.toDocument.bindings = record.toStored.bindings := by
  unfold FactDocument.bindings toDocument toStored Endpoints.bindings
  rw [List.map_map]
  rfl

theorem toDocument_ends : record.toDocument.objects.map (·.toObject) = record.endpoints.ends := by
  unfold toDocument Endpoints.ends
  rw [List.map_map]
  rfl

end FactRecord

theorem Stores.mem_flagsOf_iff {stores : Stores} {factId : Uuid} :
    Flag.retractedHint ∈ stores.flagsOf factId ↔
      ∃ indexed, stores.getDocument factId = some indexed ∧ indexed.isRetracted = true := by
  unfold flagsOf
  cases stores.getDocument factId with
  | none => simp
  | some document => cases retracted : document.isRetracted <;> simp [retracted]

structure Published.Fact.Shows (published : Published.Fact)
    (originOf : Uuid → Option Published.Origin) (head : FactHead) : Prop where
  id : published.id = head.id
  typeId : published.typeId = head.typeId
  value : published.value = head.value
  inReferenceTo : published.inReferenceTo = head.inReferenceToId
  organizationId : published.organizationId = head.organizationId
  origin : published.origin = head.originId.bind originOf
  accessMode : published.accessMode = head.accessMode.map (·.wireName)
  confidence : published.confidence = head.confidence
  trust : published.trust = head.trust
  timestamp : published.timestamp = head.timestamp
  lastSeenTimestamp : published.lastSeenTimestamp = head.lastSeenTimestamp

structure Criteria.AsksFor (criteria : Criteria) (head : FactHead) : Prop where
  factTypeId : some criteria.factTypeId = head.typeId
  originId : some criteria.originId = head.originId
  organizationId : some criteria.organizationId = head.organizationId
  accessMode : some criteria.accessMode = head.accessMode.map (·.wireName)
  confidence : some criteria.confidence = head.confidence
  factValue : criteria.factValue = head.value
  inReferenceTo : criteria.inReferenceTo = head.inReferenceToId

theorem CriteriaDraft.require_ok_iff {α : Type} {field : CriteriaField} {given : Option α} {a : α} :
    require field given = .ok a ↔ some a = given := by
  cases given <;> simp [require, eq_comm]

theorem FactRecord.toCriteria_ok {record : FactRecord} {criteria : Criteria}
    (asked : record.toCriteria = .ok criteria) :
    criteria.AsksFor record.toFactHead ∧
      criteria.objects = record.endpoints.directions.map fun (object, direction) =>
        (object.id, direction.wireName) := by
  simp only [toCriteria, CriteriaDraft.check, bind_ok_iff, CriteriaDraft.require_ok_iff] at asked
  obtain ⟨typeId, hasType, originId, hasOrigin, organizationId, hasOrganization, mode, hasMode,
    confidence, hasConfidence, made⟩ := asked
  cases made
  exact ⟨⟨hasType, hasOrigin, hasOrganization, hasMode, hasConfidence, rfl, rfl⟩, rfl⟩

namespace Published

def view (originOf : Uuid → Option Origin) (record : FactRecord) : Fact :=
  ofRecord (m := Id) originOf record

variable {originOf : Uuid → Option Origin} {record : FactRecord}

theorem view_shows : (view originOf record).Shows originOf record.toFactHead := by
  have origin : (view originOf record).origin = record.originId.bind originOf := by
    change findOrigin (m := Id) originOf record.originId = _
    cases record.originId <;> rfl
  exact ⟨rfl, rfl, rfl, rfl, rfl, origin, rfl, rfl, rfl, rfl, rfl⟩

theorem mem_flags_view_iff :
    "RetractedHint" ∈ (view originOf record).flags ↔ record.isRetracted = true := by
  change _ ∈ record.flags.toList.map (·.wireName) ↔ decide (Flag.retractedHint ∈ record.flags) = true
  rw [List.mem_map, decide_eq_true_eq]
  constructor
  · rintro ⟨flag, member, -⟩
    cases flag
    exact member
  · intro member
    exact ⟨_, member, rfl⟩

end Published

namespace Stores

/-- The stored form, the search document, the criteria and the published form of a Fact that has been
    read say the same. -/
theorem views_agree {stores : Stores} {fact : StoredFact} {record : FactRecord}
    (read : (stores.read fact).outcome = .ok record)
    (originOf : Uuid → Option Published.Origin) :
    let document := record.toDocument
    let published := Published.view originOf record
    (∀ {ε : Type} (lookup : Uuid → Except ε (Option Object)) (factId : Option Uuid),
        AnswersFrom lookup (document.objects.map (·.toObject)) →
        ∃ endpoints, (resolve lookup factId document.bindings).outcome = .ok endpoints ∧
          (resolve lookup factId document.bindings).diagnostics = [] ∧
          endpoints.source? = published.source ∧
          endpoints.destination? = published.destination ∧
          endpoints.isBidirectional = published.isBidirectional) ∧
      record.toStored.bindings = document.bindings ∧
      (∀ criteria, record.toCriteria = .ok criteria →
        criteria.objects = document.bindings.map (fun binding =>
            (binding.objectId, binding.direction.wireName)) ∧
          criteria.AsksFor document.toFactHead) ∧
      ("RetractedHint" ∈ published.flags ↔ document.isRetracted = true) ∧
      (document.isRetracted = true ↔
        ∃ indexed, stores.getDocument fact.id = some indexed ∧ indexed.isRetracted = true) ∧
      record.toStored.toFactHead = document.toFactHead ∧
      published.Shows originOf document.toFactHead := by
  obtain ⟨resolved, done, rfl⟩ := read_ok_iff.mp read
  obtain ⟨normal, isNormal, kept, same⟩ := exists_normal_of_resolved done
  rw [same]
  intro document published
  have endpoints := endpoints_recordWith isNormal stores fact
  have bindings : document.bindings = normal.bindings := by
    rw [← endpoints]
    exact FactRecord.toDocument_bindings _
  refine ⟨?_, (FactRecord.toDocument_bindings _).symm, ?_, Published.mem_flags_view_iff, ?_, rfl,
    Published.view_shows⟩
  · intro ε lookup factId alone
    rw [FactRecord.toDocument_ends, endpoints] at alone
    obtain ⟨outcome, silent⟩ :=
      isNormal.resolve_bindings (alone.supplies isNormal kept) factId
    rw [bindings]
    exact ⟨normal, outcome, silent, rfl, rfl, rfl⟩
  · intro criteria asked
    obtain ⟨asks, objects⟩ := FactRecord.toCriteria_ok asked
    rw [endpoints] at objects
    rw [objects, bindings, Endpoints.bindings, List.map_map]
    exact ⟨rfl, asks⟩
  · rw [← mem_flagsOf_iff]
    exact decide_eq_true_iff

theorem views_agree_of_mixed_pair :
    let first : Object := { id := ⟨1⟩, value := .text "x.example.org" }
    let second : Object := { id := ⟨2⟩, value := .int 7 }
    let stores := Stores.empty.run
      [ .saveObject first, .saveObject second,
        .indexDocument { id := ⟨9⟩, isRetracted := true } ]
    let fact : StoredFact :=
      { id := ⟨9⟩
        accessMode := some .roleBased
        bindings := [⟨⟨1⟩, .factIsSource⟩, ⟨⟨2⟩, .biDirectional⟩] }
    ∃ record, (stores.read fact).outcome = .ok record ∧
      (∃ endpoints,
        (resolve (lookupIn [first, second]) none record.toDocument.bindings).outcome =
            .ok endpoints ∧
          endpoints.source? = some first ∧ endpoints.destination? = some second ∧
          endpoints.isBidirectional = true) ∧
      "RetractedHint" ∈ (Published.view (fun _ => none) record).flags ∧
      (Published.view (fun _ => none) record).accessMode = some "RoleBased" := by
  intro first second stores fact
  let record := stores.recordWith fact (.bidirectional first second)
  have read : (stores.read fact).outcome = .ok record := rfl
  have alone : AnswersFrom (lookupIn [first, second])
      (record.toDocument.objects.map (·.toObject)) := lookupIn_answersFrom [first, second]
  obtain ⟨resolves, -, -, hinted, retracted, -, shows⟩ := views_agree read fun _ => none
  obtain ⟨endpoints, outcome, -, source, destination, bothWays⟩ := resolves _ none alone
  exact ⟨record, read, ⟨endpoints, outcome, source, destination, bothWays⟩,
    hinted.mpr (retracted.mpr ⟨_, rfl, rfl⟩), shows.accessMode⟩

end Stores

end FactGraph
