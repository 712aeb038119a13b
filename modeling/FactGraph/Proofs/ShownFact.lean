import FactGraph.Proofs.BatchContents
import FactGraph.Proofs.IdText
import FactGraph.Proofs.RunEndings

namespace FactGraph

namespace Report

/-- The two sides of a Fact and what is said of it, as far as both a row and a full text show it. -/
structure Ends where
  source : Text
  destination : Text
  isBidirectional : Bool
  isRetracted : Bool

def endsOf (record : FactRecord) : Ends where
  source := object record.source
  destination := object record.destination
  isBidirectional := record.isBidirectional
  isRetracted := record.isRetracted

namespace Ends

def inRow (ends : Ends) : Text :=
  ends.source ++ (if ends.isBidirectional then " <-> " else " -> ") ++ ends.destination ++
    if ends.isRetracted then " [RETRACTED]" else ""

def lines (ends : Ends) : List Text :=
  [ "  Source:        " ++ ends.source,
    "  Destination:   " ++ ends.destination,
    "  Bidirectional: " ++ (if ends.isBidirectional then "True" else "False"),
    "  Flags:         " ++ (if ends.isRetracted then "RetractedHint" else "-") ]

end Ends

theorem row_eq (record : FactRecord) :
    row record = record.id.text ++ " | " ++
      (if record.value.isBlank then .plain "" else record.value.display) ++ " | " ++
        (endsOf record).inRow := by
  unfold row endpoints Ends.inRow
  simp only [Text.append_assoc]
  rfl

theorem flagsText_eq (record : FactRecord) :
    flagsText record = if record.isRetracted then "RetractedHint" else "-" := by
  have flags : record.flags = if record.isRetracted then .ofList [.retractedHint] else .empty := by
    apply SortedSet.eq_of_mem_iff
    intro flag
    cases flag
    unfold FactRecord.isRetracted
    by_cases hinted : Flag.retractedHint ∈ record.flags
    · simp [hinted, SortedSet.mem_ofList]
    · simp [hinted, SortedSet.not_mem_empty]
  unfold flagsText
  rw [flags]
  cases record.isRetracted <;> rfl

theorem recordLines_eq (record : FactRecord) :
    ∃ before after, before.length = 9 ∧
      recordLines record = before ++ (endsOf record).lines ++ after := by
  refine ⟨(recordLines record).take 9, (recordLines record).drop 13, rfl, ?_⟩
  unfold recordLines fieldLines
  rw [flagsText_eq]
  rfl

end Report

namespace Dump

def Decodes (bytes : List UInt8) (json : Json) : Prop :=
  ∃ text, Text.decodeUtf8 bytes = .ok text ∧ Json.read (unifyLines text) = .ok json

theorem Decodes.ofBytes_eq {bytes : List UInt8} {json : Json} (decoded : Decodes bytes json) :
    ofBytes bytes = ofJson json := by
  obtain ⟨text, isText, parsed⟩ := decoded
  simp [ofBytes, isText, parsed, Except.mapError, bind, Except.bind]

theorem entry_stored {json : Json} {dump : Dump} (accepted : ofJson json = .ok dump) :
    ∀ entry ∈ json.items "facts",
      ∃ id, entry.idUnder "id" = some id ∧ dump.toStores.getFact id ≠ none := by
  have stored : ∀ fact ∈ dump.facts, dump.toStores.getFact fact.id ≠ none := by
    intro fact member absent
    unfold Stores.getFact at absent
    rw [toStores_eq, Table.get?_ofList, List.getLast?_eq_none_iff, List.filter_eq_nil_iff] at absent
    exact absent fact member (decide_eq_true rfl)
  have agree : ∀ (entry : Json) (fact : StoredFact), entry.SpellsFact fact →
      ((∃ id, entry.idUnder "id" = some id ∧ dump.toStores.getFact id ≠ none) ↔
        dump.toStores.getFact fact.id ≠ none) := by
    intro entry fact spelt
    simp [spelt.id]
  exact (forall_mem_iff_of_forall₂ (ofJson_ok accepted).2 agree).mpr stored

end Dump

namespace Command

inductive Shown (batch : Batch) (id : Uuid) (run : Run) : Prop
  | record (record : FactRecord)
    (only : batch.records.filter (·.id = id) = [record])
    (unfailed : batch.failures.filter (·.factId = id) = [])
    (printed : run.printed = [Report.record record])
    (ending : run.ending = .exit 0)
  | failure (failure : Failure)
    (unread : batch.records.filter (·.id = id) = [])
    (only : batch.failures.filter (·.factId = id) = [failure])
    (printed : run.printed = ["ERROR: " ++ failure.reason])
    (ending : run.ending = .exit 1)
  | unknown
    (unread : batch.records.filter (·.id = id) = [])
    (unfailed : batch.failures.filter (·.factId = id) = [])
    (printed : run.printed = ["Fact not found: " ++ id.text])
    (ending : run.ending = .exit 1)

theorem showFact_shown (stores : Stores) {spelling : Text} {id : Uuid}
    (spelt : Uuid.ofText? spelling = some id) :
    Shown stores.readStored id (showFact stores spelling) := by
  have records := stores.filter_records_readStored id
  have failures := stores.filter_failures_readStored id
  unfold showFact
  simp only [spelt]
  cases found : stores.getFact id with
  | none =>
    rw [found] at records failures
    exact .unknown records failures rfl rfl
  | some fact =>
    rw [found, Option.bind_some] at records failures
    unfold Stores.record? at records
    unfold Stores.failure? at failures
    cases outcome : (stores.read fact).outcome with
    | ok record =>
      simp only [outcome] at records failures ⊢
      exact .record record records failures rfl rfl
    | error missing =>
      simp only [outcome] at records failures ⊢
      exact .failure _ records failures rfl rfl

theorem error_ne_not_found (reason text : String) :
    "ERROR: " ++ reason ≠ "Fact not found: " ++ text := by
  intro same
  have first := congrArg (fun line => line.toList.head?) same
  simp at first

namespace Shown

variable {batch : Batch} {id : Uuid} {run : Run} (shown : Shown batch id run)

include shown

theorem ending_zero_iff :
    run.ending = .exit 0 ↔ ∃ record ∈ batch.records, record.id = id := by
  have listed : (∃ record ∈ batch.records, record.id = id) ↔
      batch.records.filter (·.id = id) ≠ [] := by
    simp [List.filter_eq_nil_iff]
  rw [listed]
  cases shown with
  | record record only unfailed printed ending => simp [ending, only]
  | failure failure unread only printed ending => simp [ending, unread]
  | unknown unread unfailed printed ending => simp [ending, unread]

theorem error_iff (reason : String) :
    run.printed = ["ERROR: " ++ reason] ∧ run.ending = .exit 1 ↔
      ∃ failure ∈ batch.failures, failure.factId = id ∧ failure.reason = reason := by
  have listed : (∃ failure ∈ batch.failures, failure.factId = id ∧ failure.reason = reason) ↔
      ∃ failure ∈ batch.failures.filter (·.factId = id), failure.reason = reason := by
    simp [List.mem_filter, and_assoc]
  rw [listed]
  cases shown with
  | record record only unfailed printed ending => simp [ending, unfailed]
  | failure failure unread only printed ending => simp [printed, ending, only]
  | unknown unread unfailed printed ending =>
    simp [printed, (error_ne_not_found reason id.text).symm, unfailed]

theorem not_found_iff :
    run.printed = ["Fact not found: " ++ id.text] ∧ run.ending = .exit 1 ↔
      (¬ ∃ record ∈ batch.records, record.id = id) ∧
        ¬ ∃ failure ∈ batch.failures, failure.factId = id := by
  have unread : (¬ ∃ record ∈ batch.records, record.id = id) ↔
      batch.records.filter (·.id = id) = [] := by
    simp [List.filter_eq_nil_iff]
  have unfailed : (¬ ∃ failure ∈ batch.failures, failure.factId = id) ↔
      batch.failures.filter (·.factId = id) = [] := by
    simp [List.filter_eq_nil_iff]
  rw [unread, unfailed]
  cases shown with
  | record record only unfailed printed ending => simp [ending, only]
  | failure failure unread only printed ending =>
    simp [printed, error_ne_not_found, only]
  | unknown unread unfailed printed ending => simp [printed, ending, unread, unfailed]

theorem same_ends (success : run.ending = .exit 0) :
    ∃ record, batch.records.filter (·.id = id) = [record] ∧
      (∃ value, Report.row record =
        id.text ++ " | " ++ value ++ " | " ++ (Report.endsOf record).inRow) ∧
      ∃ before after, before.length = 9 ∧
        run.printed = [.intercalate "\n" (before ++ (Report.endsOf record).lines ++ after)] := by
  cases shown with
  | record record only unfailed printed ending =>
    have owner : record.id = id := by
      have member : record ∈ batch.records.filter (·.id = id) := by simp [only]
      exact of_decide_eq_true (List.mem_filter.mp member).2
    obtain ⟨before, after, long, lines⟩ := Report.recordLines_eq record
    have row := Report.row_eq record
    rw [owner] at row
    refine ⟨record, only, ⟨_, row⟩, before, after, long, ?_⟩
    rw [printed, Report.record, lines]
  | failure failure unread only printed ending => simp [ending] at success
  | unknown unread unfailed printed ending => simp [ending] at success

end Shown

theorem showFact_eq_of_spelt (stores : Stores) {left right : Text} {id : Uuid}
    (first : Uuid.ofText? left = some id) (second : Uuid.ofText? right = some id) :
    showFact stores left = showFact stores right := by
  unfold showFact
  rw [first, second]

def danglingBytes : List UInt8 :=
  dumpWith "bindings" (asciiBytes
    "[\x7b\"direction\":\"FactIsSource\",\"object_id\":\"0000000000000000000000000000000b\"\x7d]")

def danglingDump : Dump := { facts := [{ id := ⟨1⟩, bindings := [⟨⟨11⟩, .factIsSource⟩] }] }

end Command

end FactGraph
