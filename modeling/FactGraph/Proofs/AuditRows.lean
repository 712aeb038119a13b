import FactGraph.Proofs.AuditMeaning
import FactGraph.Proofs.LineFeeds
import FactGraph.Proofs.RunEndings

namespace FactGraph

open Text

def sideFeeds : Option Object → Nat
  | none => 0
  | some object => object.value.lineFeeds

def FactRecord.lineFeeds (record : FactRecord) : Nat :=
  record.value.lineFeeds + sideFeeds record.source + sideFeeds record.destination

namespace Report

theorem lineFeeds_object (side : Option Object) :
    Text.lineFeeds (object side) = sideFeeds side := by
  cases side with
  | none => rfl
  | some shown =>
    change Text.lineFeeds (if shown.value.isBlank then _ else _) = shown.value.lineFeeds
    split
    · rename_i blank
      rw [shown.id.lineFeeds_text, Json.lineFeeds_of_isBlank blank]
    · rw [lineFeeds_append, lineFeeds_append, lineFeeds_append, shown.id.lineFeeds_text,
        Json.lineFeeds_display]
      rfl

theorem lineFeeds_endpoints (record : FactRecord) :
    Text.lineFeeds (endpoints record) = sideFeeds record.source + sideFeeds record.destination := by
  have arrow :
      Text.lineFeeds (.plain (if record.isBidirectional then " <-> " else " -> ")) = 0 := by
    split <;> rfl
  unfold endpoints
  rw [lineFeeds_append, lineFeeds_append, lineFeeds_object, lineFeeds_object, arrow, Nat.add_zero]

theorem lineFeeds_row (record : FactRecord) : Text.lineFeeds (row record) = record.lineFeeds := by
  have value : Text.lineFeeds (if record.value.isBlank then "" else record.value.display) =
      record.value.lineFeeds := by
    split
    · rename_i blank
      rw [Json.lineFeeds_of_isBlank blank]
      rfl
    · exact record.value.lineFeeds_display
  have mark : Text.lineFeeds (.plain (if record.isRetracted then " [RETRACTED]" else "")) = 0 := by
    split <;> rfl
  have bar : Text.lineFeeds " | " = 0 := rfl
  unfold row FactRecord.lineFeeds
  simp only [lineFeeds_append, record.id.lineFeeds_text, value, mark, bar, lineFeeds_endpoints]
  omega

theorem length_rowLines (records : List FactRecord) :
    (records.flatMap fun record => lines (row record)).length =
      records.length + (records.map FactRecord.lineFeeds).sum := by
  have each (record : FactRecord) : (lines (row record)).length = record.lineFeeds + 1 := by
    rw [length_lines, lineFeeds_row]
  simp only [List.length_flatMap, each, List.sum_map_add, List.map_const', List.sum_replicate_nat]
  omega

theorem rowLines_eq_iff {records : List FactRecord} :
    (records.flatMap fun record => lines (row record)) = records.map row ↔
      ∀ record ∈ records, record.lineFeeds = 0 := by
  constructor
  · intro same record member
    have long := congrArg List.length same
    rw [length_rowLines, List.length_map] at long
    have none : (records.map FactRecord.lineFeeds).sum = 0 := by omega
    exact List.sum_eq_zero_iff.mp none _ (List.mem_map_of_mem member)
  · intro solid
    have rowsSolid : ∀ text ∈ records.map row, Text.lineFeeds text = 0 := by
      intro text shown
      obtain ⟨record, member, rfl⟩ := List.mem_map.mp shown
      rw [lineFeeds_row, solid record member]
    have whole := flatMap_lines rowsSolid
    rw [List.flatMap_map] at whole
    exact whole

theorem lineFeeds_auditHeading : ∀ text ∈ auditHeading, Text.lineFeeds text = 0 := by
  decide +kernel

theorem lineFeeds_statistics (processed converted corrupt failed : Nat) :
    ∀ text ∈ statistics processed converted corrupt failed, Text.lineFeeds text = 0 := by
  have counted {label : String} (solid : Text.lineFeeds label = 0) (n : Nat) :
      Text.lineFeeds (label ++ toString n) = 0 := by
    rw [lineFeeds_append, solid, lineFeeds_nat]
  unfold statistics
  simp only [List.forall_mem_cons, List.not_mem_nil, IsEmpty.forall_iff, implies_true]
  exact ⟨rfl, rfl, counted rfl processed, counted rfl converted, counted rfl corrupt,
    counted rfl failed, trivial⟩

end Report

def Stores.converted (stores : Stores) : List FactRecord :=
  stores.listFacts.filterMap stores.record?

namespace Command

open Report

def Run.output (run : Run) : Text := joined (run.printed.map (· ++ "\n"))

theorem lines_output_audit (stores : Stores) :
    let batch := stores.readStored
    ∃ details, lines (audit stores).output =
      auditHeading ++ stores.converted.flatMap (fun record => lines (row record)) ++
        statistics stores.listFacts.length stores.converted.length batch.corrupt.length
          batch.failures.length ++ details := by
  intro batch
  have counted : batch.records = stores.converted ∧ batch.total = stores.listFacts.length := by
    rw [show batch = _ from stores.readStored_eq]
    exact ⟨rfl, rfl⟩
  obtain ⟨details, printed⟩ := auditLines_eq batch
  rw [counted.1, counted.2] at printed
  refine ⟨details.flatMap lines ++ [.plain ""], ?_⟩
  rw [Run.output, lines_joined, show (audit stores).printed = _ from printed]
  simp only [List.flatMap_append, List.flatMap_map, flatMap_lines lineFeeds_auditHeading,
    flatMap_lines (lineFeeds_statistics _ _ _ _), List.append_assoc]

/-- An audit prints a row for each Fact that is read, in the order of the Facts. A row takes one
    line and one more for each line feed in the values that it shows. -/
theorem audit_row_lines {path : String} {bytes : List UInt8} {dump : Dump}
    (opened : '\x00' ∉ path.toList) (loaded : Dump.ofBytes bytes = .ok dump) :
    let stores := dump.toStores
    let batch := stores.readStored
    let records := stores.converted
    let rows := records.flatMap fun record => lines (row record)
    let run := (Task.audit path).run (.ok bytes)
    (∀ stdout, run.PrintableOn stdout →
        ∃ details, lines (run.on stdout).output =
          auditHeading ++ rows ++
            statistics stores.listFacts.length records.length batch.corrupt.length
              batch.failures.length ++ details) ∧
      (run.PrintableOn .utf8 ↔
        ∀ record ∈ records, ∀ value ∈ record.rowValues, value.display.IsPlain) ∧
      (∀ record, Text.lineFeeds (endpoints record) =
            sideFeeds record.source + sideFeeds record.destination ∧
          Text.lineFeeds (row record) = record.lineFeeds) ∧
      rows.length = records.length + (records.map FactRecord.lineFeeds).sum ∧
      (rows = records.map row ↔ ∀ record ∈ records, record.lineFeeds = 0) := by
  intro stores batch records rows run
  have audited : run = audit stores := @run_of_dump (.audit path) bytes opened dump loaded
  have encodable : (audit stores).PrintableOn .utf8 ↔
      ∀ record ∈ records, ∀ value ∈ record.rowValues, value.display.IsPlain := by
    rw [audit_printableOn_utf8, stores.readStored_eq]
    rfl
  rw [audited]
  refine ⟨fun stdout printable => ?_, encodable,
    fun record => ⟨lineFeeds_endpoints record, lineFeeds_row record⟩, length_rowLines records,
    rowLines_eq_iff⟩
  rw [Run.on_eq_self printable]
  exact lines_output_audit stores

def forgingBytes : List UInt8 :=
  asciiBytes "\x7b\"objects\":[\x7b\"id\":\"0000000000000000000000000000000a\",\"value\":\"" ++
    asciiBytes "x.example.org (00000000-0000-0000-0000-00000000000b) -> -\\n" ++
    asciiBytes "00000000-0000-0000-0000-000000000002 | seen | y.example.org\"\x7d]," ++
    asciiBytes "\"facts\":[\x7b\"id\":\"00000000000000000000000000000001\",\"bindings\":[\x7b" ++
    asciiBytes "\"object_id\":\"0000000000000000000000000000000a\"," ++
    asciiBytes "\"direction\":\"FactIsDestination\"\x7d]\x7d]\x7d"

def forgingObject : Object :=
  { id := ⟨10⟩
    value := .text ("x.example.org (00000000-0000-0000-0000-00000000000b) -> -\n" ++
      "00000000-0000-0000-0000-000000000002 | seen | y.example.org") }

def forgingDump : Dump :=
  { objects := [forgingObject]
    facts := [{ id := ⟨1⟩, bindings := [⟨⟨10⟩, .factIsDestination⟩] }] }

def forgingRecord : FactRecord := { id := ⟨1⟩, source := some forgingObject }

def twoFactDump : Dump :=
  { objects :=
      [ { id := ⟨11⟩, value := .text "x.example.org" },
        { id := ⟨10⟩, value := .text "y.example.org" } ]
    facts :=
      [ { id := ⟨1⟩, bindings := [⟨⟨11⟩, .factIsDestination⟩] },
        { id := ⟨2⟩, value := .text "seen", bindings := [⟨⟨10⟩, .factIsDestination⟩] } ] }

def firstRow : Text :=
  "00000000-0000-0000-0000-000000000001 |  | " ++
    "x.example.org (00000000-0000-0000-0000-00000000000b) -> -"

def secondRow : Text :=
  "00000000-0000-0000-0000-000000000002 | seen | " ++
    "y.example.org (00000000-0000-0000-0000-00000000000a) -> -"

theorem forging_loaded : Dump.ofBytes forgingBytes = .ok forgingDump := by decide +kernel

theorem forging_converted : forgingDump.toStores.converted = [forgingRecord] := rfl

theorem forging_lines : lines (row forgingRecord) = [firstRow, secondRow] := by
  have shown : row forgingRecord = firstRow ++ "\n" ++ secondRow := by decide +kernel
  have first : Text.lineFeeds firstRow = 0 := by decide +kernel
  have second : Text.lineFeeds secondRow = 0 := by decide +kernel
  rw [shown, lines_append_feed, lines_of_lineFeeds_eq_zero first,
    lines_of_lineFeeds_eq_zero second]
  rfl

theorem forging_printable : (audit forgingDump.toStores).PrintableOn .utf8 := by
  unfold Run.PrintableOn
  decide +kernel

theorem audit_row_lines_forged :
    '\x00' ∉ "dump.json".toList ∧ Dump.ofBytes forgingBytes = .ok forgingDump ∧
      ∃ details, lines (((Task.audit "dump.json").run (.ok forgingBytes)).on .utf8).output =
        auditHeading ++ [firstRow, secondRow] ++ statistics 1 1 0 0 ++ details := by
  have opened : '\x00' ∉ "dump.json".toList := by decide
  have plain : ∀ record ∈ forgingDump.toStores.converted,
      ∀ value ∈ record.rowValues, value.display.IsPlain := by decide +kernel
  obtain ⟨rows, encodable, -⟩ := audit_row_lines opened forging_loaded
  obtain ⟨details, printed⟩ := rows .utf8 (encodable.mpr plain)
  rw [forging_converted, List.flatMap_singleton, forging_lines] at printed
  exact ⟨opened, forging_loaded, details, printed⟩

theorem object_value_forges_row :
    Dump.ofBytes forgingBytes = .ok forgingDump ∧
      forgingDump.toStores.converted = [forgingRecord] ∧
      (.char '\n' ∈ (endpoints forgingRecord).points ∧
        .char '\n' ∈ (row forgingRecord).points) ∧
      twoFactDump.toStores.converted.map row = [firstRow, secondRow] ∧
      ∃ details, lines (((Task.audit "dump.json").run (.ok forgingBytes)).on .utf8).output =
        auditHeading ++ [firstRow, secondRow] ++ statistics 1 1 0 0 ++ details := by
  have feeds {text : Text} (one : Text.lineFeeds text = 1) : .char '\n' ∈ text.points := by
    by_contra absent
    rw [lineFeeds_eq_zero_iff.mpr absent] at one
    cases one
  have side : Text.lineFeeds (endpoints forgingRecord) = 1 := by
    rw [lineFeeds_endpoints]
    decide +kernel
  have whole : Text.lineFeeds (row forgingRecord) = 1 := by
    rw [lineFeeds_row]
    decide +kernel
  have rows : twoFactDump.toStores.converted.map row = [firstRow, secondRow] := by
    decide +kernel
  have run : (Task.audit "dump.json").run (.ok forgingBytes) = audit forgingDump.toStores :=
    @run_of_dump (.audit "dump.json") forgingBytes (by decide) forgingDump forging_loaded
  obtain ⟨details, printed⟩ := lines_output_audit forgingDump.toStores
  rw [forging_converted, List.flatMap_singleton, forging_lines,
    ← Run.on_eq_self forging_printable, ← run] at printed
  exact ⟨forging_loaded, forging_converted, ⟨feeds side, feeds whole⟩, rows, details, printed⟩

end Command

end FactGraph
