import FactGraph.Batch
import FactGraph.Json.Display

namespace FactGraph.Report

def object : Option Object → Text
  | none => "-"
  | some object =>
    if object.value.isBlank then object.id.text
    else object.value.display ++ " (" ++ object.id.text ++ ")"

def endpoints (record : FactRecord) : Text :=
  object record.source ++ (if record.isBidirectional then " <-> " else " -> ") ++
    object record.destination

def row (record : FactRecord) : Text :=
  let value : Text := if record.value.isBlank then "" else record.value.display
  record.id.text ++ " | " ++ value ++ " | " ++ endpoints record ++
    if record.isRetracted then " [RETRACTED]" else ""

def numberText : Option Binary64 → String
  | none => "None"
  | some number => number.text

def flagsText (record : FactRecord) : String :=
  if record.flags.toList.isEmpty then "-"
  else ", ".intercalate (record.flags.toList.map (·.wireName))

def listed (heading : Text) (items : List Text) : List Text :=
  if items.isEmpty then [] else "" :: heading :: items

def fieldLines (record : FactRecord) : List Text :=
  [ "Fact: " ++ record.id.text,
    String.ofList (List.replicate 50 '='),
    "  Type:          " ++ Uuid.optionText record.typeId,
    "  Value:         " ++ record.value.display,
    "  Organization:  " ++ Uuid.optionText record.organizationId,
    "  Origin:        " ++ Uuid.optionText record.originId,
    "  Access mode:   " ++ (record.accessMode.map (·.wireName)).getD "-",
    "  Confidence:    " ++ numberText record.confidence,
    "  Trust:         " ++ numberText record.trust,
    "  Source:        " ++ object record.source,
    "  Destination:   " ++ object record.destination,
    "  Bidirectional: " ++ (if record.isBidirectional then "True" else "False"),
    "  Flags:         " ++ flagsText record ]

def recordLines (record : FactRecord) : List Text :=
  fieldLines record ++
  listed "ACL:" (record.acl.map fun entry => "  • " ++ entry.subjectId.text) ++
  listed "COMMENTS:" (record.comments.map fun comment =>
    "  • [" ++ toString comment.timestamp ++ "] " ++ comment.text.display)

def record (record : FactRecord) : Text := .intercalate "\n" (recordLines record)

def auditHeading : List Text :=
  ["factrecord — Binding Audit", String.ofList (List.replicate 70 '='), ""]

def statistics (processed converted corrupt failed : Nat) : List Text :=
  [ "",
    "STATISTICS:",
    "  Facts processed: " ++ toString processed,
    "  Converted:       " ++ toString converted,
    "  Corrupt:         " ++ toString corrupt,
    "  Failed:          " ++ toString failed ]

def auditLines (batch : Batch) : List Text :=
  auditHeading ++ batch.records.map row ++
  statistics batch.total batch.records.length batch.corrupt.length batch.failures.length ++
  listed "CORRUPT BINDINGS:" (batch.corrupt.map fun diagnostic =>
    "  • [" ++ diagnostic.problem.wireName ++ "] " ++ diagnostic.message) ++
  listed "FAILURES:" (batch.failures.map fun failure =>
    "  • " ++ failure.factId.text ++ ": " ++ failure.reason)

def diagnosticWarning (diagnostic : Diagnostic) : String :=
  "WARNING factrecord.resolution.binding_resolver: " ++ diagnostic.message

def skippedWarning (failure : Failure) : String :=
  "WARNING factrecord.conversion.fact_converter: Skipping Fact " ++ failure.factId.text ++ ": " ++
    failure.reason

def warning : Notice → String
  | .corrupt diagnostic => diagnosticWarning diagnostic
  | .skipped failure => skippedWarning failure

end FactGraph.Report
