import FactGraph.Fact.Record

namespace FactGraph

inductive CriteriaField where
  | factTypeId
  | originId
  | organizationId
  | accessMode
  | confidence
  deriving Repr, DecidableEq

def CriteriaField.wireName : CriteriaField → String
  | .factTypeId => "fact_type_id"
  | .originId => "origin_id"
  | .organizationId => "organization_id"
  | .accessMode => "access_mode"
  | .confidence => "confidence"

structure MissingField where
  field : CriteriaField
  deriving Repr, DecidableEq

def MissingField.message (missing : MissingField) : String :=
  "Missing required field for existence search: " ++ missing.field.wireName

structure Criteria where
  factTypeId : Uuid
  originId : Uuid
  organizationId : Uuid
  accessMode : String
  confidence : Binary64
  factValue : Json := .null
  inReferenceTo : Option Uuid := none
  objects : List (Uuid × String) := []
  deriving DecidableEq

structure CriteriaDraft where
  factTypeId : Option Uuid := none
  originId : Option Uuid := none
  organizationId : Option Uuid := none
  accessMode : Option String := none
  confidence : Option Binary64 := none
  factValue : Json := .null
  inReferenceTo : Option Uuid := none
  objects : List (Uuid × String) := []

namespace CriteriaDraft

def require {α : Type} (field : CriteriaField) : Option α → Except MissingField α
  | none => .error ⟨field⟩
  | some a => .ok a

def check (draft : CriteriaDraft) : Except MissingField Criteria := do
  let factTypeId ← require .factTypeId draft.factTypeId
  let originId ← require .originId draft.originId
  let organizationId ← require .organizationId draft.organizationId
  let accessMode ← require .accessMode draft.accessMode
  let confidence ← require .confidence draft.confidence
  pure
    { factTypeId, originId, organizationId, accessMode, confidence
      factValue := draft.factValue
      inReferenceTo := draft.inReferenceTo
      objects := draft.objects }

end CriteriaDraft

namespace FactRecord

def toCriteria (record : FactRecord) : Except MissingField Criteria :=
  CriteriaDraft.check
    { factTypeId := record.typeId
      originId := record.originId
      organizationId := record.organizationId
      accessMode := record.accessMode.map (·.wireName)
      confidence := record.confidence
      factValue := record.value
      inReferenceTo := record.inReferenceToId
      objects := record.endpoints.directions.map fun (object, direction) =>
        (object.id, direction.wireName) }

end FactRecord

end FactGraph
