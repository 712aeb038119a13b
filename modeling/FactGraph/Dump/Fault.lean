import FactGraph.Json.Display
import FactGraph.Json.Number
import FactGraph.Json.Reader
import FactGraph.Text.Utf8
import FactGraph.Uuid.Basic

namespace FactGraph.Dump

inductive Place where
  | dump
  | object
  | unnamedFact
  | fact (id : Uuid)
  | binding (factId : Uuid)
  | aclEntry
  | comment
  | retracted
  deriving DecidableEq

def Place.name : Place → String
  | .dump => "dump"
  | .object => "object"
  | .unnamedFact => "fact"
  | .fact id => "fact " ++ id.text
  | .binding factId => "binding of fact " ++ factId.text
  | .aclEntry => "acl entry"
  | .comment => "comment"
  | .retracted => "retracted"

inductive NumberKind where
  | integer
  | float
  deriving Repr, DecidableEq

def NumberKind.name : NumberKind → String
  | .integer => "int"
  | .float => "float"

inductive FormatFault where
  | notUtf8 (fault : Text.Utf8Fault)
  | notJson (fault : Json.SyntaxFault)
  | notObject
  | missingKey (key : String) (place : Place)
  | notList (key : String) (place : Place)
  | entriesNotObjects (key : String) (place : Place)
  | invalidId (place : Place) (value : Json)
  | invalidNumber (kind : NumberKind) (place : Place) (value : Json)
  | invalidDirection (place : Place) (value : Json)
  | invalidAccessMode (place : Place) (value : Json)
  deriving DecidableEq

def refusal (what : String) (place : Place) (value : Json) : String :=
  "Invalid " ++ what ++ " in " ++ place.name ++ ": " ++ value.literal

def FormatFault.message : FormatFault → String
  | .notUtf8 fault => "Dump is not valid UTF-8: " ++ fault.message
  | .notJson fault => "Dump is not valid JSON: " ++ fault.message
  | .notObject => "Dump must be a JSON object"
  | .missingKey key place => "Missing '" ++ key ++ "' in " ++ place.name
  | .notList key place => "'" ++ key ++ "' in " ++ place.name ++ " must be a list"
  | .entriesNotObjects key place =>
    "Entries of '" ++ key ++ "' in " ++ place.name ++ " must be objects"
  | .invalidId place value => refusal "id" place value
  | .invalidNumber kind place value => refusal kind.name place value
  | .invalidDirection place value => refusal "direction" place value
  | .invalidAccessMode place value => refusal "access_mode" place value

/-- Why a dump is not loaded. A number that overflows is no fault of the format. -/
inductive LoadFault where
  | format (fault : FormatFault)
  | overflow (cause : Overflow)
  deriving DecidableEq

end FactGraph.Dump
