import FactGraph.Json.Basic
import FactGraph.Number.Notation
import FactGraph.Text.Quoted

namespace FactGraph.Json

mutual

/-- A value as it is quoted in messages: texts stand between quotes and the constants have capital
    initials. -/
def literal : Json → String
  | .null => "None"
  | .bool value => if value then "True" else "False"
  | .int value => toString value
  | .float value => value.text
  | .text value => Text.quoted value
  | .list items => "[" ++ literalItems items ++ "]"
  | .object members => "\x7b" ++ literalMembers members ++ "\x7d"

def literalItems : List Json → String
  | [] => ""
  | [item] => literal item
  | item :: items => literal item ++ ", " ++ literalItems items

def literalMembers : List (Text × Json) → String
  | [] => ""
  | [(key, value)] => Text.quoted key ++ ": " ++ literal value
  | (key, value) :: members =>
    Text.quoted key ++ ": " ++ literal value ++ ", " ++ literalMembers members

end

def display : Json → Text
  | .text value => value
  | value => value.literal

end FactGraph.Json
