import CrossShader.Decimal.Shortest
import CrossShader.Json.Basic
import CrossShader.Text.Quoted

/-!
Values as messages show them: texts between quotes, lists in brackets, tables in braces.
-/
namespace CrossShader.Json
open Text

mutual

def literal : Json → Text
  | null => text "None"
  | bool true => text "True"
  | bool false => text "False"
  | integer n => ofInt n
  | number x => x.record
  | string t => quoted t
  | array items => text "[" ++ literalItems items ++ text "]"
  | object members => text "\x7b" ++ literalMembers members ++ text "\x7d"

def literalItems : List Json → Text
  | [] => []
  | [v] => literal v
  | v :: rest => literal v ++ text ", " ++ literalItems rest

def literalMembers : List (Text × Json) → Text
  | [] => []
  | [(k, v)] => quoted k ++ text ": " ++ literal v
  | (k, v) :: rest => quoted k ++ text ": " ++ literal v ++ text ", " ++ literalMembers rest

end

end CrossShader.Json
