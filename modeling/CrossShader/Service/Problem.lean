import CrossShader.Json.Basic

/-!
What is wrong with a body, and where. Problems are gathered, not thrown one by one: a reader reports
all it finds, in the order of its fields.
-/
namespace CrossShader.Service

inductive Complaint where
  | missing
  | notText
  | textTooShort
  | textNotUnicode
  | notFlag
  | flagUnreadable
  | extra
  | notObject (model : Text)
  | noFields
  | notJson
  deriving DecidableEq, Repr

namespace Complaint

def kind : Complaint → Text
  | missing => text "missing"
  | notText => text "string_type"
  | textTooShort => text "string_too_short"
  | textNotUnicode => text "string_unicode"
  | notFlag => text "bool_type"
  | flagUnreadable => text "bool_parsing"
  | extra => text "extra_forbidden"
  | notObject _ => text "model_type"
  | noFields => text "model_attributes_type"
  | notJson => text "json_invalid"

def message : Complaint → Text
  | missing => text "Field required"
  | notText => text "Input should be a valid string"
  | textTooShort => text "String should have at least 1 character"
  | textNotUnicode =>
    text "Input should be a valid string, unable to parse raw data as a unicode string"
  | notFlag => text "Input should be a valid boolean"
  | flagUnreadable => text "Input should be a valid boolean, unable to interpret input"
  | extra => text "Extra inputs are not permitted"
  | notObject model => text "Input should be a valid dictionary or instance of " ++ model
  | noFields => text "Input should be a valid dictionary or object to extract fields from"
  | notJson => text "JSON decode error"

end Complaint

inductive Place where
  | key (name : Text)
  | offset (n : Nat)
  deriving DecidableEq, Repr

structure Problem where
  complaint : Complaint
  path : List Place
  deriving DecidableEq, Repr

namespace Problem

def under (place : Place) (p : Problem) : Problem := { p with path := place :: p.path }

/-- What a problem of the value `whole` is about: what stands at its place, or, if a member is
missing, the value that lacks it. A text that is no JSON has nothing to show. -/
def subject (whole : Json) (p : Problem) : Json :=
  match p.complaint, p.path with
  | .missing, _ => whole
  | .notJson, _ => .object []
  | _, .key name :: _ => (whole.member? name).getD .null
  | _, _ => whole

end Problem

abbrev Checked (α : Type) := Except (List Problem) α

namespace Checked
variable {α β : Type}

def problems : Checked α → List Problem
  | .ok _ => []
  | .error ps => ps

def both : Checked α → Checked β → Checked (α × β)
  | .ok a, .ok b => .ok (a, b)
  | x, y => .error (problems x ++ problems y)

def andNone (x : Checked α) (more : List Problem) : Checked α :=
  match x, more with
  | .ok a, [] => .ok a
  | x, more => .error (problems x ++ more)

end Checked
end CrossShader.Service
