import CrossShader.Decimal.Binary64
import CrossShader.Text.Table

/-!
JSON values. Integers and fractional numbers stay apart, objects keep the order of their members.
An answer can show a value if all its numbers are finite and all its texts have an encoding. Members
under a withheld name are left out of what is shown, whatever they hold.
-/
namespace CrossShader

inductive Json where
  | null
  | bool (b : Bool)
  | integer (n : Int)
  | number (x : Binary64)
  | string (t : Text)
  | array (items : List Json)
  | object (members : List (Text × Json))

namespace Json
open Text

mutual

def isSame : Json → Json → Bool
  | null, null => true
  | bool a, bool b => a == b
  | integer m, integer n => m == n
  | number x, number y => x == y
  | string s, string t => s == t
  | array items, array others => areSame items others
  | object members, object others => membersSame members others
  | _, _ => false

def areSame : List Json → List Json → Bool
  | [], [] => true
  | v :: rest, w :: others => isSame v w && areSame rest others
  | _, _ => false

def membersSame : List (Text × Json) → List (Text × Json) → Bool
  | [], [] => true
  | (name, v) :: rest, (other, w) :: others => name == other && isSame v w && membersSame rest others
  | _, _ => false

end

mutual

theorem isSame_iff (v w : Json) : isSame v w = true ↔ v = w := by
  cases v with
  | array items =>
    cases w with
    | array others => simp [isSame, areSame_iff items others]
    | _ => simp [isSame]
  | object members =>
    cases w with
    | object others => simp [isSame, membersSame_iff members others]
    | _ => simp [isSame]
  | _ => cases w <;> simp [isSame]

theorem areSame_iff (items others : List Json) :
    areSame items others = true ↔ items = others := by
  cases items with
  | nil => cases others <;> simp [areSame]
  | cons v rest =>
    cases others with
    | nil => simp [areSame]
    | cons w others => simp [areSame, isSame_iff v w, areSame_iff rest others]

theorem membersSame_iff (members others : List (Text × Json)) :
    membersSame members others = true ↔ members = others := by
  cases members with
  | nil => cases others <;> simp [membersSame]
  | cons m rest =>
    obtain ⟨name, v⟩ := m
    cases others with
    | nil => simp [membersSame]
    | cons n others =>
      simp [membersSame, isSame_iff v n.2, membersSame_iff rest others, Prod.ext_iff]

end

instance : DecidableEq Json := fun v w => decidable_of_iff (isSame v w = true) (isSame_iff v w)

def member? (key : Text) : Json → Option Json
  | object members => members.lookup key
  | _ => none

mutual

def isShowable (withheld : Text → Bool) : Json → Bool
  | number .nan => false
  | number (.infinite _) => false
  | string t => t.all isScalar
  | array items => areShowable withheld items
  | object members => membersShowable withheld members
  | _ => true

def areShowable (withheld : Text → Bool) : List Json → Bool
  | [] => true
  | v :: rest => isShowable withheld v && areShowable withheld rest

def membersShowable (withheld : Text → Bool) : List (Text × Json) → Bool
  | [] => true
  | (name, v) :: rest =>
    (withheld name || (name.all isScalar && isShowable withheld v)) &&
      membersShowable withheld rest

end

end Json
end CrossShader
