/-!
Text as a list of code points. A surrogate may stand alone, so there are more texts than strings.
Sets of code points are ascending lists of closed ranges; membership stops at the first range that
starts above the code point.
-/
namespace CrossShader

abbrev CodePoint := Nat

abbrev Text := List CodePoint

def text (s : String) : Text := s.toList.map Char.toNat

abbrev CharSet := List (CodePoint × CodePoint)

namespace CharSet

def has : CharSet → CodePoint → Bool
  | [], _ => false
  | (lo, hi) :: rest, c => if c < lo then false else if c ≤ hi then true else has rest c

end CharSet

namespace Text

def newline : CodePoint := 10

/-- Surrogates and numbers above U+10FFFF are no scalar values: no encoding has room for them. -/
def isScalar (c : CodePoint) : Bool := c < 0xD800 || (0xDFFF < c && c < 0x110000)

def occurs (pattern : Text) : Text → Bool
  | [] => pattern.isEmpty
  | c :: rest => pattern.isPrefixOf (c :: rest) || occurs pattern rest

/-- Code point order, a proper beginning before what it begins. -/
def precedes : Text → Text → Bool
  | _, [] => false
  | [], _ :: _ => true
  | a :: s, b :: t => a < b || (a == b && precedes s t)

def sorted (ts : List Text) : List Text := ts.mergeSort fun s t => !precedes t s

def join (separator : Text) : List Text → Text
  | [] => []
  | [t] => t
  | t :: rest => t ++ separator ++ join separator rest

def ofNat (n : Nat) : Text := (Nat.toDigits 10 n).map Char.toNat

def ofInt : Int → Text
  | .ofNat n => ofNat n
  | .negSucc n => text "-" ++ ofNat (n + 1)

def lowerAscii (c : CodePoint) : CodePoint := if 65 ≤ c && c ≤ 90 then c + 32 else c

def hex (width n : Nat) : Text :=
  let digits := (Nat.toDigits 16 n).map Char.toNat
  List.replicate (width - digits.length) 48 ++ digits

theorem length_drop_lt {α : Type} (c : α) (rest : List α) (n : Nat) :
    (rest.drop n).length < (c :: rest).length := by
  rw [List.length_drop, List.length_cons]
  omega

end Text
end CrossShader
