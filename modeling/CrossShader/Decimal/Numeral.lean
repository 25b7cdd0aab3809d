import CrossShader.Decimal.Binary64
import CrossShader.Text.Lines

/-!
Numbers as people type them: blanks around, a sign, digits of any script, low lines between digits,
and for fractional numbers a point, an exponent and the words for infinity and for no number. Each
script has its ten digits in a row, so the zeros say it all; they are those of Unicode 14.0.
-/
namespace CrossShader.Text

def zeros : List CodePoint := [
  48, 1632, 1776, 1984, 2406, 2534, 2662, 2790, 2918, 3046, 3174, 3302, 3430, 3558, 3664, 3792,
  3872, 4160, 4240, 6112, 6160, 6470, 6608, 6784, 6800, 6992, 7088, 7232, 7248, 42528, 43216,
  43264, 43472, 43504, 43600, 44016, 65296, 66720, 68912, 69734, 69872, 69942, 70096, 70384,
  70736, 70864, 71248, 71360, 71472, 71904, 72016, 72784, 73040, 73120, 92768, 92864, 93008,
  120782, 120792, 120802, 120812, 120822, 123200, 123632, 125264, 130032]

def digitValue? (c : CodePoint) : Option Nat :=
  (zeros.find? fun z => z ≤ c && c ≤ z + 9).map (c - ·)

end CrossShader.Text

namespace CrossShader.Numeral
open Text

/-- The blanks that may surround a number; the information separators are not among them. -/
def isMargin (c : CodePoint) : Bool := isBlank c && !(28 ≤ c && c ≤ 31)

def trim (t : Text) : Text := ((t.dropWhile isMargin).reverse.dropWhile isMargin).reverse

def foldDigits (t : Text) : Text :=
  t.map fun c => match digitValue? c with
    | some d => 48 + d
    | none => c

def isDigit (c : CodePoint) : Bool := 48 ≤ c && c ≤ 57

def lowLine : CodePoint := 95

/-- Takes out the low lines, each of which must stand between two digits. `afterDigit` says whether
a digit stands before the text. -/
def ungroupFrom? (afterDigit : Bool) : Text → Option Text
  | [] => some []
  | c :: rest =>
    if c = lowLine then
      if afterDigit && (rest.head?.map isDigit).getD false then ungroupFrom? false rest else none
    else (ungroupFrom? (isDigit c) rest).map (c :: ·)

def ungroup? (t : Text) : Option Text := ungroupFrom? false t

def valueOf (digits : Text) : Nat := digits.foldl (fun n c => 10 * n + (c - 48)) 0

def splitSign : Text → Bool × Text
  | 43 :: rest => (false, rest)
  | 45 :: rest => (true, rest)
  | t => (false, t)

def readExponent? : Text → Option Int
  | [] => some 0
  | c :: rest =>
    if lowerAscii c ≠ 101 then none
    else
      let (negative, digits) := splitSign rest
      if digits.isEmpty || !digits.all isDigit then none
      else some (if negative then -(valueOf digits : Int) else valueOf digits)

def readDecimal? (negative : Bool) (t : Text) : Option Binary64 := do
  let whole := t.takeWhile isDigit
  let rest := t.dropWhile isDigit
  let (fraction, tail) := match rest with
    | 46 :: r => (r.takeWhile isDigit, r.dropWhile isDigit)
    | r => ([], r)
  if whole.isEmpty && fraction.isEmpty then none
  else
    let exponent ← readExponent? tail
    some (Binary64.ofDecimal negative (valueOf (whole ++ fraction)) (exponent - fraction.length))

def readUnsigned? (negative : Bool) (t : Text) : Option Binary64 :=
  let word := t.map lowerAscii
  if word = text "inf" || word = text "infinity" then some (.infinite negative)
  else if word = text "nan" then some .nan
  else readDecimal? negative t

def readBinary64? (t : Text) : Option Binary64 := do
  let t ← ungroup? (foldDigits (trim t))
  let (negative, t) := splitSign t
  readUnsigned? negative t

inductive IntegerFlaw where
  | malformed
  | tooLong (digits : Nat)
  deriving DecidableEq, Repr

def mostDigits : Nat := 4300

def readInteger (t : Text) : Except IntegerFlaw Int :=
  let (negative, t) := splitSign (foldDigits (trim t))
  match ungroup? (t.takeWhile fun c => isDigit c || c = lowLine) with
  | none => .error .malformed
  | some digits =>
    if mostDigits < digits.length then .error (.tooLong digits.length)
    else if digits.isEmpty || t.any fun c => !(isDigit c || c = lowLine) then .error .malformed
    else .ok (if negative then -(valueOf digits : Int) else valueOf digits)

def IntegerFlaw.message (shown : Text) : IntegerFlaw → Text
  | malformed => text "invalid literal for int() with base 10: " ++ shown.take 200
  | tooLong digits =>
    text "Exceeds the limit (" ++ ofNat mostDigits ++
      text " digits) for integer string conversion: value has " ++ ofNat digits ++
      text " digits; use sys.set_int_max_str_digits() to increase the limit"

end CrossShader.Numeral
