import CrossShader.Decimal.Binary64
import CrossShader.Text.Basic

/-!
Decimal texts of double precision numbers: the fewest digits that read back as the same number,
and the nearest number of a given count of digits. Which exponents are written out is decided by a
style.
-/
namespace CrossShader

/-- Significant digits and the power of ten of the first one: `digits` over
`10 ^ (width - 1)`, times `10 ^ exponent`. -/
structure Decimal where
  digits : Nat
  exponent : Int
  deriving DecidableEq, Repr

namespace Decimal

structure Style where
  leastPositional : Int
  firstScientific : Int
  keepsPoint : Bool
  deriving DecidableEq, Repr

def magnitude (num den : Nat) : Int :=
  let guess : Int := (Binary64.decimalWidth num : Int) - (Binary64.decimalWidth den : Int)
  match guess with
  | .ofNat e => if num < den * Nat.pow 10 e then guess - 1 else guess
  | .negSucc e => if num * Nat.pow 10 (e + 1) < den then guess - 1 else guess

def shift (power : Int) (num den : Nat) : Nat × Nat :=
  match power with
  | .ofNat e => (num, den * Nat.pow 10 e)
  | .negSucc e => (num * Nat.pow 10 (e + 1), den)

def trimmed (n : Nat) (power : Int) : Decimal :=
  let digits := (Nat.toDigits 10 n).reverse.dropWhile (· == '0')
  let kept := n / Nat.pow 10 (Binary64.decimalWidth n - digits.length)
  ⟨kept, power + Binary64.decimalWidth n - 1⟩

def nearest (width : Nat) (num den : Nat) : Decimal :=
  let power := magnitude num den - (width : Int) + 1
  let scaled := shift power num den
  trimmed (Binary64.roundRatio scaled.1 scaled.2) power

/-- `a / b` is among the numbers that round to `mantissa * 2 ^ exponent`: no further below it than
half the gap to its lower neighbour and no further above than half the gap to the upper one. -/
def readsBack (mantissa : Nat) (exponent : Int) (a b : Nat) : Bool :=
  let narrow := mantissa = Binary64.fullMantissa && Binary64.leastExponent < exponent
  let low := if narrow then 4 * mantissa - 1 else 4 * mantissa - 2
  let high := 4 * mantissa + 2
  let scaled := Binary64.descale (exponent - 2) a b
  if mantissa % 2 = 0 then low * scaled.2 ≤ scaled.1 && scaled.1 ≤ high * scaled.2
  else low * scaled.2 < scaled.1 && scaled.1 < high * scaled.2

/--
The neighbour of the value on the grid of `width` digits that reads back. Of two it is the nearer,
and the even one in a tie.
-/
def onGrid? (mantissa : Nat) (exponent : Int) (width : Nat) : Option Decimal :=
  let value := Binary64.descale (-exponent) mantissa 1
  let power := magnitude value.1 value.2 - (width : Int) + 1
  let scaled := shift power value.1 value.2
  let below := scaled.1 / scaled.2
  let hits (n : Nat) : Bool :=
    let point := shift (-power) n 1
    readsBack mantissa exponent point.1 point.2
  let prefersAbove := Binary64.roundRatio scaled.1 scaled.2 = below + 1
  if hits below && !(prefersAbove && hits (below + 1)) then some (trimmed below power)
  else if hits (below + 1) then some (trimmed (below + 1) power)
  else none

/-- The fewest digits that read back. Seventeen always do. -/
def shortest (mantissa : Nat) (exponent : Int) : Decimal :=
  let value := Binary64.descale (-exponent) mantissa 1
  ((List.range 17).findSome? fun n => onGrid? mantissa exponent (n + 1)).getD
    (nearest 17 value.1 value.2)

def digitText (d : Decimal) : Text := Text.ofNat d.digits

def zeros (n : Nat) : Text := List.replicate n 48

def positional (s : Style) (d : Decimal) : Text :=
  let digits := digitText d
  match d.exponent with
  | .negSucc e => text "0." ++ zeros e ++ digits
  | .ofNat e =>
    let whole := digits.take (e + 1)
    let fraction := digits.drop (e + 1)
    whole ++ zeros (e + 1 - whole.length) ++
      (if fraction.isEmpty then if s.keepsPoint then text ".0" else [] else text "." ++ fraction)

def scientific (d : Decimal) : Text :=
  let digits := digitText d
  let power := Text.ofNat d.exponent.natAbs
  digits.take 1 ++ (if digits.length ≤ 1 then [] else text "." ++ digits.drop 1) ++
    text "e" ++ (if d.exponent < 0 then text "-" else text "+") ++
    zeros (2 - power.length) ++ power

def render (s : Style) (d : Decimal) : Text :=
  if s.leastPositional ≤ d.exponent && d.exponent < s.firstScientific then positional s d
  else scientific d

end Decimal

namespace Binary64

/-- Numbers as settings and records show them: a whole number keeps its point, and positional
notation ends at ten to the sixteenth. -/
def recordStyle : Decimal.Style := ⟨-4, 16, true⟩

/-- Numbers in running text: six digits, no idle point. -/
def proseStyle : Decimal.Style := ⟨-4, 6, false⟩

def proseDigits : Nat := 6

def sign (negative : Bool) : Text := if negative then text "-" else []

def spell (style : Decimal.Style) (digitsOf : Nat → Int → Decimal) : Binary64 → Text
  | nan => text "nan"
  | infinite negative => sign negative ++ text "inf"
  | finite negative mantissa exponent =>
    sign negative ++
      if mantissa = 0 then Decimal.positional style ⟨0, 0⟩
      else Decimal.render style (digitsOf mantissa exponent)

def record (x : Binary64) : Text := spell recordStyle Decimal.shortest x

def prose (x : Binary64) : Text :=
  spell proseStyle
    (fun mantissa exponent =>
      let value := descale (-exponent) mantissa 1
      Decimal.nearest proseDigits value.1 value.2) x

end Binary64
end CrossShader
