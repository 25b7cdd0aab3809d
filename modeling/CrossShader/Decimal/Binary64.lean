/-!
Double precision numbers as exact values: a sign, a mantissa below 2^53 and a power of two. Rounding
goes to the nearest such number, a tie to the one with an even mantissa.
-/
namespace CrossShader

/-- A finite number is `mantissa * 2 ^ exponent`. The mantissa has 53 binary digits unless the
exponent is the least one. -/
inductive Binary64 where
  | nan
  | infinite (negative : Bool)
  | finite (negative : Bool) (mantissa : Nat) (exponent : Int)
  deriving DecidableEq, Repr

namespace Binary64

def leastExponent : Int := -1074

def greatestExponent : Int := 971

def fullMantissa : Nat := 0x10000000000000

def zero (negative : Bool) : Binary64 := finite negative 0 leastExponent

def isPositive : Binary64 → Bool
  | nan => false
  | infinite negative => !negative
  | finite negative mantissa _ => !negative && mantissa != 0

/-- The whole number nearest to `num / den`, of two equally near ones the even one. -/
def roundRatio (num den : Nat) : Nat :=
  let quotient := num / den
  let twice := 2 * (num % den)
  if twice < den then quotient
  else if den < twice then quotient + 1
  else quotient + quotient % 2

def descale (exponent : Int) (num den : Nat) : Nat × Nat :=
  match exponent with
  | .ofNat e => (num, den <<< e)
  | .negSucc e => (num <<< (e + 1), den)

def exponentFor (num den : Nat) : Int :=
  let guess : Int := (num.log2 : Int) - (den.log2 : Int) - 52
  let scaled := descale guess num den
  max leastExponent (if scaled.1 / scaled.2 < fullMantissa then guess - 1 else guess)

def ofRatio (negative : Bool) (num den : Nat) : Binary64 :=
  if num = 0 then zero negative
  else
    let exponent := exponentFor num den
    let scaled := descale exponent num den
    let mantissa := roundRatio scaled.1 scaled.2
    let carried := mantissa = 2 * fullMantissa
    let exponent := if carried then exponent + 1 else exponent
    if greatestExponent < exponent then infinite negative
    else finite negative (if carried then fullMantissa else mantissa) exponent

def decimalWidth (n : Nat) : Nat := (Nat.toDigits 10 n).length

/-- The number nearest to `digits * 10 ^ exponent`. Powers of ten far outside the range are not
built. -/
def ofDecimal (negative : Bool) (digits : Nat) (exponent : Int) : Binary64 :=
  if digits = 0 then zero negative
  else
    let magnitude := exponent + decimalWidth digits
    if 310 < magnitude then infinite negative
    else if magnitude < -330 then zero negative
    else match exponent with
      | .ofNat e => ofRatio negative (digits * Nat.pow 10 e) 1
      | .negSucc e => ofRatio negative digits (Nat.pow 10 (e + 1))

def ofInt (n : Int) : Binary64 := ofRatio (n < 0) n.natAbs 1

def toInt? : Binary64 → Option Int
  | finite negative mantissa exponent =>
    let scaled := descale (-exponent) mantissa 1
    if scaled.1 % scaled.2 = 0 then
      let n : Int := (scaled.1 / scaled.2 : Nat)
      some (if negative then -n else n)
    else none
  | _ => none

end Binary64
end CrossShader
