import CrossShader.Decimal.Binary64
import CrossShader.Fault

/-!
What a run needs of the system that starts it. The words of a command are handed over as bytes that
end with a null character, and the wait for the end of a run is asked for in milliseconds. A word or
a wait that does not fit is a fault which nothing turns into a failure of the run.
-/
namespace CrossShader.Naga
open Text

/-- The number of milliseconds that is not below `mantissa * 2 ^ exponent` seconds. -/
def milliseconds (mantissa : Nat) (exponent : Int) : Nat :=
  let scaled := Binary64.descale (-exponent) (1000 * mantissa) 1
  (scaled.1 + scaled.2 - 1) / scaled.2

/-- A wait is first a whole number of milliseconds, then one of nanoseconds in a word of 64 bits. -/
def longWait (milliseconds : Nat) : Text :=
  match Binary64.ofInt milliseconds with
  | .finite _ _ _ =>
    if milliseconds * 1000000 < Nat.pow 2 63 then text "timeout is too large"
    else text "timestamp too large to convert to C _PyTime_t"
  | _ => text "cannot convert float infinity to integer"

/-- A wait that is over when it begins always fits. -/
def waitFault? (longestWait : Nat) : Binary64 → Option Cause
  | .nan => some (.value (text "cannot convert float NaN to integer"))
  | .infinite negative =>
    if negative then none else some (.overflow (text "cannot convert float infinity to integer"))
  | .finite negative mantissa exponent =>
    if !negative && longestWait < milliseconds mantissa exponent then
      some (.overflow (longWait (milliseconds mantissa exponent)))
    else none

/-- Runs are started by the system, or by something that stands in for it and takes every run. The
longest wait that can be asked for is a number of milliseconds; what passes before it is asked for
adds to it. -/
inductive Launcher where
  | standIn
  | system (longestWait : Nat)
  deriving DecidableEq, Repr

namespace Launcher

/-- Milliseconds are given in a signed word of 32 bits. -/
def posix : Launcher := system (Nat.pow 2 31 - 1)

def commandFault? : Launcher → List Text → Option Cause
  | standIn, _ => none
  | system _, words => words.findSome? wordFault?

def timeoutFault? : Launcher → Binary64 → Option Cause
  | standIn, _ => none
  | system longestWait, timeout => waitFault? longestWait timeout

end Launcher
end CrossShader.Naga
