import CrossShader.Decimal.Binary64
import CrossShader.Text.Quoted
import CrossShader.Text.Utf8

/-!
What can go wrong, by cause. Faults of a conversion are those that a conversion reports as data; all
others pass through it. Every cause has a class name and a text.
-/
namespace CrossShader
open Text

inductive SystemError where
  | described (message : Text)
  | numbered (number : Int) (reason : Text) (file : Option Text)
  deriving DecidableEq, Repr

namespace SystemError

def classNames : List (Int × Text) :=
  [(1, text "PermissionError"), (2, text "FileNotFoundError"), (3, text "ProcessLookupError"),
    (4, text "InterruptedError"), (10, text "ChildProcessError"), (11, text "BlockingIOError"),
    (13, text "PermissionError"), (17, text "FileExistsError"), (20, text "NotADirectoryError"),
    (21, text "IsADirectoryError"), (32, text "BrokenPipeError"),
    (103, text "ConnectionAbortedError"), (104, text "ConnectionResetError"),
    (108, text "BrokenPipeError"), (110, text "TimeoutError"),
    (111, text "ConnectionRefusedError"), (114, text "BlockingIOError"),
    (115, text "BlockingIOError")]

def className : SystemError → Text
  | described _ => text "OSError"
  | numbered n _ _ => (classNames.lookup n).getD (text "OSError")

def message : SystemError → Text
  | described m => m
  | numbered n reason file =>
    text "[Errno " ++ ofInt n ++ text "] " ++ reason ++
      match file with
      | some f => text ": " ++ quoted f
      | none => []

def notFound (file : Text) : SystemError :=
  numbered 2 (text "No such file or directory") (some file)

def alreadyThere (file : Text) : SystemError := numbered 17 (text "File exists") (some file)

def notADirectory (file : Text) : SystemError := numbered 20 (text "Not a directory") (some file)

def isADirectory (file : Text) : SystemError := numbered 21 (text "Is a directory") (some file)

def nameTooLong (file : Text) : SystemError := numbered 36 (text "File name too long") (some file)

end SystemError

namespace Utf8

def span (start count : Nat) : Text :=
  if count ≤ 1 then ofNat start else ofNat start ++ text "-" ++ ofNat (start + count - 1)

def EncodeError.message (e : EncodeError) : Text :=
  (if e.length ≤ 1 then text "'utf-8' codec can't encode character '" ++ numericEscape e.first ++
      text "' in position "
    else text "'utf-8' codec can't encode characters in position ") ++
    span e.start e.length ++ text ": surrogates not allowed"

def Flaw.reason : Flaw → Text
  | badStart => text "invalid start byte"
  | badContinuation => text "invalid continuation byte"
  | cutShort => text "unexpected end of data"

def DecodeError.message (e : DecodeError) : Text :=
  (if e.width ≤ 1 then text "'utf-8' codec can't decode byte 0x" ++ hex 2 e.first.toNat ++
      text " in position "
    else text "'utf-8' codec can't decode bytes in position ") ++
    span e.start e.width ++ text ": " ++ e.flaw.reason

end Utf8

inductive ConversionFault where
  | general (message : Text)
  | library (diagnostic : Text)
  | unavailable (diagnostic : Text)
  | parse (message diagnostic : Text) (normalized : Option Text)
  | validation (message : Text)
  | unsupportedTarget (target : Text)
  | generation (message : Text)
  deriving DecidableEq, Repr

namespace ConversionFault

def className : ConversionFault → Text
  | general _ => text "ConversionError"
  | library _ => text "IRLibraryError"
  | unavailable _ => text "IRLibraryUnavailable"
  | parse _ _ _ => text "ParseFailure"
  | validation _ => text "ValidationFailure"
  | unsupportedTarget _ => text "UnsupportedTargetDialect"
  | generation _ => text "GenerationFailure"

def message : ConversionFault → Text
  | general m => m
  | library d => d
  | unavailable d => d
  | parse m _ _ => m
  | validation m => m
  | unsupportedTarget t => text "Unknown target format: " ++ t
  | generation m => m

def exitStatus : ConversionFault → Nat
  | unavailable _ => 3
  | unsupportedTarget _ => 2
  | _ => 1

end ConversionFault

/-- What went wrong. A class that carries nothing but a text is known by its name, and by whether
it stands for a stop by the user. -/
inductive Cause where
  | conversion (fault : ConversionFault)
  | key (key : Text)
  | system (e : SystemError)
  | encoding (e : Utf8.EncodeError)
  | decoding (e : Utf8.DecodeError)
  | exit (message : Text)
  | named (className message : Text) (interrupts : Bool)
  deriving DecidableEq, Repr

namespace Cause

def value (message : Text) : Cause := named (text "ValueError") message false

def internal (message : Text) : Cause := named (text "RuntimeError") message false

def argument (message : Text) : Cause := named (text "TypeError") message false

def overflow (message : Text) : Cause := named (text "OverflowError") message false

def general (message : Text) : Cause := named (text "Exception") message false

def interrupt (message : Text) : Cause := named (text "KeyboardInterrupt") message true

def subInterrupt (message : Text) : Cause := named (text "SubInterrupt") message true

def className : Cause → Text
  | conversion f => f.className
  | key _ => text "KeyError"
  | system e => e.className
  | encoding _ => text "UnicodeEncodeError"
  | decoding _ => text "UnicodeDecodeError"
  | exit _ => text "SystemExit"
  | named name _ _ => name

def message : Cause → Text
  | conversion f => f.message
  | key k => quoted k
  | system e => e.message
  | encoding e => e.message
  | decoding e => e.message
  | exit m => m
  | named _ m _ => m

def isInterrupt : Cause → Bool
  | named _ _ interrupts => interrupts
  | _ => false

def isOrdinary : Cause → Bool
  | exit _ => false
  | c => !c.isInterrupt

end Cause

/-- A surrogate that stands for a byte of a name that is no UTF-8. The system receives the byte. -/
def standsForByte (c : CodePoint) : Bool := 0xDC80 ≤ c && c ≤ 0xDCFF

def isNameable (c : CodePoint) : Bool := isScalar c || standsForByte c

def wordError? (word : Text) : Option Utf8.EncodeError :=
  match word.dropWhile isNameable with
  | [] => none
  | c :: rest =>
    some ⟨c, (word.takeWhile isNameable).length, ((c :: rest).takeWhile (!isScalar ·)).length⟩

/-- Why a word is not handed to the system. The null character is looked for in the bytes, so after
the word is encoded. -/
def wordFault? (word : Text) : Option Cause :=
  match wordError? word with
  | some e => some (.encoding e)
  | none => if word.contains 0 then some (.value (text "embedded null byte")) else none

/--
An exit status of its own that a fault may carry. Only whole numbers and flags can take effect.
-/
inductive Status where
  | whole (n : Int)
  | flag (b : Bool)
  | fractional (x : Binary64)
  | word (t : Text)
  | missing
  deriving DecidableEq, Repr

structure Fault where
  cause : Cause
  status : Option Status
  deriving DecidableEq, Repr

namespace Fault

def ofCause (cause : Cause) : Fault := ⟨cause, none⟩

def ofConversion (fault : ConversionFault) : Fault := ofCause (.conversion fault)

def shownStatus? (f : Fault) : Option Status :=
  match f.status, f.cause with
  | some s, _ => some s
  | none, .conversion c => some (.whole c.exitStatus)
  | none, _ => none

/-- The status with which a command ends; one that is not positive gives way to 1. -/
def exitStatus (f : Fault) : Status :=
  match f.shownStatus? with
  | some (.whole n) => if 0 < n then .whole n else .whole 1
  | some (.flag true) => .flag true
  | _ => .whole 1

end Fault
end CrossShader
