import CrossShader.Adapter
import CrossShader.Digest
import CrossShader.Normal.Source

/-!
One shader from one dialect to another. The source is normalized if it is GLSL, then parsed,
validated and generated; the first fault ends the conversion. Faults of a conversion become a failed
outcome, all others escape.
-/
namespace CrossShader
open Text

structure Request where
  code : Text
  source : Text
  target : Text
  stage : Text
  deriving DecidableEq, Repr

inductive Outcome where
  | converted (output : Text)
  | failed (error : Text)
  deriving DecidableEq, Repr

namespace Outcome

def success : Outcome → Bool
  | converted _ => true
  | failed _ => false

def output : Outcome → Text
  | converted t => t
  | failed _ => []

def error : Outcome → Text
  | converted _ => []
  | failed t => t

end Outcome

namespace Request

def prepared (r : Request) : Text :=
  match SourceDialect.resolve r.source with
  | .wgsl => r.code
  | .glsl => Normal.normalize (Stage.resolve r.stage).name r.code

end Request

namespace Conversion
variable {S M I : Type}

def logger : Text := text "shader_converter.application.use_cases"

def entry (level : Level) (message : Text) : LogEntry := ⟨level, logger, message⟩

def errorText : ConversionFault → Text
  | .unavailable d => text "IR library unavailable: " ++ d
  | fault => fault.message

def failureEntry : ConversionFault → LogEntry
  | .unavailable d => entry .info (text "IR library unavailable: " ++ d)
  | fault => entry .info (text "conversion failed: " ++ fault.className)

def carryOut (library : Library S M I) (r : Request) (s : S) : Except Fault Text × S :=
  let stage := (Stage.resolve r.stage).name
  match library.parseSource r.prepared r.source stage [] s with
  | (.error fault, s) => (.error fault, s)
  | (.ok module, s) =>
    match library.validateModule module (library.note (entry .debug (text "parsed module")) s) with
    | (.error fault, s) => (.error fault, s)
    | (.ok info, s) =>
      library.generateTarget module info r.target stage
        (library.note (entry .debug (text "validated module")) s)

def conclude (note : LogEntry → S → S) (r : Request) :
    Except Fault Text × S → Except Fault Outcome × S
  | (.ok output, s) =>
    (.ok (.converted output),
      note (entry .debug (text "generated " ++ r.target ++ text " output")) s)
  | (.error fault, s) =>
    match fault.cause with
    | .conversion f => (.ok (.failed (errorText f)), note (failureEntry f) s)
    | _ => (.error fault, s)

def startEntry (r : Request) : LogEntry :=
  entry .debug
    (text "normalized " ++ r.source ++ text " source for " ++ (Stage.resolve r.stage).name ++
      text " stage")

def convert (library : Library S M I) (r : Request) (s : S) : Except Fault Outcome × S :=
  conclude library.note r (carryOut library r (library.note (startEntry r) s))

/-- Opens the library as the first step of the conversion, whose fault counts as one of it. -/
def convertOpening (note : LogEntry → S → S) (library? : Except Fault (Library S M I)) (r : Request)
    (s : S) : Except Fault Outcome × S :=
  match library? with
  | .ok library => convert library r s
  | .error fault => conclude note r (.error fault, note (startEntry r) s)

end Conversion
end CrossShader
