import CrossShader.Target
import CrossShader.Text.Table

/-!
The boundary to whatever parses, validates and generates shaders. A library carries a state from
call to call; what a module and a validation record are is its own affair. A recorded library
behaves as the library does and also keeps the calls made.
-/
namespace CrossShader

inductive Level where
  | debug
  | info
  | error
  | critical
  deriving DecidableEq, Repr

def Level.name : Level → Text
  | debug => text "DEBUG"
  | info => text "INFO"
  | error => text "ERROR"
  | critical => text "CRITICAL"

structure LogEntry where
  level : Level
  logger : Text
  message : Text
  deriving DecidableEq, Repr

/--
Modules of type `M`, validation records of type `I`, a state of type `S`. `note` keeps an entry of
the log.
-/
structure Library (S M I : Type) where
  note : LogEntry → S → S
  parse : Text → SourceDialect → Text → Table Text → S → Except Fault M × S
  validate : M → S → Except Fault I × S
  generate : M → I → TargetOptions → PipelineOptions → S → Except Fault Text × S

inductive Call (M I : Type) where
  | parse (source : Text) (dialect : SourceDialect) (stage : Text) (defines : Table Text)
  | validate (module : M)
  | generate (module : M) (info : I) (target : TargetOptions) (pipeline : PipelineOptions)
  deriving DecidableEq, Repr

namespace Library
variable {S M I : Type}

/-- The calls so far, the latest last. -/
abbrev Recorded (S M I : Type) := S × List (Call M I)

def keep {α : Type} (calls : List (Call M I)) (call : Call M I) (answer : α × S) :
    α × Recorded S M I :=
  (answer.1, answer.2, calls ++ [call])

def recorded (library : Library S M I) : Library (Recorded S M I) M I where
  note entry := fun (s, calls) => (library.note entry s, calls)
  parse source dialect stage defines := fun (s, calls) =>
    keep calls (.parse source dialect stage defines) (library.parse source dialect stage defines s)
  validate module := fun (s, calls) =>
    keep calls (.validate module) (library.validate module s)
  generate module info target pipeline := fun (s, calls) =>
    keep calls (.generate module info target pipeline)
      (library.generate module info target pipeline s)

end Library
end CrossShader
