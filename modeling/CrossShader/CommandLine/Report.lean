import CrossShader.CommandLine.Invocation
import CrossShader.Naga.Binding
import CrossShader.Text.Styling

/-!
What a command does: the status it ends with, what it writes to its two streams, the files and the
runs it leaves behind. A conversion that fails is reported on the error stream; a fault that no
command foresees ends it as it is. The streams are no terminals, so messages lose their styles.
-/
namespace CrossShader.CommandLine
open Text

/-- The world of a command: its files, the compiler's runs, the variables and the executables that
can be found. -/
structure World where
  files : Files
  host : Naga.Host
  env : Environment
  tools : List Text
  deriving Repr

structure Report where
  exit : Status
  stdout : Text
  stderr : Text
  escaped : Option Fault
  files : Files
  host : Naga.Host
  deriving Repr

namespace Report

def good : Status := .whole 0

def bad : Status := .whole 1

def misused : Status := .whole 2

def opening (w : World) : Report := ⟨good, [], [], none, w.files, w.host⟩

def stop (status : Status) (r : Report) : Report := { r with exit := status }

def escape (f : Fault) (r : Report) : Report := { r with exit := bad, escaped := some f }

def say (t : Text) (r : Report) : Report :=
  match Utf8.encode (dropStyles t) with
  | .ok _ => { r with stdout := r.stdout ++ dropStyles t }
  | .error e => r.escape (.ofCause (.encoding e))

def log (t : Text) (r : Report) : Report := { r with stderr := r.stderr ++ spellSurrogates t }

def complain (t : Text) (r : Report) : Report := r.log (dropStyles t)

def misuse (m : Misuse) (r : Report) : Report :=
  (r.complain (text "Error: " ++ m.message ++ text "\n")).stop misused

def faultText (debug : Bool) (f : Fault) : Text :=
  dropStyles (text "✗ " ++ f.cause.className ++ text ": " ++ f.cause.message ++ text "\n") ++
    if debug then text "\nTraceback:\n" else []

def fail (debug : Bool) (f : Fault) (r : Report) : Report :=
  (r.log (faultText debug f)).stop f.exitStatus

def logLine (e : LogEntry) : Text :=
  e.level.name ++ text ":" ++ e.logger ++ text ":" ++ e.message ++ text "\n"

def adopt (debug : Bool) (host : Naga.Host) (r : Report) : Report :=
  let r := if debug then r.log (host.log.flatMap logLine) else r
  { r with host := host }

end Report

/-- A name given on the command line goes before that of the environment, unless it is empty. -/
def settingsFor (naga : Option Text) (env : Environment) : Except Fault Naga.Settings := do
  let b ← Naga.Settings.ofEnvironment env
  match naga with
  | some name => .ok (if name.isEmpty then b else { b with executable := name })
  | none => .ok b

def save (fs : Files) (p : Path) (output : Text) : Except Fault Files :=
  match fs.makeDirectories p.parent with
  | .error e => .error (.ofCause (.system e))
  | .ok fs =>
    match Utf8.encode output with
    | .error e => .error (.ofCause (.encoding e))
    | .ok bytes => (fs.write p bytes).mapError fun e => .ofCause (.system e)

/-- What is left of the files when `save` fails: directories stay. -/
def afterSave (fs : Files) (p : Path) : Files :=
  match fs.makeDirectories p.parent with
  | .ok fs => fs
  | .error _ => fs

def deliver (order : ConvertOrder) (output : Text) (r : Report) : Report :=
  match order.output with
  | none => r.say output
  | some p =>
    match save r.files p output with
    | .error f => { r with files := afterSave r.files p }.escape f
    | .ok fs => { r with files := fs }.complain (text "✓ Saved: " ++ p.render ++ text "\n")

def finish (debug : Bool) (order : ConvertOrder) (answer : Except Fault Outcome) (r : Report) :
    Report :=
  match answer with
  | .error f => if f.cause.isOrdinary then r.fail debug f else r.escape f
  | .ok (.failed e) =>
    (r.complain (text "✗ Conversion failed:\n" ++ e ++ text "\n")).stop Report.bad
  | .ok (.converted output) => deliver order output r

/-- A conversion from file to stream or file. The settings are looked at first, then the executable,
then the source. -/
def runConvert (debug : Bool) (order : ConvertOrder) (w : World) (r : Report) : Report :=
  match settingsFor order.naga w.env with
  | .error f => r.fail debug f
  | .ok b =>
    if !w.tools.contains b.executable then r.misuse (.ofError (.missingTool b.executable))
    else match r.files.readText order.file with
      | .error cause => r.fail debug (.ofCause cause)
      | .ok code =>
        let request : Request := ⟨code, order.source, order.target, order.stage⟩
        let (answer, host) := Conversion.convert b.library request r.host
        finish debug order answer (r.adopt debug host)

def deprecation : Text := text "DeprecationWarning: The command 'legacy' is deprecated.\n"

def runNormalize (file : Path) (stage : Text) (r : Report) : Report :=
  match r.files.readText file with
  | .error cause => r.escape (.ofCause cause)
  | .ok source => r.say (Normal.normalize (Stage.resolve stage).name source ++ text "\n")

def dialectList : Text :=
  let line (title : Text) (names : List Text) : Text :=
    title ++ text ": " ++ join (text ", ") names ++ text "\n"
  line (text "source") (SourceDialect.all.map (·.name)) ++
    line (text "target") (TargetDialect.all.map (·.name)) ++
    line (text "stage") (Stage.all.map (·.name))

def versionLines : Text :=
  [text "Python", text "pydantic", text "typer", text "fastapi", text "uvicorn"].flatMap
    fun name => name ++ text ": <version>\n"

def nagaLine (answer : Except Fault Text) : Except Fault Text :=
  match answer with
  | .ok version => .ok version
  | .error f =>
    match f.cause with
    | .conversion (.unavailable d) => .ok (text "<not installed> (" ++ d ++ text ")")
    | .conversion (.library d) => .ok (text "<error> (" ++ d ++ text ")")
    | _ => .error f

def runDoctor (debug : Bool) (naga : Option Text) (w : World) (r : Report) : Report :=
  let r := r.say versionLines
  let (answer, host) := match settingsFor naga w.env with
    | .error f => (.error f, r.host)
    | .ok b => b.version r.host
  let r := r.adopt debug host
  match nagaLine answer with
  | .ok shown => r.say (text "naga: " ++ shown ++ text "\n")
  | .error f => r.escape f

def perform (i : Invocation) (w : World) : Report :=
  let r := Report.opening w
  match i.command with
  | .convert order => runConvert i.debug order w r
  | .legacy order => runConvert i.debug order w (r.complain deprecation)
  | .normalize file stage => runNormalize file stage r
  | .dialects => r.say dialectList
  | .doctor naga => runDoctor i.debug naga w r

def run (words : List Text) (w : World) : Report :=
  match Invocation.ofWords w.files words with
  | .error (.misuse m) => (Report.opening w).misuse m
  | .error (.fault cause) => (Report.opening w).escape (.ofCause cause)
  | .ok i => perform i w

end CrossShader.CommandLine
