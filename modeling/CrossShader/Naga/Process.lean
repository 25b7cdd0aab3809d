import CrossShader.Decimal.Shortest
import CrossShader.Library
import CrossShader.Naga.Launcher
import CrossShader.Naga.Settings
import CrossShader.Text.Lines

/-!
Runs of the shader compiler. A run ends with an exit status, is cut off by the timeout or never
starts. The host keeps how the runs to come will end, the runs so far and the log, and it knows what
starts them. A run whose command or timeout does not fit the launcher ends in a fault of its own.
-/
namespace CrossShader.Naga
open Text

structure Exit where
  code : Int
  stdout : Bytes
  stderr : Bytes
  output : Option Bytes
  deriving DecidableEq, Repr

def Exit.quiet : Exit := ⟨0, [], [], none⟩

inductive Culprit where
  | executable
  | file (name : Text)
  | nothing
  deriving DecidableEq, Repr

inductive Launch where
  | described (message : Text)
  | numbered (number : Int) (reason : Text) (culprit : Culprit)
  deriving DecidableEq, Repr

def Launch.error (executable : Text) : Launch → SystemError
  | described m => .described m
  | numbered n reason .executable => .numbered n reason (some executable)
  | numbered n reason (.file f) => .numbered n reason (some f)
  | numbered n reason .nothing => .numbered n reason none

inductive Ending where
  | exited (e : Exit)
  | timedOut
  | refused (launch : Launch)
  deriving DecidableEq, Repr

structure Run where
  command : List Text
  timeout : Binary64
  input : Option Text
  deriving DecidableEq, Repr

structure Host where
  endings : List Ending
  runs : List Run
  log : List LogEntry
  modules : Nat
  launcher : Launcher
  deriving Repr

/-- What the binding hears of a run. One that was started and cannot be waited for is given up. -/
def Launcher.hear (l : Launcher) (timeout : Binary64) : Ending → Except Cause Ending
  | .refused launch => .ok (.refused launch)
  | ending =>
    match l.timeoutFault? timeout with
    | some cause => .error cause
    | none => .ok ending

namespace Host

def openingOn (launcher : Launcher) (endings : List Ending) : Host := ⟨endings, [], [], 0, launcher⟩

def opening : List Ending → Host := openingOn .standIn

def note (entry : LogEntry) (h : Host) : Host := { h with log := h.log ++ [entry] }

/-- The host after the next run, and how that run ended. Runs nobody has foreseen end quietly. -/
def take (run : Run) (h : Host) : Ending × Host :=
  match h.endings with
  | [] => (.exited .quiet, { h with runs := h.runs ++ [run] })
  | ending :: rest => (ending, { h with endings := rest, runs := h.runs ++ [run] })

def launch (run : Run) (h : Host) : Except Cause Ending × Host :=
  match h.launcher.commandFault? run.command with
  | some cause => (.error cause, h)
  | none =>
    let (ending, h) := h.take run
    (h.launcher.hear run.timeout ending, h)

end Host

def logger : Text := text "shader_converter.infrastructure.naga_cli"

def streamText (bytes : Bytes) : Text := unifyLineEnds (Utf8.decodeLossy bytes)

/-- What a failed run says of itself: its error stream, else its output stream, else its status. -/
def Exit.diagnostic (e : Exit) : Text :=
  let errors := strip (streamText e.stderr)
  let output := strip (streamText e.stdout)
  if !errors.isEmpty then errors
  else if !output.isEmpty then output
  else text "naga exited with status " ++ ofInt e.code

def complaint (diagnostic : Text) : Fault := .ofConversion (.library diagnostic)

namespace Settings

def launchFault (b : Settings) (launch : Launch) : Fault :=
  .ofConversion (.unavailable
    (text "cannot run '" ++ b.executable ++ text "': " ++ (launch.error b.executable).message ++
      text ". Install it with: cargo install naga-cli"))

def timeoutFault (b : Settings) : Fault :=
  complaint (text "naga timed out after " ++ b.timeout.prose ++ text "s")

def runEntry (command : List Text) : LogEntry :=
  ⟨.debug, logger, text "running " ++ join (text " ") command⟩

def start (b : Settings) (arguments : List Text) (input : Option Text) (h : Host) :
    Except Fault Exit × Host :=
  let command := b.executable :: arguments
  match (h.note (runEntry command)).launch ⟨command, b.timeout, input⟩ with
  | (.ok (.exited e), h) => (.ok e, h)
  | (.ok .timedOut, h) => (.error b.timeoutFault, h)
  | (.ok (.refused launch), h) => (.error (b.launchFault launch), h)
  | (.error cause, h) => (.error (.ofCause cause), h)

def version (b : Settings) (h : Host) : Except Fault Text × Host :=
  match b.start [text "--version"] none h with
  | (.error fault, h) => (.error fault, h)
  | (.ok e, h) =>
    if e.code = 0 then (.ok (strip (streamText e.stdout)), h)
    else (.error (complaint e.diagnostic), h)

end Settings
end CrossShader.Naga
