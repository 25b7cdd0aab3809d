import CrossShader.Arguments.Clustered
import CrossShader.Files
import CrossShader.Selector

/-!
The grammar of the command line, from words to a command with all it needs. A source file is looked
up while the words are read, so a missing one is a mistake of usage. The switches that ask for help
or completion are read and have no effect here.
-/
namespace CrossShader.CommandLine
open Text Arguments

structure ConvertOrder where
  file : Path
  source : Text
  target : Text
  stage : Text
  output : Option Path
  naga : Option Text
  deriving DecidableEq, Repr

inductive Command where
  | convert (order : ConvertOrder)
  | legacy (order : ConvertOrder)
  | normalize (file : Path) (stage : Text)
  | dialects
  | doctor (naga : Option Text)
  deriving DecidableEq, Repr

structure Invocation where
  debug : Bool
  command : Command
  deriving DecidableEq, Repr

inductive UsageError where
  | option (fault : OptionFault)
  | missingCommand
  | unknownCommand (name : Text)
  | missingArgument
  | noFile (given : Text)
  | notAFile (given : Text)
  | missingTarget
  | extra (words : List Text)
  | missingTool (executable : Text)
  deriving DecidableEq, Repr

namespace UsageError

def sourceArgument : Text := quoted (text "source_file")

def alternatives : UsageError → Text
  | option fault => fault.alternatives
  | _ => []

def summary : UsageError → Text
  | option fault => fault.summary
  | missingCommand => text "Missing command."
  | unknownCommand name => text "No such command " ++ quoted name ++ text "."
  | missingArgument => text "Missing argument " ++ sourceArgument ++ text "."
  | noFile given =>
    text "Invalid value for " ++ sourceArgument ++ text ": file " ++ quoted given ++
      text " does not exist."
  | notAFile given =>
    text "Invalid value for " ++ sourceArgument ++ text ": file " ++ quoted given ++
      text " is a directory."
  | missingTarget => text "Missing option '--to' / '-t'."
  | extra words =>
    text "Got unexpected extra argument(s) (" ++ spellControls (join (text " ") words) ++ text ")"
  | missingTool executable =>
    text "Invalid value: Missing required tools for this command.\n\n- Missing '" ++ executable ++
      text "' (shader IR translation). Install: cargo install naga-cli"

end UsageError

structure Misuse where
  error : UsageError
  commands : List Text
  deriving DecidableEq, Repr

namespace Misuse

def ofError (e : UsageError) : Misuse := ⟨e, []⟩

def fullStop : CodePoint := 46

def withoutStops (t : Text) : Text := (t.reverse.dropWhile (· == fullStop)).reverse

def message (m : Misuse) : Text :=
  (if m.commands.isEmpty then m.error.summary
    else withoutStops m.error.summary ++ text ". Did you mean " ++
      join (text ", ") (m.commands.map quoted) ++ text "?") ++ m.error.alternatives

end Misuse

/-- Why words make no command: they misuse it, or the system takes none of them as a path. -/
inductive Rejection where
  | misuse (m : Misuse)
  | fault (cause : Cause)
  deriving DecidableEq, Repr

def Rejection.ofError (e : UsageError) : Rejection := misuse (.ofError e)

namespace Invocation

def debugSwitch : Switch := ⟨[text "--debug"], false⟩
def helpSwitch : Switch := ⟨[text "--help"], false⟩
def installCompletionSwitch : Switch := ⟨[text "--install-completion"], false⟩
def showCompletionSwitch : Switch := ⟨[text "--show-completion"], false⟩
def targetSwitch : Switch := ⟨[text "--to", text "-t"], true⟩
def sourceSwitch : Switch := ⟨[text "--from", text "-f"], true⟩
def stageSwitch : Switch := ⟨[text "--stage", text "-s"], true⟩
def outputSwitch : Switch := ⟨[text "--output", text "-o"], true⟩
def nagaSwitch : Switch := ⟨[text "--naga"], true⟩

def topSwitches : List Switch :=
  [debugSwitch, installCompletionSwitch, showCompletionSwitch, helpSwitch]

inductive Verb where
  | convert
  | legacy
  | normalize
  | dialects
  | doctor
  deriving DecidableEq, Repr

namespace Verb

def all : List Verb := [convert, legacy, normalize, dialects, doctor]

def name : Verb → Text
  | convert => text "convert"
  | legacy => text "legacy"
  | normalize => text "normalize"
  | dialects => text "dialects"
  | doctor => text "doctor"

def switches : Verb → List Switch
  | convert =>
    [targetSwitch, sourceSwitch, stageSwitch, outputSwitch, nagaSwitch, helpSwitch]
  | legacy => [targetSwitch, stageSwitch, outputSwitch, nagaSwitch, helpSwitch]
  | normalize => [stageSwitch, helpSwitch]
  | dialects => [helpSwitch]
  | doctor => [nagaSwitch, helpSwitch]

def takesFile : Verb → Bool
  | convert => true
  | legacy => true
  | normalize => true
  | _ => false

end Verb

def checkPath (given : Text) : Except Rejection Path :=
  match wordFault? (Path.tidy given).render with
  | some cause => .error (.fault cause)
  | none => .ok (.tidy given)

def checkFile (fs : Files) (given : Text) : Except Rejection Path := do
  let p ← checkPath given
  match fs.locate p with
  | .found _ (.file _) => .ok p
  | .found _ .directory => .error (.ofError (.notAFile given))
  | _ => .error (.ofError (.noFile given))

def checkOutput (choices : List Choice) : Except Rejection (Option Path) :=
  match lastValue? outputSwitch choices with
  | some given => (checkPath given).map some
  | none => .ok none

def stageOf (choices : List Choice) : Text :=
  (lastValue? stageSwitch choices).getD Stage.fallback.name

def orderOf (file : Path) (output : Option Path) (choices : List Choice) (target : Text) :
    ConvertOrder where
  file := file
  source := (lastValue? sourceSwitch choices).getD SourceDialect.glsl.name
  target := target
  stage := stageOf choices
  output := output
  naga := lastValue? nagaSwitch choices

def fileCommand (verb : Verb) (file : Path) (output : Option Path) (choices : List Choice) :
    Except Rejection Command :=
  match verb with
  | .normalize => .ok (.normalize file (stageOf choices))
  | verb =>
    match lastValue? targetSwitch choices with
    | none => .error (.ofError .missingTarget)
    | some target =>
      let order := orderOf file output choices target
      .ok (if verb = .legacy then .legacy order else .convert order)

def refuseExtra (command : Command) : List Text → Except Rejection Command
  | [] => .ok command
  | words => .error (.ofError (.extra words))

/-- Options that are given are checked first, then the file, then for options that are missing, and
superfluous words last. -/
def commandOf (fs : Files) (verb : Verb) (choices : List Choice) (words : List Text) :
    Except Rejection Command :=
  if verb.takesFile then do
    let output ← checkOutput choices
    match words with
    | [] => .error (.ofError .missingArgument)
    | given :: extra => do
      let file ← checkFile fs given
      let command ← fileCommand verb file output choices
      refuseExtra command extra
  else if verb = .doctor then refuseExtra (.doctor (lastValue? nagaSwitch choices)) words
  else refuseExtra .dialects words

def scanOr (switches : List Switch) (mixed : Bool) (words : List Text) :
    Except Rejection (List Choice × List Text) :=
  (scan switches mixed words).mapError fun (fault, _) => .ofError (.option fault)

def commandsLike (words : List Text) : List Text :=
  match words with
  | [] => []
  | word :: _ => closest word (Verb.all.map (·.name))

/-- A name that looks like an option is read as one before it is refused, and commands are suggested
for the first word that is then left. -/
def refuseName (name : Text) (rest : List Text) : Misuse :=
  if name.head? = some dash then
    match scan topSwitches false (name :: rest) with
    | .error (fault, left) => ⟨.option fault, commandsLike left⟩
    | .ok (_, left) => ⟨.unknownCommand name, commandsLike left⟩
  else ⟨.unknownCommand name, commandsLike [name]⟩

def ofWords (fs : Files) (words : List Text) : Except Rejection Invocation := do
  let (top, rest) ← scanOr topSwitches false words
  match rest with
  | [] => .error (.ofError .missingCommand)
  | name :: rest =>
    match Verb.all.find? fun v => v.name == name with
    | none => .error (.misuse (refuseName name rest))
    | some verb => do
      let (choices, words) ← scanOr verb.switches true rest
      let command ← commandOf fs verb choices words
      .ok ⟨top.any (·.switch == debugSwitch), command⟩

end Invocation
end CrossShader.CommandLine
