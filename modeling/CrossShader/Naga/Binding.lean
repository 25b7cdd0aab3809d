import CrossShader.Conversion
import CrossShader.Naga.Process

/-!
The shader compiler as a library. Each step is one run over one input file: parsing without
validation, validation alone, and generation into a file whose ending selects the target. A
validation record belongs to the module it was made for, not to modules that look the same.
-/
namespace CrossShader.Naga
open Text

/-- A program as the frontend takes it. Dialect and stage are names and need not be known ones. -/
structure Program where
  source : Text
  dialect : Text
  stage : Text
  defines : List (Text × Text)
  deriving DecidableEq, Repr

structure Module where
  number : Nat
  program : Program
  deriving DecidableEq, Repr

structure Info where
  module : Module
  report : Text
  deriving DecidableEq, Repr

/-- Options that a generator knows, or anything else, shown as a message would. -/
inductive Options where
  | target (options : TargetOptions)
  | foreign (shown : Text)
  deriving DecidableEq, Repr

def directory : Text := text "<tmp>"

def stageSuffix (stage : Text) : Except Fault Text :=
  match Stage.ofName? stage with
  | some s => .ok s.suffix
  | none => .error (.ofCause (.key stage))

namespace Program

def isWgsl (p : Program) : Bool := p.dialect == SourceDialect.wgsl.name

def inputSuffix (p : Program) : Except Fault Text :=
  if p.isWgsl then .ok (text "wgsl") else stageSuffix p.stage

def defineArguments (defines : List (Text × Text)) : List Text :=
  defines.flatMap fun (name, value) => [text "--defines", name ++ text "=" ++ value]

def arguments (p : Program) (suffix : Text) : List Text :=
  (if p.isWgsl then [text "--input-kind", text "wgsl"]
    else [text "--input-kind", text "glsl", text "--shader-stage", suffix]) ++
    defineArguments p.defines

end Program

def outputSuffix (pipeline : PipelineOptions) : Options → Except Fault Text
  | .target .hlsl => .ok (text "hlsl")
  | .target .wgsl => .ok (text "wgsl")
  | .target .msl => .ok (text "metal")
  | .target (.glsl _) => stageSuffix pipeline.stage
  | .foreign shown => .error (.ofCause (.value (text "unsupported target options: " ++ shown)))

/-- What the generator is told. Two wishes for GLSL cannot be told. -/
def targetArguments (pipeline : PipelineOptions) : Options → Except Fault (List Text)
  | .target (.glsl options) =>
    if pipeline.multiview.isSome then
      .error (complaint (text "naga CLI does not support multiview GLSL output"))
    else if !options.zeroInitializesWorkgroupMemory then
      .error (complaint
        (text "naga CLI always zero-initializes workgroup memory in GLSL output"))
    else
      .ok ([text "--profile", options.profile ++ ofInt options.version] ++
        match pipeline.entryPoint with
        | some name => if name.isEmpty then [] else [text "--entry-point", name]
        | none => [])
  | _ => .ok []

def outputText (suffix : Text) : Option Bytes → Except Fault Text
  | none =>
    .error (complaint (text "naga reported success but wrote no ." ++ suffix ++ text " output"))
  | some bytes =>
    match Utf8.decode bytes with
    | .ok t => .ok (unifyLineEnds t)
    | .error e => .error (.ofCause (.decoding e))

namespace Settings

def runOver (b : Settings) (p : Program) (suffix : Text) (extra : List Text)
    (output : Option Text) (h : Host) : Except Fault Exit × Host :=
  match Utf8.encode p.source with
  | .error e => (.error (complaint (text "source is not encodable as UTF-8: " ++ e.message)), h)
  | .ok _ =>
    let files := (directory ++ text "/shader." ++ suffix) ::
      (output.map fun s => directory ++ text "/out." ++ s).toList
    b.start (p.arguments suffix ++ extra ++ files) (some p.source) h

/-- Runs over a program; a run with a failing status is a complaint of the compiler. -/
def runChecked (b : Settings) (p : Program) (extra : List Text) (output : Option Text) (h : Host) :
    Except Fault Exit × Host :=
  match p.inputSuffix with
  | .error fault => (.error fault, h)
  | .ok suffix =>
    match b.runOver p suffix extra output h with
    | (.error fault, h) => (.error fault, h)
    | (.ok e, h) => if e.code = 0 then (.ok e, h) else (.error (complaint e.diagnostic), h)

def sortDefines (defines : List (Text × Text)) : List (Text × Text) :=
  defines.mergeSort fun a b => !precedes b.1 a.1

def construct (p : Program) (h : Host) : Module × Host :=
  (⟨h.modules, p⟩, { h with modules := h.modules + 1 })

def parse (b : Settings) (source dialect stage : Text) (defines : Table Text) (h : Host) :
    Except Fault Module × Host :=
  let p : Program := ⟨source, dialect, stage, sortDefines defines⟩
  match b.runChecked p [text "--validate", text "0"] none h with
  | (.error fault, h) => (.error fault, h)
  | (.ok _, h) =>
    let (module, h) := construct p h
    (.ok module, h)

def validate (b : Settings) (module : Module) (h : Host) : Except Fault Info × Host :=
  match b.runChecked module.program [] none h with
  | (.error fault, h) => (.error fault, h)
  | (.ok e, h) => (.ok ⟨module, strip (streamText e.stdout)⟩, h)

def generate (b : Settings) (module : Module) (info : Info) (options : Options)
    (pipeline : PipelineOptions) (h : Host) : Except Fault Text × Host :=
  if info.module.number ≠ module.number then
    (.error (.ofCause (.value (text "validation info does not describe this module"))), h)
  else
    match targetArguments pipeline options, outputSuffix pipeline options with
    | .error fault, _ => (.error fault, h)
    | .ok _, .error fault => (.error fault, h)
    | .ok extra, .ok suffix =>
      match b.runChecked module.program extra (some suffix) h with
      | (.error fault, h) => (.error fault, h)
      | (.ok e, h) => (outputText suffix e.output, h)

def library (b : Settings) : Library Host Module Info where
  note := Host.note
  parse source dialect stage defines := b.parse source dialect.name stage defines
  validate := b.validate
  generate module info target pipeline := b.generate module info (.target target) pipeline

def convertWith (env : Environment) (r : Request) (h : Host) : Except Fault Outcome × Host :=
  Conversion.convertOpening Host.note ((ofEnvironment env).map library) r h

end Settings
end CrossShader.Naga
