import CrossShader.Fault
import CrossShader.Selector

/-!
Generator options for each target dialect. A selector that names no dialect has none.
-/
namespace CrossShader

structure GlslOptions where
  profile : Text
  version : Int
  zeroInitializesWorkgroupMemory : Bool
  deriving DecidableEq, Repr

inductive TargetOptions where
  | hlsl
  | wgsl
  | msl
  | glsl (options : GlslOptions)
  deriving DecidableEq, Repr

def TargetOptions.dialect : TargetOptions → TargetDialect
  | hlsl => .hlsl
  | wgsl => .wgsl
  | msl => .msl
  | glsl _ => .glsl

/-- What a pipeline asks of the generator. The stage is a name and need not be a known one. -/
structure PipelineOptions where
  stage : Text
  entryPoint : Option Text
  multiview : Option Int
  deriving DecidableEq, Repr

namespace TargetOptions

def desktopGlsl : GlslOptions := ⟨text "core", 450, true⟩

def ofDialect : TargetDialect → TargetOptions
  | .hlsl => hlsl
  | .wgsl => wgsl
  | .msl => msl
  | .glsl => glsl desktopGlsl

end TargetOptions

namespace PipelineOptions

def ofStage (stage : Text) : PipelineOptions := ⟨stage, none, none⟩

def glslEntryPoint : Text := text "main"

def ofDialect (stage : Text) : TargetDialect → PipelineOptions
  | .glsl => ⟨stage, some glslEntryPoint, none⟩
  | _ => ofStage stage

end PipelineOptions

def targetConfiguration (selector stage : Text) :
    Except ConversionFault (TargetOptions × PipelineOptions) :=
  match TargetDialect.ofName? selector with
  | some dialect => .ok (.ofDialect dialect, .ofDialect stage dialect)
  | none => .error (.unsupportedTarget selector)

end CrossShader
