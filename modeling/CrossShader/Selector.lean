import CrossShader.Text.Basic

/-!
The closed sets that a conversion chooses from, and how free selector texts are resolved to them. A
target has no fallback; an unknown stage is the fragment stage and an unknown source dialect GLSL.
-/
namespace CrossShader

inductive Stage where
  | vertex
  | fragment
  | compute
  deriving DecidableEq, Repr

namespace Stage

def all : List Stage := [vertex, fragment, compute]

def name : Stage → Text
  | vertex => text "vertex"
  | fragment => text "fragment"
  | compute => text "compute"

def suffix : Stage → Text
  | vertex => text "vert"
  | fragment => text "frag"
  | compute => text "comp"

def ofName? (t : Text) : Option Stage := all.find? fun s => s.name == t

def fallback : Stage := fragment

def resolve (selector : Text) : Stage := (ofName? selector).getD fallback

end Stage

inductive SourceDialect where
  | glsl
  | wgsl
  deriving DecidableEq, Repr

namespace SourceDialect

def all : List SourceDialect := [glsl, wgsl]

def name : SourceDialect → Text
  | glsl => text "glsl"
  | wgsl => text "wgsl"

def label : SourceDialect → Text
  | glsl => text "GLSL"
  | wgsl => text "WGSL"

def resolve (selector : Text) : SourceDialect := if selector = wgsl.name then wgsl else glsl

end SourceDialect

inductive TargetDialect where
  | hlsl
  | wgsl
  | msl
  | glsl
  deriving DecidableEq, Repr

namespace TargetDialect

def all : List TargetDialect := [hlsl, wgsl, msl, glsl]

def name : TargetDialect → Text
  | hlsl => text "hlsl"
  | wgsl => text "wgsl"
  | msl => text "msl"
  | glsl => text "glsl"

def label : TargetDialect → Text
  | hlsl => text "HLSL"
  | wgsl => text "WGSL"
  | msl => text "MSL"
  | glsl => text "GLSL"

def ofName? (t : Text) : Option TargetDialect := all.find? fun d => d.name == t

end TargetDialect
end CrossShader
