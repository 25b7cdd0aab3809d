import CrossShader.Text.Basic

/-!
The host variables that permissive shaders take for granted, the declarations in which they write
them, and the located declarations that a strict frontend wants.
-/
namespace CrossShader.Normal

structure Variable where
  type : Text
  name : Text
  deriving DecidableEq, Repr

structure Located extends Variable where
  location : Nat
  deriving DecidableEq, Repr

inductive Direction where
  | into
  | out
  deriving DecidableEq, Repr

def Direction.keyword : Direction → Text
  | .into => text "in"
  | .out => text "out"

inductive Qualifier where
  | directed (d : Direction)
  | varying
  deriving DecidableEq, Repr

namespace Qualifier

def all : List Qualifier := [directed .into, directed .out, varying]

def keyword : Qualifier → Text
  | directed d => d.keyword
  | varying => text "varying"

/-- A varying leaves the vertex stage and enters every other one. -/
def direction (stage : Text) : Qualifier → Direction
  | directed d => d
  | varying => if stage = text "vertex" then .out else .into

end Qualifier

def Variable.declaration (keyword : Text) (v : Variable) : Text :=
  keyword ++ text " " ++ v.type ++ text " " ++ v.name ++ text ";"

def Located.declaration (d : Direction) (v : Located) : Text :=
  text "layout(location = " ++ Text.ofNat v.location ++ text ") " ++
    v.toVariable.declaration d.keyword

def hostUniforms : List Variable :=
  [⟨text "float", text "uTime"⟩, ⟨text "vec2", text "uResolution"⟩]

def hostVaryings : List Located :=
  [⟨⟨text "vec2", text "vUv"⟩, 0⟩, ⟨⟨text "vec3", text "vNormal"⟩, 1⟩,
    ⟨⟨text "vec3", text "vViewPosition"⟩, 2⟩]

def hostOutput : Located := ⟨⟨text "vec4", text "fragColor"⟩, 0⟩

def legacyOutput : Located := ⟨⟨text "vec4", text "legacyFragColor"⟩, 0⟩

def legacyBuiltin : Text := text "gl_FragColor"

def uniformDeclarations : List Text := hostUniforms.map (·.declaration (text "uniform"))

def locatedDeclarations (stage : Text) : List (Text × Text) :=
  hostVaryings.flatMap (fun v => Qualifier.all.map fun q =>
      (v.toVariable.declaration q.keyword, v.declaration (q.direction stage))) ++
    [(hostOutput.toVariable.declaration (Direction.keyword .out), hostOutput.declaration .out)]

end CrossShader.Normal
