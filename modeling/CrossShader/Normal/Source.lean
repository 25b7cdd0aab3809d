import CrossShader.Normal.Declaration
import CrossShader.Text.Lines
import CrossShader.Text.Word

/-!
Normalized source: one header with the version line and the block of host uniforms, then the
lines of the shader after four passes. The first drops lines, the second and third map line by line
and keep the indentation, the fourth may put one line in front. Every text has a normal form.
-/
namespace CrossShader.Normal
open Text

/-- Version and precision lines, which the header or the strict dialect makes superfluous. -/
def isDirective (line : Text) : Bool :=
  (text "#version").isPrefixOf (strip line) || (text "precision ").isPrefixOf (strip line)

def stripDirectives (lines : List Text) : List Text := lines.filter (!isDirective ·)

def neutralizeLine (line : Text) : Text :=
  if uniformDeclarations.contains (strip line) then indent line ++ text "// " ++ strip line
  else line

def neutralizeUniforms (lines : List Text) : List Text := lines.map neutralizeLine

def locateLine (located : List (Text × Text)) (line : Text) : Text :=
  match located.lookup (strip line) with
  | some declaration => indent line ++ declaration
  | none => line

def locateVaryings (stage : Text) (lines : List Text) : List Text :=
  lines.map (locateLine (locatedDeclarations stage))

/-- The legacy builtin is redirected only in the fragment stage and only if a line mentions it. -/
def redirectsLegacy (stage : Text) (lines : List Text) : Bool :=
  stage == text "fragment" && lines.any (hasWord legacyBuiltin)

def replaceLegacyOutput (stage : Text) (lines : List Text) : List Text :=
  if redirectsLegacy stage lines then
    legacyOutput.declaration .out :: lines.map (renameWord legacyBuiltin legacyOutput.name)
  else lines

def version : Nat := 450

def header : Text :=
  text "#version " ++ Text.ofNat version ++ text "\n" ++
    text "layout(set = 0, binding = 0) uniform ShaderGlobals \x7b\n" ++
    unlines (hostUniforms.map fun v => text "    " ++ v.type ++ text " " ++ v.name ++ text ";") ++
    text "\n\x7d;"

def bodyLines (stage : Text) (lines : List Text) : List Text :=
  replaceLegacyOutput stage (locateVaryings stage (neutralizeUniforms (stripDirectives lines)))

/-- The source that a strict frontend receives for the permissive one. -/
def normalize (stage source : Text) : Text :=
  header ++ text "\n" ++ unlines (bodyLines stage (lines source))

end CrossShader.Normal
