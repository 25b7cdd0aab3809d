import CrossShader.Files
import CrossShader.Naga.Binding

/-!
One sample shader in every target dialect, written to files of its own. The first conversion that
fails ends the run.
-/
namespace CrossShader.Showcase
open Text

/-- A fragment shader as a host's library writes it. -/
def sample : Text := text "#version 300 es
precision highp float;
in vec2 vUv;
in vec3 vNormal;
in vec3 vViewPosition;
uniform float uTime;
uniform vec2 uResolution;
out vec4 fragColor;

void main() \x7b
    vec2 uv = gl_FragCoord.xy / uResolution;
    float wave = 0.5 + 0.5 * sin(uTime + uv.x * 10.0);
    fragColor = vec4(vUv * wave, normalize(vNormal).z, 1.0);
\x7d
"

def directory : Text := text "converted_shaders"

def fileSuffix : TargetDialect → Text
  | .hlsl => text "hlsl"
  | .wgsl => text "wgsl"
  | .msl => text "metal"
  | .glsl => text "frag"

def outputPath (target : TargetDialect) : Path :=
  ⟨false, [directory, text "wave." ++ fileSuffix target]⟩

def request (target : TargetDialect) : Request :=
  ⟨sample, SourceDialect.glsl.name, target.name, Stage.fragment.name⟩

inductive Stop where
  | message (t : Text)
  | fault (f : Fault)
  deriving DecidableEq, Repr

structure Progress where
  host : Naga.Host
  files : Files
  stdout : Text
  deriving Repr

def failureText (target : TargetDialect) (error : Text) : Text :=
  text "FAIL: " ++ target.name ++ text " conversion failed:\n" ++ error

def save (fs : Files) (p : Path) (output : Text) : Except Fault Files :=
  match Utf8.encode output with
  | .error e => .error (.ofCause (.encoding e))
  | .ok bytes => (fs.write p bytes).mapError fun e => .ofCause (.system e)

def convertAll (env : Environment) : List TargetDialect → Progress → Option Stop × Progress
  | [], s =>
    let line := text "PASS: library shader converted to every target.\n"
    (none, { s with stdout := s.stdout ++ line })
  | target :: rest, s =>
    match Naga.Settings.convertWith env (request target) s.host with
    | (.error f, host) => (some (.fault f), { s with host := host })
    | (.ok (.failed e), host) => (some (.message (failureText target e)), { s with host := host })
    | (.ok (.converted output), host) =>
      match save s.files (outputPath target) output with
      | .error f => (some (.fault f), { s with host := host })
      | .ok files =>
        let line := text "PASS: " ++ (outputPath target).render ++ text "\n"
        convertAll env rest ⟨host, files, s.stdout ++ line⟩

def run (env : Environment) (endings : List Naga.Ending) : Option Stop × Progress :=
  convertAll env TargetDialect.all
    ⟨.opening endings, Files.ofList [(directory, none)], []⟩

end CrossShader.Showcase
