import CrossShader.Library

/-!
The three steps of a conversion. Each turns a complaint of the library into the failure of that
step; an unavailable library and every other fault pass as they are.
-/
namespace CrossShader

def Fault.wrapComplaint (wrap : Text → ConversionFault) (f : Fault) : Fault :=
  match f.cause with
  | .conversion (.library d) => .ofConversion (wrap d)
  | _ => f

def wrapComplaint {α S : Type} (wrap : Text → ConversionFault) (answer : Except Fault α × S) :
    Except Fault α × S :=
  (answer.1.mapError (Fault.wrapComplaint wrap), answer.2)

def normalizedSourceMarker : Text := text "Normalized source:"

/-- The failure of a frontend. That of GLSL shows the source, which its user never saw. -/
def parseFailure (dialect : SourceDialect) (source diagnostic : Text) : ConversionFault :=
  match dialect with
  | .wgsl => .parse (text "WGSL Parse Error: " ++ diagnostic) diagnostic none
  | .glsl =>
    .parse
      (text "GLSL Parse Error: " ++ diagnostic ++ text "\n\n" ++ normalizedSourceMarker ++
        text "\n" ++ source)
      diagnostic (some source)

def validationFailure (diagnostic : Text) : ConversionFault :=
  .validation (text "Validation Error: " ++ diagnostic)

def generationFailure (dialect : TargetDialect) (diagnostic : Text) : ConversionFault :=
  .generation (dialect.label ++ text " Generation Error: " ++ diagnostic)

namespace Library
variable {S M I : Type}

def parseSource (library : Library S M I) (source selector stage : Text) (defines : Table Text)
    (s : S) : Except Fault M × S :=
  let dialect := SourceDialect.resolve selector
  wrapComplaint (parseFailure dialect source) (library.parse source dialect stage defines s)

def validateModule (library : Library S M I) (module : M) (s : S) : Except Fault I × S :=
  wrapComplaint validationFailure (library.validate module s)

/-- An unknown target is refused before the library is called. -/
def generateTarget (library : Library S M I) (module : M) (info : I) (selector stage : Text)
    (s : S) :
    Except Fault Text × S :=
  match targetConfiguration selector stage with
  | .error fault => (.error (.ofConversion fault), s)
  | .ok (target, pipeline) =>
    wrapComplaint (generationFailure target.dialect)
      (library.generate module info target pipeline s)

end Library
end CrossShader
