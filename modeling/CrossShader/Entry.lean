import CrossShader.Conversion

/-!
Ways to ask for a conversion: plain, with the digest of the submitted source, or through the
deprecated alias that takes GLSL only.
-/
namespace CrossShader

inductive Entry where
  | plain
  | digested
  | legacy
  deriving DecidableEq, Repr

structure Warning where
  category : Text
  message : Text
  deriving DecidableEq, Repr

structure Submission where
  code : Text
  source : Text
  target : Text
  stage : Option Text
  deriving DecidableEq, Repr

structure Answer where
  outcome : Outcome
  digest : Option Text
  warnings : List Warning
  deriving DecidableEq, Repr

namespace Entry
variable {S : Type}

def deprecation : Warning :=
  ⟨text "DeprecationWarning", text "convert_legacy() is deprecated; use convert(code, 'glsl', ...)"⟩

def missingStage : Fault :=
  .ofCause (.argument (text "run_conversion() missing 1 required positional argument: 'stage'"))

/-- The request that the entry makes of a submission. Only the digested one insists on a stage; the
deprecated one reads every source as GLSL. -/
def request (entry : Entry) (s : Submission) : Except Fault Request :=
  match entry, s.stage with
  | digested, none => .error missingStage
  | digested, some stage => .ok ⟨s.code, s.source, s.target, stage⟩
  | legacy, stage => .ok ⟨s.code, SourceDialect.glsl.name, s.target, stage.getD Stage.fallback.name⟩
  | plain, stage => .ok ⟨s.code, s.source, s.target, stage.getD Stage.fallback.name⟩

/-- The digest is taken of the source as submitted and after the conversion, so a source that cannot
be encoded is converted all the same. -/
def answer (entry : Entry) (r : Request) (outcome : Outcome) : Except Fault Answer :=
  match entry with
  | plain => .ok ⟨outcome, none, []⟩
  | legacy => .ok ⟨outcome, none, [deprecation]⟩
  | digested =>
    match Digest.ofText r.code with
    | .ok digest => .ok ⟨outcome, some digest, []⟩
    | .error e => .error (.ofCause (.encoding e))

def run (entry : Entry) (convert : Request → S → Except Fault Outcome × S) (given : Submission)
    (s : S) : Except Fault Answer × S :=
  match entry.request given with
  | .error fault => (.error fault, s)
  | .ok r =>
    match convert r s with
    | (.ok outcome, s) => (entry.answer r outcome, s)
    | (.error fault, s) => (.error fault, s)

end Entry
end CrossShader
