import CrossShader.Decimal.Numeral
import CrossShader.Fault
import CrossShader.Text.Table

/-!
Which executable compiles shaders and how long a run may take.
-/
namespace CrossShader.Environment

def nagaExecutable : Text := text "SHADER_CONVERTER_NAGA"

def nagaTimeout : Text := text "SHADER_CONVERTER_NAGA_TIMEOUT"

end CrossShader.Environment

namespace CrossShader.Naga
open Text

structure Settings where
  executable : Text
  timeout : Binary64
  deriving DecidableEq, Repr

namespace Settings

def standardExecutable : Text := text "naga"

def standardTimeout : Binary64 := .ofInt 30

def timeoutRefusal (raw : Text) : Fault :=
  .ofConversion (.unavailable
    (text "SHADER_CONVERTER_NAGA_TIMEOUT must be a positive number of seconds, got " ++ quoted raw))

/-- A timeout that is set must be a number above zero; infinity is one. -/
def timeoutOf (raw : Option Text) : Except Fault Binary64 :=
  match raw with
  | none => .ok standardTimeout
  | some raw =>
    match Numeral.readBinary64? raw with
    | some seconds => if seconds.isPositive then .ok seconds else .error (timeoutRefusal raw)
    | none => .error (timeoutRefusal raw)

def ofEnvironment (env : Environment) : Except Fault Settings := do
  let timeout ← timeoutOf (env.get? Environment.nagaTimeout)
  .ok ⟨(env.get? Environment.nagaExecutable).getD standardExecutable, timeout⟩

end Settings
end CrossShader.Naga
