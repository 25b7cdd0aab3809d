import CrossShader.Arguments.Shortened
import CrossShader.Decimal.Numeral
import CrossShader.Fault
import CrossShader.Text.Table

/-!
Where the service listens. Flags go before environment variables, those before the standard values;
the socket variable is read as an integer whatever the flags say.
-/
namespace CrossShader.Environment

def httpHost : Text := text "SHADER_CONVERTER_HTTP_HOST"

def httpSocket : Text := text "SHADER_CONVERTER_HTTP_PORT"

end CrossShader.Environment

namespace CrossShader.Service
open Text Arguments

/-- Either setting may be left open by a flag whose attached value is two dashes. -/
structure Listening where
  host : Option Text
  socket : Option Int
  deriving DecidableEq, Repr

inductive Start where
  | listening (l : Listening)
  | help
  | refused (refusal : Refusal)
  | failed (fault : Fault)
  deriving DecidableEq, Repr

namespace Start

def program : Text := text "shader-converter-http"

def application : Text := text "shader_converter.converter.http_server:app"

def hostFlag : Flag := ⟨[text "--host"], true⟩

def socketFlag : Flag := ⟨[text "--port"], true⟩

def flags : List Flag := [helpFlag, hostFlag, socketFlag]

def standardHost : Text := text "0.0.0.0"

def standardSocket : Int := 8090

def socketOf (env : Environment) : Except Fault Int :=
  match env.get? Environment.httpSocket with
  | none => .ok standardSocket
  | some raw => (Numeral.readInteger raw).mapError fun flaw =>
      .ofCause (.value (flaw.message (quoted raw)))

def configured (env : Environment) : Except Fault Listening := do
  let socket ← socketOf env
  .ok ⟨(env.get? Environment.httpHost).getD standardHost, some socket⟩

def follow (rest : Except Refusal (List Text)) : List Use → Listening → Start
  | [], l =>
    match rest with
    | .error refusal => refused refusal
    | .ok [] => listening l
    | .ok words => refused (.leftOver words)
  | u :: uses, l =>
    if u.flag = hostFlag then follow rest uses { l with host := u.value }
    else if u.flag = socketFlag then
      match u.value with
      | none => follow rest uses { l with socket := none }
      | some raw =>
        match Numeral.readInteger raw with
        | .ok socket => follow rest uses { l with socket := socket }
        | .error _ => refused (.valueInvalid socketFlag (text "int") raw)
    else help

def ofCommandLine (env : Environment) (words : List Text) : Start :=
  match configured env with
  | .error fault => failed fault
  | .ok l =>
    let reading := readLine flags words
    follow reading.rest reading.uses l

/-- The last line of what a refusal prints, line feeds at the end aside. -/
def refusalText (refusal : Refusal) : Text :=
  let printed := program ++ text ": error: " ++ refusal.message
  (lines (printed.reverse.dropWhile (· == newline)).reverse).getLast?.getD []

end Start
end CrossShader.Service
