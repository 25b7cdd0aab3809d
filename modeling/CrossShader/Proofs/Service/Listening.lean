import CrossShader.Proofs.Arguments.Shortened
import CrossShader.Service.Daemon
import Mathlib.Data.List.Infix

/-!
Where the service listens. The command lines that it takes are lists of flags, each spelled in full
or shortened, with its value attached or in the next word. Of each kind the last one counts, before
the environment and the standard values. A socket variable that is no integer stops every start, for
it is read before the flags are.
-/
namespace CrossShader.Service.Start
open Text Arguments

/-- The beginnings of a flag's name that fit no other flag. -/
def spellings (f : Flag) : List Text :=
  if f = hostFlag then [text "--ho", text "--hos", text "--host"]
  else if f = socketFlag then [text "--p", text "--po", text "--por", text "--port"]
  else []

/-- A list of flags with their values. The next word is a value if the reader sees no flag in it. -/
inductive Lists : List Text → List Use → Prop where
  | nil : Lists [] []
  | attached {f start value rest uses} (spelled : start ∈ spellings f)
      (later : Lists rest uses) :
      Lists ((start ++ equalsSign :: value) :: rest) (.attached f value :: uses)
  | followed {f start value rest uses} (spelled : start ∈ spellings f)
      (plain : roleOf flags value = .ok .plain) (later : Lists rest uses) :
      Lists (start :: value :: rest) (⟨f, some value⟩ :: uses)

def lastGiven (f : Flag) (uses : List Use) : Option (Option Text) :=
  ((uses.filter (·.flag == f)).getLast?).map (·.value)

def integer? (raw : Text) : Option Int := (Numeral.readInteger raw).toOption

section
variable {f : Flag} {start word : Text} {words : List Text} {uses : List Use}

end

section
variable {f : Flag} {uses : List Use} {rest : Except Refusal (List Text)} {l l' : Listening}

def settle (uses : List Use) (l : Listening) : Listening :=
  ⟨(lastGiven hostFlag uses).getD l.host,
    (lastGiven socketFlag uses).elim l.socket (·.bind integer?)⟩

end

end CrossShader.Service.Start
