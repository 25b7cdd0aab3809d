import CrossShader.Entry
import CrossShader.Library

/-!
A library that does as a script says. Modules and validation records are numbered in the order in
which they come into being, whatever conversion they belong to. Conversions in a row share one such
library: each turn has a script of its own, and the numbering goes on from turn to turn.
-/
namespace CrossShader

/-- The faults to raise and the text to generate; a generator without a text names its dialect. -/
structure Script where
  parse : Option Fault
  validate : Option Fault
  generate : Except Fault (Option Text)
  deriving Repr

namespace Script

def silent : Script := ⟨none, none, .ok none⟩

end Script

structure Stand where
  script : Script
  modules : Nat
  infos : Nat
  log : List LogEntry
  deriving Repr

namespace Stand

def opening : Stand := ⟨.silent, 0, 0, []⟩

def rewind (s : Stand) (script : Script) : Stand := { s with script := script, log := [] }

def parse (s : Stand) : Except Fault Nat × Stand :=
  match s.script.parse with
  | some fault => (.error fault, s)
  | none => (.ok s.modules, { s with modules := s.modules + 1 })

def validate (s : Stand) : Except Fault Nat × Stand :=
  match s.script.validate with
  | some fault => (.error fault, s)
  | none => (.ok s.infos, { s with infos := s.infos + 1 })

def generate (target : TargetOptions) (s : Stand) : Except Fault Text × Stand :=
  match s.script.generate with
  | .error fault => (.error fault, s)
  | .ok output => (.ok (output.getD (text "<" ++ target.dialect.name ++ text ">")), s)

def library : Library Stand Nat Nat where
  note entry s := { s with log := s.log ++ [entry] }
  parse _ _ _ _ s := s.parse
  validate _ s := s.validate
  generate _ _ target _ s := s.generate target

end Stand

structure Turn where
  entry : Entry
  given : Submission
  script : Script
  deriving Repr

structure Trace where
  answer : Except Fault Answer
  calls : List (Call Nat Nat)
  log : List LogEntry

namespace Stand

abbrev Tracked := Library.Recorded Stand Nat Nat

def tracked : Library Tracked Nat Nat := library.recorded

def begin (s : Stand) (script : Script) : Tracked := (s.rewind script, [])

def turn (t : Turn) (s : Stand) : Trace × Stand :=
  let (answer, s, calls) := t.entry.run (Conversion.convert tracked) t.given (s.begin t.script)
  (⟨answer, calls, s.log⟩, s)

def play : List Turn → Stand → List Trace
  | [], _ => []
  | t :: rest, s =>
    let (trace, s) := turn t s
    trace :: play rest s

end Stand
end CrossShader
