import CrossShader.Fault
import CrossShader.Library

/-!
Hooks for faults that nothing catches, one for the main thread and one for all others. An installed
hook logs a fault and then runs the hook it found in place; only the first installation counts.
-/
namespace CrossShader.Diagnostics

inductive Where where
  | main
  | thread
  deriving DecidableEq, Repr

/-- A hook that records, known by a tag, or one that logs and hands on. -/
inductive Hook where
  | recorder (tag : Text)
  | logging (previous : Hook)
  deriving DecidableEq, Repr

/--
An uncaught fault: its class and, unless it has none, its value. A worker thread may have a name.
-/
structure Event where
  place : Where
  thread : Option Text
  cause : Cause
  hasValue : Bool
  deriving DecidableEq, Repr

inductive Effect where
  | logged (entry : LogEntry)
  | reached (tag : Text) (place : Where) (className : Text) (value : Option Text)
  deriving DecidableEq, Repr

def logger : Text := text "shader_converter.diagnostics"

def Event.site (e : Event) : Text :=
  match e.place with
  | .main => text "main thread"
  | .thread => e.thread.getD (text "thread")

/-- A stop by the user is nothing to report, nor is a worker's fault without a value. -/
def Event.isReported (e : Event) : Bool :=
  !e.cause.isInterrupt && (e.place == .main || e.hasValue)

def Event.entry (e : Event) : LogEntry :=
  ⟨.critical, logger, text "uncaught " ++ e.cause.className ++ text " in " ++ e.site⟩

def Hook.run (e : Event) : Hook → List Effect
  | recorder tag =>
    [.reached tag e.place e.cause.className (if e.hasValue then some e.cause.message else none)]
  | logging previous => (if e.isReported then [.logged e.entry] else []) ++ previous.run e

structure Hooks where
  installed : Bool
  main : Hook
  thread : Hook
  deriving DecidableEq, Repr

inductive Step where
  | install
  | replace (tag : Text)
  | uncaught (e : Event)
  deriving DecidableEq, Repr

namespace Hooks

def opening (tag : Text) : Hooks := ⟨false, .recorder tag, .recorder tag⟩

def install (h : Hooks) : Hooks :=
  if h.installed then h else ⟨true, .logging h.main, .logging h.thread⟩

def hook (h : Hooks) : Where → Hook
  | .main => h.main
  | .thread => h.thread

def step (h : Hooks) : Step → Hooks × Bool × List Effect
  | .install => (h.install, !h.installed, [])
  | .replace tag => ({ h with main := .recorder tag, thread := .recorder tag }, true, [])
  | .uncaught e => (h, false, (h.hook e.place).run e)

def play : List Step → Hooks → List (Bool × List Effect)
  | [], _ => []
  | s :: rest, h =>
    let (h, changed, effects) := h.step s
    (changed, effects) :: play rest h

end Hooks
end CrossShader.Diagnostics
