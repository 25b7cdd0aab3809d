import CrossShader.Files

/-!
Import boundaries of a source tree: some files must not mention the transports or the starting of
processes. A mention is any occurrence of a banned phrase, and the first one found ends the check.
-/
namespace CrossShader.Boundaries
open Text

/-- A phrase and the file in which it was found, or a file that could not be read. -/
inductive Breach where
  | mention (file phrase : Text)
  | unreadable (cause : Cause)
  deriving DecidableEq, Repr

def root : Text := text "<root>"

def package : List Text := [text "src", text "shader_converter"]

def transportPhrases : List Text :=
  [text "import typer", text "from typer", text "import fastapi", text "from fastapi"]

def corePhrases : List Text := transportPhrases ++ [text "import subprocess"]

def commandPhrases : List Text := [text "import fastapi", text "from fastapi"]

def shown (place : List Text) : Text := join [Path.slash] (root :: place)

def rerooted (place : List Text) : Cause → Cause
  | .system (.numbered n reason (some _)) => .system (.numbered n reason (some (shown place)))
  | cause => cause

def checkFile (fs : Files) (place : List Text) (phrases : List Text) : Except Breach Unit :=
  match fs.readText ⟨false, place⟩ with
  | .error cause => .error (.unreadable (rerooted place cause))
  | .ok t =>
    match phrases.find? fun phrase => occurs phrase t with
    | some phrase => .error (.mention (shown place) phrase)
    | none => .ok ()

def isModule (name : Text) : Bool := (text ".py").isSuffixOf name

def modulesIn (fs : Files) (directory : Text) : List (List Text) :=
  let place := package ++ [directory]
  ((fs.names place).filter isModule).map fun name => place ++ [name]

def rules (fs : Files) : List (List Text × List Text) :=
  ((package ++ [text "normalize.py"]) ::
    (modulesIn fs (text "application") ++ modulesIn fs (text "adapters"))).map
      (fun place => (place, corePhrases)) ++
    [(package ++ [text "cli", text "cli.py"], commandPhrases)]

def check (fs : Files) : Except Breach Unit :=
  (rules fs).forM fun (place, phrases) => checkFile fs place phrases

def violation (file phrase : Text) : Text :=
  text "Architecture violation in " ++ file ++ text ": found '" ++ phrase ++ text "'"

def passed : Text := text "Architecture checks passed.\n"

end CrossShader.Boundaries
