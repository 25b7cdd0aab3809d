import CrossShader.Fault
import CrossShader.Text.Lines

/-!
A tree of files as a program sees it that works in one directory. Paths are followed step by step
from there or from the root: a step below a file, to a missing name or to one that is too long is an
error of the system.
-/
namespace CrossShader
open Text

inductive Node where
  | directory
  | file (content : Bytes)
  deriving DecidableEq, Repr

structure Path where
  absolute : Bool
  steps : List Text
  deriving DecidableEq, Repr

namespace Path

def slash : CodePoint := 47

def dot : Text := text "."

def up : Text := text ".."

/-- A path as it is written, with idle steps. A slash at the end asks for a directory. -/
def raw (t : Text) : Path :=
  match t with
  | 47 :: rest => ⟨true, splitWhere (· == slash) rest⟩
  | t => ⟨false, splitWhere (· == slash) t⟩

def isIdle (step : Text) : Bool := step.isEmpty || step == dot

def tidy (t : Text) : Path :=
  let p := raw t
  { p with steps := p.steps.filter (!isIdle ·) }

def render (p : Path) : Text :=
  let steps := join [slash] p.steps
  if p.absolute then slash :: steps else if p.steps.isEmpty then dot else steps

def parent (p : Path) : Path := { p with steps := p.steps.dropLast }

def nameBytes (t : Text) : Bytes :=
  t.flatMap fun c => if standsForByte c then [c.toUInt8] else Utf8.encodeChar c

def nameLength (t : Text) : Nat := (nameBytes t).length

def longestName : Nat := 255

def longestPath : Nat := 4095

end Path

/-- Nodes by the steps that lead to them from the root. -/
structure Files where
  nodes : List (List Text × Node)
  deriving DecidableEq, Repr

namespace Files

def home : List Text := [text "tmp", text "work"]

def empty : Files := ⟨[(home.take 1, .directory), (home, .directory)]⟩

def node? (fs : Files) (place : List Text) : Option Node :=
  if place.isEmpty then some .directory else fs.nodes.lookup place

/-- Where a path leads. A name may be free to take if all before it is a directory. -/
inductive Target where
  | found (place : List Text) (node : Node)
  | free (place : List Text)
  | missing
  | blocked
  | tooLong
  deriving DecidableEq, Repr

def follow (fs : Files) (place : List Text) (node : Node) : List Text → Target
  | [] => .found place node
  | step :: rest =>
    if node ≠ .directory then .blocked
    else if Path.isIdle step then follow fs place node rest
    else if step = Path.up then follow fs place.dropLast .directory rest
    else if Path.longestName < Path.nameLength step then .tooLong
    else
      let next := place ++ [step]
      match fs.node? next with
      | some node => follow fs next node rest
      | none => if rest.isEmpty then .free next else .missing

def locate (fs : Files) (p : Path) : Target :=
  if Path.longestPath < Path.nameLength p.render then .tooLong
  else follow fs (if p.absolute then [] else home) .directory p.steps

def put (fs : Files) (place : List Text) (node : Node) : Files :=
  ⟨(fs.nodes.filter fun n => n.1 != place) ++ [(place, node)]⟩

def ancestors (place : List Text) : List (List Text) :=
  (List.range place.length).map place.take |>.filter (!·.isEmpty)

/-- Files with the directories that they stand in; a path without content is a directory. -/
def ofList (entries : List (Text × Option Bytes)) : Files :=
  entries.foldl (fun fs entry =>
    let place := home ++ (Path.tidy entry.1).steps
    let fs := (ancestors place).foldl
      (fun fs a => if (fs.node? a).isSome then fs else fs.put a .directory) fs
    match entry.2 with
    | some content => fs.put place (.file content)
    | none => fs.put place .directory) empty

def read (fs : Files) (p : Path) : Except SystemError Bytes :=
  match fs.locate p with
  | .found _ (.file content) => .ok content
  | .found _ .directory => .error (.isADirectory p.render)
  | .blocked => .error (.notADirectory p.render)
  | .tooLong => .error (.nameTooLong p.render)
  | _ => .error (.notFound p.render)

def write (fs : Files) (p : Path) (content : Bytes) : Except SystemError Files :=
  match fs.locate p with
  | .found place (.file _) => .ok (fs.put place (.file content))
  | .found _ .directory => .error (.isADirectory p.render)
  | .free place => .ok (fs.put place (.file content))
  | .blocked => .error (.notADirectory p.render)
  | .tooLong => .error (.nameTooLong p.render)
  | .missing => .error (.notFound p.render)

def makeOne (fs : Files) (p : Path) : Except SystemError Files :=
  match fs.locate p with
  | .found _ .directory => .ok fs
  | .found _ (.file _) => .error (.alreadyThere p.render)
  | .free place => .ok (fs.put place .directory)
  | .blocked => .error (.notADirectory p.render)
  | .tooLong => .error (.nameTooLong p.render)
  | .missing => .error (.notFound p.render)

/--
Makes the directory that the first `count` steps name, those above it first if one is missing.
-/
def makeSteps (absolute : Bool) (steps : List Text) : Nat → Files → Except SystemError Files
  | 0, fs => fs.makeOne ⟨absolute, []⟩
  | count + 1, fs =>
    let p : Path := ⟨absolute, steps.take (count + 1)⟩
    match fs.locate p with
    | .missing => do
      let fs ← makeSteps absolute steps count fs
      fs.makeOne p
    | _ => fs.makeOne p

def makeDirectories (fs : Files) (p : Path) : Except SystemError Files :=
  makeSteps p.absolute p.steps p.steps.length fs

def fromHome? (place : List Text) : Option (List Text) :=
  if home.isPrefixOf place then some (place.drop home.length) else none

def contents (fs : Files) : List (Text × Bytes) :=
  let files := fs.nodes.filterMap fun (place, node) =>
    match node, fromHome? place with
    | .file content, some steps => some (join [Path.slash] steps, content)
    | _, _ => none
  files.mergeSort fun a b => !precedes b.1 a.1

def names (fs : Files) (steps : List Text) : List Text :=
  sorted (fs.nodes.filterMap fun (place, _) =>
    if place.dropLast = home ++ steps then place.getLast? else none)

/-- The text of a file in strict UTF-8, with unified line ends. -/
def readText (fs : Files) (p : Path) : Except Cause Text :=
  match fs.read p with
  | .error e => .error (.system e)
  | .ok content =>
    match Utf8.decode content with
    | .error e => .error (.decoding e)
    | .ok t => .ok (unifyLineEnds t)

end Files
end CrossShader
