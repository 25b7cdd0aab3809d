import CrossShader.Arguments.Shortened
import CrossShader.Fault
import CrossShader.Text.Lines
import CrossShader.Text.Table

/-!
A list of pinned requirements that follows from a project's declarations. The list is written from
them, or checked against them: then the two are compared as sets, and every difference is named.
-/
namespace CrossShader.Requirements
open Text Arguments

structure Project where
  dependencies : List Text
  extras : Table (List Text)
  deriving DecidableEq, Repr

/-- A project file may be absent, or have no table of a project. -/
inductive Manifest where
  | absent
  | noProject
  | project (p : Project)
  deriving DecidableEq, Repr

structure Desk where
  manifest : Manifest
  pinned : Option Text
  deriving DecidableEq, Repr

def distinct (ts : List Text) : List Text := ts.eraseDups

def tidied (ts : List Text) : List Text :=
  sorted ((ts.map strip).filter (!·.isEmpty))

def runtimeExtras : List Text := [text "cli", text "server"]

def Project.declared (p : Project) : List Text :=
  tidied <| distinct <|
    p.dependencies ++ runtimeExtras.flatMap fun name => (p.extras.get? name).getD []

def root : Text := text "<root>"

def manifestName : Text := text "pyproject.toml"

def pinnedName : Text := text "requirements.txt"

def notFound (name : Text) : Cause := .system (.notFound (root ++ text "/" ++ name))

def Manifest.declared : Manifest → Except Cause (List Text)
  | absent => .error (notFound manifestName)
  | noProject => .error (.key (text "project"))
  | project p => .ok p.declared

def hash : CodePoint := 35

def uncommented (line : Text) : Text := line.takeWhile (· != hash)

def pinnedIn (content : Text) : List Text :=
  tidied ((wideLines (unifyLineEnds content)).map uncommented)

def Desk.pinnedList (d : Desk) : Except Cause (List Text) :=
  match d.pinned with
  | some content => .ok (pinnedIn content)
  | none => .error (notFound pinnedName)

def header : List Text :=
  [text "# Generated from pyproject.toml (base + extras: " ++ join (text ",") runtimeExtras ++
      text ")",
    text "# Do not edit manually; run: python scripts/sync_requirements.py", []]

def render (requirements : List Text) : Text := unlines (header ++ requirements) ++ [newline]

def difference (xs ys : List Text) : List Text :=
  sorted (distinct (xs.filter (!ys.contains ·)))

structure Drift where
  missing : List Text
  unexpected : List Text
  deriving DecidableEq, Repr

def drift (expected actual : List Text) : Drift :=
  ⟨difference expected actual, difference actual expected⟩

def Drift.isNone (d : Drift) : Bool := d.missing.isEmpty && d.unexpected.isEmpty

def Drift.report (d : Drift) : Text :=
  unlines ([text "requirements.txt is out of sync with pyproject.toml."] ++
    d.missing.map (text "- missing: " ++ ·) ++ d.unexpected.map (text "- unexpected: " ++ ·) ++
    [text "Run: python scripts/sync_requirements.py"])

inductive Result where
  | done (output : Text)
  | drifted (report : Text)
  | help
  | refused (refusal : Refusal)
  | failed (cause : Cause)
  deriving DecidableEq, Repr

def checkFlag : Flag := ⟨[text "--check"], false⟩

def inSync : Text := text "requirements.txt is in sync.\n"

def written (count : Nat) : Text :=
  text "Wrote " ++ ofNat count ++ text " requirements to " ++ pinnedName ++ text "\n"

def Desk.check (d : Desk) : Result :=
  match d.manifest.declared with
  | .error cause => .failed cause
  | .ok expected =>
    let found := drift expected ((d.pinned.map pinnedIn).getD [])
    if found.isNone then .done inSync else .drifted found.report

def Desk.write (d : Desk) : Result × Desk :=
  match d.manifest.declared with
  | .error cause => (.failed cause, d)
  | .ok expected =>
    (.done (written expected.length), { d with pinned := some (render expected) })

def Desk.run (d : Desk) (words : List Text) : Result × Desk :=
  let reading := readLine [helpFlag, checkFlag] words
  if reading.uses.any (·.flag == helpFlag) then (.help, d)
  else match reading.rest with
    | .error refusal => (.refused refusal, d)
    | .ok (word :: rest) => (.refused (.leftOver (word :: rest)), d)
    | .ok [] => if reading.uses.isEmpty then d.write else (d.check, d)

end CrossShader.Requirements
