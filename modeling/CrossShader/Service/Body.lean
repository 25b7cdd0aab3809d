import CrossShader.Json.Basic
import CrossShader.Selector
import CrossShader.Service.Problem
import CrossShader.Text.Casing
import CrossShader.Text.Lines

/-!
The bodies that requests and answers may have. Each is an object with known members only; the source
is kept as it is, selectors are brought to one spelling.
-/
namespace CrossShader.Service
open Text

def canonicalSelector (t : Text) : Text := lower (strip t)

structure ConvertBody where
  code : Text
  source : Text
  target : Text
  stage : Text
  deriving DecidableEq, Repr

structure LegacyBody where
  code : Text
  target : Text
  stage : Text
  deriving DecidableEq, Repr

structure ResponseBody where
  success : Bool
  output : Text
  error : Text
  digest : Text
  deriving DecidableEq, Repr

abbrev Members := List (Text × Json)

namespace Key

def code : Text := text "code"
def sourceDialect : Text := text "source_dialect"
def targetDialect : Text := text "target_dialect"
def stage : Text := text "stage"
def success : Text := text "success"
def output : Text := text "output"
def error : Text := text "error"
def digest : Text := text "input_sha256"

end Key

def readText : Json → Except Complaint Text
  | .string t => .ok t
  | _ => .error .notText

/-- A source needs a first character, and must be text in the sense of Unicode. -/
def readSource : Json → Except Complaint Text
  | .string [] => .error .textTooShort
  | .string t => if t.all isScalar then .ok t else .error .textNotUnicode
  | _ => .error .notText

def readSelector (v : Json) : Except Complaint Text := (readText v).map canonicalSelector

def trueWords : List Text :=
  [text "1", text "on", text "t", text "true", text "y", text "yes"]

def falseWords : List Text :=
  [text "0", text "off", text "f", text "false", text "n", text "no"]

def wordBound : Int := 0x8000000000000000

def readWholeFlag (n : Int) : Except Complaint Bool :=
  if n = 0 then .ok false else if n = 1 then .ok true else .error .flagUnreadable

def readFlagWord (t : Text) : Except Complaint Bool :=
  let word := t.map lowerAscii
  if trueWords.contains word then .ok true
  else if falseWords.contains word then .ok false
  else .error .flagUnreadable

/--
A flag may come as a number or as a word. A whole number counts as one only if it fits a word of 64
bits, and one written with a point or an exponent only if it lies inside that range.
-/
def readFlag : Json → Except Complaint Bool
  | .bool b => .ok b
  | .integer n => if -wordBound ≤ n ∧ n < wordBound then readWholeFlag n else .error .notFlag
  | .number x =>
    match x.toInt? with
    | some n => if -wordBound < n ∧ n < wordBound then readWholeFlag n else .error .notFlag
    | none => .error .notFlag
  | .string t => if t.all isScalar then readFlagWord t else .error .textNotUnicode
  | _ => .error .notFlag

def located {α : Type} (key : Text) : Except Complaint α → Checked α
  | .ok a => .ok a
  | .error c => .error [⟨c, [.key key]⟩]

def required {α : Type} (read : Json → Except Complaint α) (key : Text) (ms : Members) :
    Checked α :=
  match ms.lookup key with
  | some v => located key (read v)
  | none => .error [⟨.missing, [.key key]⟩]

def withDefault {α : Type} (read : Json → Except Complaint α) (fallback : α) (key : Text)
    (ms : Members) : Checked α :=
  match ms.lookup key with
  | some v => located key (read v)
  | none => .ok fallback

def extras (known : List Text) (ms : Members) : List Problem :=
  (ms.filter fun m => !known.contains m.1).map fun m => ⟨.extra, [.key m.1]⟩

/-- The fields of an object if it has no unknown members. A name without an encoding is the only
problem that counts. -/
def closed {α : Type} (known : List Text) (ms : Members) (fields : Checked α) : Checked α :=
  if ms.all fun m => m.1.all isScalar then fields.andNone (extras known ms)
  else .error [⟨.textNotUnicode, []⟩]

def ConvertBody.ofMembers (ms : Members) : Checked ConvertBody :=
  let fields := (required readSource Key.code ms).both <|
    (withDefault readSelector SourceDialect.glsl.name Key.sourceDialect ms).both <|
    (required readSelector Key.targetDialect ms).both <|
    withDefault readSelector Stage.fallback.name Key.stage ms
  (closed [Key.code, Key.sourceDialect, Key.targetDialect, Key.stage] ms fields).map
    fun (c, s, t, g) => ⟨c, s, t, g⟩

def LegacyBody.ofMembers (ms : Members) : Checked LegacyBody :=
  let fields := (required readSource Key.code ms).both <|
    (required readSelector Key.targetDialect ms).both <|
    withDefault readSelector Stage.fallback.name Key.stage ms
  (closed [Key.code, Key.targetDialect, Key.stage] ms fields).map
    fun (c, t, g) => ⟨c, t, g⟩

def ResponseBody.ofMembers (ms : Members) : Checked ResponseBody :=
  let fields := (required readFlag Key.success ms).both <|
    (required readText Key.output ms).both <|
    (required readText Key.error ms).both <|
    required readText Key.digest ms
  (closed [Key.success, Key.output, Key.error, Key.digest] ms fields).map
    fun (s, o, e, d) => ⟨s, o, e, d⟩

def ofValue {α : Type} (model : Text) (read : Members → Checked α) : Json → Checked α
  | .object ms => read ms
  | _ => .error [⟨.notObject model, []⟩]

def ConvertBody.ofValue : Json → Checked ConvertBody :=
  Service.ofValue (text "ConvertRequestBody") ConvertBody.ofMembers

def LegacyBody.ofValue : Json → Checked LegacyBody :=
  Service.ofValue (text "LegacyConvertRequestBody") LegacyBody.ofMembers

def ResponseBody.ofValue : Json → Checked ResponseBody :=
  Service.ofValue (text "ConvertResponseBody") ResponseBody.ofMembers

end CrossShader.Service
