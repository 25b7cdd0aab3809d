import CrossShader.Entry
import CrossShader.Json.Encoding
import CrossShader.Service.Body
import CrossShader.Text.Lines

/-!
The conversion service. A request is routed by its path, its body is read and checked, the
conversion runs, and whatever it gives becomes an answer: a failed conversion is a good answer, a
fault that no conversion reports is an internal error.
-/
namespace CrossShader.Service
open Text

namespace Address

def slash : CodePoint := 47

def beforeQuery (t : Text) : Text := t.takeWhile fun c => c != 63 && c != 35

/-- Escaped ASCII characters stand for themselves. -/
def unescape : Text → Text
  | [] => []
  | c :: rest =>
    match c, rest with
    | 37, a :: b :: tail =>
      match Json.hexValue? a, Json.hexValue? b with
      | some high, some low =>
        if high < 8 then (high * 16 + low) :: unescape tail else c :: unescape (a :: b :: tail)
      | _, _ => c :: unescape (a :: b :: tail)
    | _, rest => c :: unescape rest

def settle (steps : List Text) : List Text :=
  steps.foldl (fun done step =>
    if step = text "." then done
    else if step = text ".." then (if done = [[]] then done else done.dropLast)
    else done ++ [step]) []

def path (address : Text) : Text :=
  unescape (join [slash] (settle (splitWhere (· == slash) (beforeQuery address))))

end Address

open Address (slash)

inductive Endpoint where
  | health
  | readiness
  | convert
  | legacy
  deriving DecidableEq, Repr

namespace Endpoint

def all : List Endpoint := [health, readiness, convert, legacy]

def path : Endpoint → Text
  | health => text "/healthz"
  | readiness => text "/readyz"
  | convert => text "/v1/convert"
  | legacy => text "/v1/convert/legacy"

def method : Endpoint → Text
  | health => text "GET"
  | readiness => text "GET"
  | convert => text "POST"
  | legacy => text "POST"

def at? (path : Text) : Option Endpoint := all.find? fun e => e.path == path

def ofPath? (path : Text) : Option Endpoint :=
  (at? path).or (at? (path.reverse.dropWhile (· == slash)).reverse)

end Endpoint

inductive Payload where
  | status (word : Text)
  | detail (t : Text)
  | problems (ps : List Problem)
  | conversion (body : ResponseBody)
  | plain (t : Text)
  deriving DecidableEq, Repr

structure Response where
  status : Nat
  payload : Payload
  deriving DecidableEq, Repr

namespace Response

def notFound : Response := ⟨404, .detail (text "Not Found")⟩

def methodNotAllowed : Response := ⟨405, .detail (text "Method Not Allowed")⟩

def unreadableBody : Response := ⟨400, .detail (text "There was an error parsing the body")⟩

def internalError : Response := ⟨500, .detail (text "internal server error")⟩

def unsendable : Response := ⟨500, .plain (text "Internal Server Error")⟩

/-- Members under such a name are left out of what an answer shows. -/
def isWithheld (name : Text) : Bool := (text "_sa").isPrefixOf name

/-- Problems of a request are located in its body. Each is sent with what it is about, so all of
that must be fit to be shown. -/
def unprocessable (whole : Json) (ps : List Problem) : Response :=
  if ps.all fun p => (p.subject whole).isShowable isWithheld then
    ⟨422, .problems (ps.map (·.under (.key (text "body"))))⟩
  else unsendable

def headOnly (r : Response) : Response := { r with payload := .plain [] }

def ofAnswer (a : Answer) : Response :=
  let body : ResponseBody :=
    ⟨a.outcome.success, a.outcome.output, a.outcome.error, a.digest.getD []⟩
  if (body.output ++ body.error).all isScalar then ⟨200, .conversion body⟩ else unsendable

end Response

/-- What the bytes of a body say. A body that is empty or null says nothing. -/
inductive Content where
  | nothing
  | value (v : Json)
  | malformed (offset : Nat)
  | unreadable

/-- Objects and arrays in one another beyond this number are not read. The service itself sets no
bound: this one is what the interpreter's limit on nested calls leaves to its reader of JSON. -/
def deepest : Nat := 945

def Content.ofBytes (bytes : Bytes) : Content :=
  if bytes.isEmpty then .nothing
  else match Json.decode? bytes with
    | none => .unreadable
    | some t =>
      match Json.parse deepest t with
      | .ok .null => .nothing
      | .ok v => .value v
      | .error (.malformed offset) => .malformed offset
      | .error _ => .unreadable

structure HttpRequest where
  method : Text
  address : Text
  content : Content

/-- Methods are told apart in capitals. -/
def HttpRequest.verb (r : HttpRequest) : Text :=
  r.method.map fun c => if 97 ≤ c && c ≤ 122 then c - 32 else c

def Content.checked {α : Type} (read : Members → Checked α) : Content → Except Response α
  | nothing => .error (.unprocessable .null [⟨.missing, []⟩])
  | malformed offset => .error (.unprocessable .null [⟨.notJson, [.offset offset]⟩])
  | unreadable => .error .unreadableBody
  | value (.object ms) => (read ms).mapError (.unprocessable (.object ms))
  | value v => .error (.unprocessable v [⟨.noFields, []⟩])

def ConvertBody.submission (b : ConvertBody) : Submission :=
  ⟨b.code, b.source, b.target, some b.stage⟩

def LegacyBody.submission (b : LegacyBody) : Submission :=
  ⟨b.code, SourceDialect.glsl.name, b.target, some b.stage⟩

def Endpoint.submission (content : Content) : Endpoint → Except Response Submission
  | .convert => (content.checked ConvertBody.ofMembers).map (·.submission)
  | .legacy => (content.checked LegacyBody.ofMembers).map (·.submission)
  | .health => .error ⟨200, .status (text "ok")⟩
  | .readiness => .error ⟨200, .status (text "ready")⟩

def logger : Text := text "shader_converter.converter.http_server"

def unexpectedEntry : LogEntry :=
  ⟨.error, logger, text "unexpected error during HTTP shader conversion"⟩

variable {S : Type}

/-- Converts a submission. A stop by the user is nothing that the service answers. -/
def respond (note : LogEntry → S → S) (convert : Request → S → Except Fault Outcome × S)
    (given : Submission) (s : S) : Except Fault Response × S :=
  match Entry.digested.run convert given s with
  | (.ok answer, s) => (.ok (.ofAnswer answer), s)
  | (.error fault, s) =>
    if fault.cause.isOrdinary then (.ok .internalError, note unexpectedEntry s)
    else (.error fault, s)

def dispatch (note : LogEntry → S → S) (convert : Request → S → Except Fault Outcome × S)
    (r : HttpRequest) (s : S) : Except Fault Response × S :=
  match Endpoint.ofPath? (Address.path r.address) with
  | none => (.ok .notFound, s)
  | some endpoint =>
    if endpoint.method ≠ r.verb then (.ok .methodNotAllowed, s)
    else match endpoint.submission r.content with
      | .error response => (.ok response, s)
      | .ok given => respond note convert given s

/-- The answer to a request; to one for the head alone it has no payload. -/
def serve (note : LogEntry → S → S) (convert : Request → S → Except Fault Outcome × S)
    (r : HttpRequest) (s : S) : Except Fault Response × S :=
  let (answer, s) := dispatch note convert r s
  (if r.verb = text "HEAD" then answer.map (·.headOnly) else answer, s)

end CrossShader.Service
