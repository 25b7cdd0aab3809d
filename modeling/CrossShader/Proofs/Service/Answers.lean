import CrossShader.Proofs.Conversion.Digested
import CrossShader.Proofs.Conversion.Orderly
import CrossShader.Proofs.Service.Acceptance
import CrossShader.Service.App

/-!
What becomes of a request to convert. A flawed body goes no further than its reader. Any other body
is converted as it says, and the answer shows what the conversion gives, or that it broke off, but
not how.
-/
namespace CrossShader.Service
open Text

/-- The body holds the value that a reader of JSON texts finds in it. -/
def Holds (body : Bytes) (v : Json) : Prop :=
  ∃ t, Json.decode? body = some t ∧ Json.parse deepest t = .ok v

def post (body : Bytes) : HttpRequest := ⟨text "POST", text "/v1/convert", .ofBytes body⟩

/-- A request that was answered: the library before it, the answer, the calls that the library
received and the library after it. -/
structure Posting (S M I : Type) where
  body : Bytes
  before : S
  answer : Except Fault Response
  calls : List (Call M I)
  after : S

def Posting.HasStatus {S M I : Type} (p : Posting S M I) (status : Nat) : Prop :=
  ∃ r, p.answer = .ok r ∧ r.status = status

def posting {S M I : Type} (library : Library S M I) (body : Bytes) (s : S) : Posting S M I :=
  let (answer, after, calls) :=
    serve library.recorded.note (Conversion.convert library.recorded) (post body) (s, [])
  ⟨body, s, answer, calls, after⟩

/-- The calls are those of one conversion, and the answer is what it gives. One that is left by a
fault is answered without a word of it. -/
structure Posting.Converts {S M I : Type} (library : Library S M I) (p : Posting S M I)
    (r : Request) : Prop where
  calls : p.calls = (Conversion.convert library.recorded r (p.before, [])).2.2
  given : ∀ o, (Conversion.convert library.recorded r (p.before, [])).1 = .ok o →
    ∃ digest, Digest.ofText r.code = .ok digest ∧
      p.answer = .ok ⟨200, .conversion ⟨o.success, o.output, o.error, digest⟩⟩ ∧
      p.after = (Conversion.convert library.recorded r (p.before, [])).2.1
  escaped : ∀ f, (Conversion.convert library.recorded r (p.before, [])).1 = .error f →
    p.answer = .ok ⟨500, .detail (text "internal server error")⟩ ∧
      p.after = library.note unexpectedEntry
        (Conversion.convert library.recorded r (p.before, [])).2.1
  oneSided : ∀ status b, p.answer = .ok ⟨status, .conversion b⟩ →
    (b.success = true → b.error = []) ∧ (b.success = false → b.output = [])

/-- What a request is owed. A refusal can be sent only if the numbers that it repeats are finite. -/
structure Posting.IsAnswered {S M I : Type} (library : Library S M I) (p : Posting S M I) :
    Prop where
  unread : (¬ ∃ v, Holds p.body v) → p.calls = [] ∧ p.after = p.before
  spared : ∀ v w, Holds p.body v → v.HasEncoding → ConvertFlaw v w →
    p.calls = [] ∧ p.after = p.before
  refused : ∀ v, Holds p.body v → v.HasEncoding →
    (p.HasStatus 422 ∧ p.calls = [] ↔ (∃ w, ConvertFlaw v w) ∧
      ∀ w, ConvertFlaw v w → ∀ x, Json.Seen Response.isWithheld x w → ¬ x.IsNotFinite)
  converted : ∀ v, Holds p.body v → v.HasEncoding → (∀ w, ¬ ConvertFlaw v w) →
    ∃ ms code source target stage, v = .object ms ∧ Submits ms code source target stage ∧
      p.Converts library ⟨code, canonicalSelector source, canonicalSelector target,
        canonicalSelector stage⟩

def Content.ofJson : Json → Content
  | .null => .nothing
  | v => .value v

theorem ofBytes_of_holds {body : Bytes} {v : Json} (holds : Holds body v) :
    Content.ofBytes body = .ofJson v := by
  obtain ⟨t, decoded, parsed⟩ := holds
  -- An empty body says nothing either, but it holds no value.
  cases body with
  | nil =>
    have empty : Json.decode? [] = some [] := by decide +kernel
    have nothing : (Json.parse deepest []).isOk = false := by decide
    rw [empty, Option.some.injEq] at decoded
    rw [← decoded] at parsed
    simp [parsed, Except.isOk, Except.toBool] at nothing
  | cons b rest =>
    rw [Content.ofBytes, decoded]
    simp only [parsed]
    cases v <;> rfl

section
variable {ms : Members} {v w : Json}

theorem flaw_of_other {needed known : List Text} (other : ∀ ms, v ≠ .object ms) :
    Flaw needed known v w ↔ v = w := by
  constructor
  · intro flaw
    cases flaw with
    | notObject => rfl
    | _ => exact absurd rfl (other _)
  · rintro rfl
    exact .notObject other

theorem submission_of_flaw (scalars : v.HasEncoding) (flaw : ConvertFlaw v w) :
    ∃ ps, Endpoint.convert.submission (.ofJson v) = .error (.unprocessable v ps) ∧
      ∀ u, (∃ p ∈ ps, p.subject v = u) ↔ ConvertFlaw v u := by
  by_cases isObject : ∃ ms, v = .object ms
  · obtain ⟨ms, rfl⟩ := isObject
    have concerns := concerns_ofMembers scalars
    cases result : ConvertBody.ofMembers ms with
    | ok b =>
      rw [← concerns, result] at flaw
      exact absurd flaw (Checked.concerns_ok b)
    | error ps =>
      rw [result] at concerns
      refine ⟨ps, ?_, concerns⟩
      simp only [Endpoint.submission, Content.ofJson, Content.checked, result]
      rfl
  · have other : ∀ ms, v ≠ .object ms := fun ms same => isObject ⟨ms, same⟩
    simp only [flaw_of_other other]
    cases v with
    | null => exact ⟨[⟨.missing, []⟩], rfl, by simp [Problem.subject]⟩
    | object ms => exact absurd rfl (other ms)
    | _ => exact ⟨[⟨.noFields, []⟩], rfl, by simp [Problem.subject]⟩

theorem submission_of_submits {code source target stage : Text} (scalars : Encodable code)
    (submits : Submits ms code source target stage) :
    Endpoint.convert.submission (.ofJson (.object ms)) =
      .ok ⟨code, canonicalSelector source, canonicalSelector target,
        some (canonicalSelector stage)⟩ := by
  have read : ConvertBody.ofMembers ms = .ok ⟨code, canonicalSelector source,
      canonicalSelector target, canonicalSelector stage⟩ :=
    ofMembers_eq_ok.mpr ⟨scalars, source, target, stage, submits, rfl, rfl, rfl⟩
  simp only [Endpoint.submission, Content.ofJson, Content.checked, read]
  rfl

end

theorem unprocessable_status {whole : Json} {ps : List Problem} :
    (Response.unprocessable whole ps).status = 422 ↔
      ∀ p ∈ ps, (p.subject whole).isShowable Response.isWithheld = true := by
  rw [← List.all_eq_true, Response.unprocessable]
  constructor
  · intro status
    split at status
    · assumption
    · simp [Response.unsendable] at status
  · intro showable
    rw [if_pos showable]

theorem unprocessable_status_of_flaws {needed known : List Text} {v : Json} {ps : List Problem}
    (scalars : v.HasEncoding)
    (about : ∀ w, (∃ p ∈ ps, p.subject v = w) ↔ Flaw needed known v w) :
    (Response.unprocessable v ps).status = 422 ↔ ∀ w, Flaw needed known v w →
      ∀ x, Json.Seen Response.isWithheld x w → ¬ x.IsNotFinite := by
  rw [unprocessable_status]
  constructor
  · intro showable w flawed
    obtain ⟨p, listed, rfl⟩ := (about w).mpr flawed
    exact (Json.isShowable_of_hasEncoding _ (scalars.of_seen flawed.seen)).mp (showable p listed)
  · intro finite p listed
    have flawed := (about (p.subject v)).mp ⟨p, listed, rfl⟩
    exact (Json.isShowable_of_hasEncoding _ (scalars.of_seen flawed.seen)).mpr (finite _ flawed)

section
variable {S : Type} (note : LogEntry → S → S) (convert : Request → S → Except Fault Outcome × S)

theorem serve_posted {address : Text} {endpoint : Endpoint}
    (found : Endpoint.ofPath? (Address.path address) = some endpoint)
    (method : endpoint.method = text "POST") (body : Bytes) (s : S) :
    serve note convert ⟨text "POST", address, .ofBytes body⟩ s =
      match endpoint.submission (.ofBytes body) with
      | .error response => (.ok response, s)
      | .ok given => respond note convert given s := by
  have verb : HttpRequest.verb ⟨text "POST", address, .ofBytes body⟩ = text "POST" := rfl
  have notHead : text "POST" ≠ text "HEAD" := by decide
  cases taken : endpoint.submission (.ofBytes body) <;>
    simp only [serve, dispatch, found, verb, method, if_neg notHead, ne_eq, not_true_eq_false,
      if_false, taken]

theorem serve_post (body : Bytes) (s : S) :
    serve note convert (post body) s =
      match Endpoint.convert.submission (.ofBytes body) with
      | .error response => (.ok response, s)
      | .ok given => respond note convert given s :=
  serve_posted note convert (by decide) rfl body s

variable {convert} {code source target stage : Text} {s s' : S}

theorem respond_of_given {o : Outcome} (scalars : Encodable code) (output : Encodable o.output)
    (error : Encodable o.error) (run : convert ⟨code, source, target, stage⟩ s = (.ok o, s')) :
    ∃ digest, Digest.ofText code = .ok digest ∧
      respond note convert ⟨code, source, target, some stage⟩ s =
        (.ok ⟨200, .conversion ⟨o.success, o.output, o.error, digest⟩⟩, s') := by
  obtain ⟨digest, digested⟩ : ∃ digest, Digest.ofText code = .ok digest :=
    ⟨_, Digest.ofText_of_encodable scalars⟩
  have sendable : (o.output ++ o.error).all isScalar = true :=
    encodable_all.mpr (encodable_append.mpr ⟨output, error⟩)
  refine ⟨digest, digested, ?_⟩
  simp only [respond, Entry.run, Entry.request, run, Entry.answer, digested, Response.ofAnswer,
    Option.getD_some, sendable, if_true]

theorem respond_of_escaped {f : Fault} (ordinary : f.cause.isOrdinary = true)
    (run : convert ⟨code, source, target, stage⟩ s = (.error f, s')) :
    respond note convert ⟨code, source, target, some stage⟩ s =
      (.ok .internalError, note unexpectedEntry s') := by
  simp only [respond, Entry.run, Entry.request, run, ordinary, if_true]

end

theorem submission_of_unread {body : Bytes} (unread : ¬ ∃ v, Holds body v) :
    ∃ response, Endpoint.convert.submission (.ofBytes body) = .error response := by
  rw [Content.ofBytes]
  split
  · exact ⟨_, rfl⟩
  · cases decoded : Json.decode? body with
    | none => exact ⟨_, rfl⟩
    | some t =>
      cases parsed : Json.parse deepest t with
      | ok v => exact absurd ⟨v, t, decoded, parsed⟩ unread
      | error failure =>
        simp only [parsed]
        cases failure <;> exact ⟨_, rfl⟩

section
variable {S M I : Type} {library : Library S M I} {body : Bytes}

theorem posting_of_refused {response : Response}
    (refused : Endpoint.convert.submission (.ofBytes body) = .error response) (s : S) :
    posting library body s = ⟨body, s, .ok response, [], s⟩ := by
  rw [posting, serve_post, refused]

theorem posting_of_flaw (library : Library S M I) {v w : Json} (holds : Holds body v)
    (scalars : v.HasEncoding) (flaw : ConvertFlaw v w) (s : S) :
    ∃ ps, posting library body s = ⟨body, s, .ok (.unprocessable v ps), [], s⟩ ∧
      ∀ u, (∃ p ∈ ps, p.subject v = u) ↔ ConvertFlaw v u := by
  obtain ⟨ps, refused, about⟩ := submission_of_flaw scalars flaw
  rw [← ofBytes_of_holds holds] at refused
  exact ⟨ps, posting_of_refused refused s, about⟩

/-- A flawed body is refused by name unless what the refusal has to show cannot be shown. -/
theorem posting_status_of_flaw (library : Library S M I) {v w : Json} (holds : Holds body v)
    (scalars : v.HasEncoding) (flaw : ConvertFlaw v w) (s : S) :
    (posting library body s).HasStatus 422 ↔
      ∀ u, ConvertFlaw v u → ∀ x, Json.Seen Response.isWithheld x u → ¬ x.IsNotFinite := by
  obtain ⟨ps, posted, about⟩ := posting_of_flaw library holds scalars flaw s
  have answered : (posting library body s).HasStatus 422 ↔
      (Response.unprocessable v ps).status = 422 := by
    rw [posted]
    simp [Posting.HasStatus]
  rw [answered]
  exact unprocessable_status_of_flaws scalars about

theorem posting_of_accepted (orderly : library.IsOrderly) {r : Request}
    (accepted : Endpoint.convert.submission (.ofBytes body) =
      .ok ⟨r.code, r.source, r.target, some r.stage⟩)
    (scalars : Encodable r.code) (target : Encodable r.target) (s : S) :
    (posting library body s).Converts library r := by
  obtain ⟨given, escaped⟩ := Conversion.orderly_convert orderly scalars target s
  obtain ⟨made, recorded⟩ := Conversion.convert_recorded library r s
  have run := recorded []
  have posted : posting library body s =
      let answer := respond library.recorded.note (Conversion.convert library.recorded)
        ⟨r.code, r.source, r.target, some r.stage⟩ (s, [])
      ⟨body, s, answer.1, answer.2.2, answer.2.1⟩ := by
    rw [posting, serve_post, accepted]
  cases result : (Conversion.convert library r s).1 with
  | ok o =>
    rw [result] at run
    obtain ⟨output, error⟩ := given o result
    obtain ⟨digest, digested, answered⟩ :=
      respond_of_given library.recorded.note scalars output error run
    rw [posted, answered]
    refine ⟨?_, ?_, ?_, ?_⟩
    · rw [run]
    · rw [run]
      rintro _ ⟨⟩
      exact ⟨digest, digested, rfl, rfl⟩
    · rw [run]
      simp
    · rintro _ _ ⟨⟩
      cases o <;> simp [Outcome.success, Outcome.error, Outcome.output]
  | error f =>
    rw [result] at run
    have answered := respond_of_escaped library.recorded.note (escaped f result) run
    rw [posted, answered]
    refine ⟨?_, ?_, ?_, ?_⟩
    · rw [run]
      rfl
    · rw [run]
      simp
    · rw [run]
      rintro _ ⟨⟩
      exact ⟨rfl, rfl⟩
    · rintro _ _ ⟨⟩

theorem posting_converts (orderly : library.IsOrderly) {ms : Members}
    {code source target stage : Text} (holds : Holds body (.object ms))
    (scalars : (Json.object ms).HasEncoding) (submits : Submits ms code source target stage)
    (s : S) :
    (posting library body s).Converts library ⟨code, canonicalSelector source,
      canonicalSelector target, canonicalSelector stage⟩ := by
  have codeScalars := scalars.strings code (seen_of_lookup submits.givesCode)
  have targetScalars := scalars.strings target (seen_of_lookup submits.givesTarget)
  have accepted := submission_of_submits codeScalars submits
  rw [← ofBytes_of_holds holds] at accepted
  exact posting_of_accepted orderly accepted codeScalars
    (encodable_lower (encodable_strip targetScalars)) s

theorem Posting.Converts.not_refused {p : Posting S M I} {r : Request}
    (converts : p.Converts library r) : ¬ p.HasStatus 422 := by
  rintro ⟨response, answered, status⟩
  cases run : (Conversion.convert library.recorded r (p.before, [])).1 with
  | ok o =>
    obtain ⟨digest, _, same, _⟩ := converts.given o run
    obtain rfl := Except.ok.inj (same.symm.trans answered)
    simp at status
  | error f =>
    obtain ⟨same, _⟩ := converts.escaped f run
    obtain rfl := Except.ok.inj (same.symm.trans answered)
    simp at status

theorem posting_isAnswered (orderly : library.IsOrderly) (body : Bytes) (s : S) :
    (posting library body s).IsAnswered library := by
  have converted (v : Json) (holds : Holds body v) (scalars : v.HasEncoding)
      (sound : ∀ w, ¬ ConvertFlaw v w) :
      ∃ ms code source target stage, v = .object ms ∧ Submits ms code source target stage ∧
        (posting library body s).Converts library ⟨code, canonicalSelector source,
          canonicalSelector target, canonicalSelector stage⟩ := by
    by_cases isObject : ∃ ms, v = .object ms
    · obtain ⟨ms, rfl⟩ := isObject
      obtain ⟨code, source, target, stage, submits⟩ := submits_of_sound sound
      exact ⟨ms, code, source, target, stage, rfl, submits,
        posting_converts orderly holds scalars submits s⟩
    · exact absurd (.notObject fun ms same => isObject ⟨ms, same⟩) (sound v)
  have spared (v w : Json) (holds : Holds body v) (scalars : v.HasEncoding)
      (flaw : ConvertFlaw v w) :
      (posting library body s).calls = [] ∧ (posting library body s).after = s := by
    obtain ⟨ps, posted, _⟩ := posting_of_flaw library holds scalars flaw s
    rw [posted]
    exact ⟨rfl, rfl⟩
  refine ⟨?_, spared, ?_, converted⟩
  · intro unread
    obtain ⟨response, refused⟩ := submission_of_unread unread
    have posted : posting library body s = ⟨body, s, .ok response, [], s⟩ :=
      posting_of_refused refused s
    rw [posted]
    exact ⟨rfl, rfl⟩
  · intro v holds scalars
    by_cases flawed : ∃ w, ConvertFlaw v w
    · obtain ⟨w, flaw⟩ := flawed
      have status := posting_status_of_flaw library holds scalars flaw s
      constructor
      · intro refusal
        exact ⟨⟨w, flaw⟩, status.mp refusal.1⟩
      · intro finite
        exact ⟨status.mpr finite.2, (spared v w holds scalars flaw).1⟩
    · obtain ⟨_, _, _, _, _, _, _, converts⟩ :=
        converted v holds scalars fun w flaw => flawed ⟨w, flaw⟩
      constructor
      · intro refusal
        exact absurd refusal.1 converts.not_refused
      · intro finite
        exact absurd finite.1 flawed

end

end CrossShader.Service
