import CrossShader.Proofs.Service.Requests

/-!
Requests to the legacy endpoint. A body that does not name its source dialect is answered as the
newer endpoint answers it, problem by problem and call by call. One that does is never converted,
and the refusal is sent unless a number that it repeats is not finite.
-/
namespace CrossShader.Service
open Text

namespace Checked
variable {α β γ : Type}

theorem both_ok_left (a : α) (y : Checked β) : both (.ok a) y = y.map fun b => (a, b) := by
  cases y <;> rfl

theorem both_map_right (x : Checked α) (y : Checked β) (f : β → γ) :
    x.both (y.map f) = (x.both y).map fun (a, b) => (a, f b) := by
  cases x <;> cases y <;> rfl

theorem andNone_map (x : Checked α) (f : α → β) (more : List Problem) :
    andNone (x.map f) more = (x.andNone more).map f := by
  cases x <;> cases more <;> rfl

end Checked

theorem closed_map {α β : Type} (known : List Text) (ms : Members) (x : Checked α) (f : α → β) :
    closed known ms (x.map f) = (closed known ms x).map f := by
  rw [closed, closed]
  split
  · exact Checked.andNone_map x f (extras known ms)
  · rfl

def LegacyBody.widened (b : LegacyBody) : ConvertBody :=
  ⟨b.code, SourceDialect.glsl.name, b.target, b.stage⟩

section
variable {ms : Members} {w : Json}

theorem extras_of_absent (absent : ms.lookup Key.sourceDialect = none) :
    extras [Key.code, Key.sourceDialect, Key.targetDialect, Key.stage] ms =
      extras [Key.code, Key.targetDialect, Key.stage] ms := by
  have same : (ms.filter fun m =>
        !List.contains [Key.code, Key.sourceDialect, Key.targetDialect, Key.stage] m.1) =
      ms.filter fun m => !List.contains [Key.code, Key.targetDialect, Key.stage] m.1 := by
    apply List.filter_congr
    intro m listed
    have other : (m.1 == Key.sourceDialect) = false := by
      rw [beq_eq_false_iff_ne]
      intro eq
      obtain ⟨v, given⟩ := Table.lookup_of_mem listed
      simp [eq, absent] at given
    simp only [List.contains_cons, other, Bool.false_or]
  rw [extras, extras, same]

theorem closed_of_absent {α : Type} (absent : ms.lookup Key.sourceDialect = none)
    (fields : Checked α) :
    closed [Key.code, Key.sourceDialect, Key.targetDialect, Key.stage] ms fields =
      closed [Key.code, Key.targetDialect, Key.stage] ms fields := by
  rw [closed, closed, extras_of_absent absent]

/-- Without a source dialect the two readers find the same values or the same problems. -/
theorem ofMembers_of_absent (absent : ms.lookup Key.sourceDialect = none) :
    ConvertBody.ofMembers ms = (LegacyBody.ofMembers ms).map LegacyBody.widened := by
  have settled : withDefault readSelector SourceDialect.glsl.name Key.sourceDialect ms =
      .ok SourceDialect.glsl.name := by
    rw [withDefault, absent]
  simp only [ConvertBody.ofMembers, LegacyBody.ofMembers, settled, Checked.both_ok_left,
    Checked.both_map_right, closed_map, closed_of_absent absent]
  generalize closed _ ms _ = fields
  cases fields <;> rfl

theorem extra_of_named {key : Text} {known : List Text} (extra : key ∉ known)
    (named : ms.lookup key = some w) : ⟨.extra, [.key key]⟩ ∈ extras known ms :=
  List.mem_map.mpr ⟨(key, w),
    List.mem_filter.mpr ⟨Table.mem_of_lookup named, by simpa using extra⟩, rfl⟩

theorem closed_of_named {α : Type} {key : Text} {known : List Text} (extra : key ∉ known)
    (named : ms.lookup key = some w) (fields : Checked α) :
    ∃ ps, closed known ms fields = .error ps ∧
      ((∀ m ∈ ms, Encodable m.1) → ⟨.extra, [.key key]⟩ ∈ ps) := by
  have listed := extra_of_named extra named
  rw [closed]
  split
  case isTrue =>
    refine ⟨fields.problems ++ extras known ms, ?_, fun _ => List.mem_append_right _ listed⟩
    cases found : extras known ms with
    | nil => simp [found] at listed
    | cons p rest => cases fields <;> rfl
  case isFalse flawed =>
    refine ⟨_, rfl, fun names => absurd ?_ flawed⟩
    exact List.all_eq_true.mpr fun m member => encodable_all.mpr (names m member)

theorem legacy_refuses (named : ms.lookup Key.sourceDialect = some w) :
    ∃ ps, LegacyBody.ofMembers ms = .error ps ∧
      ((∀ m ∈ ms, Encodable m.1) → ⟨.extra, [.key Key.sourceDialect]⟩ ∈ ps) := by
  have extra : Key.sourceDialect ∉ [Key.code, Key.targetDialect, Key.stage] := by decide
  rw [LegacyBody.ofMembers]
  obtain ⟨ps, refused, listed⟩ := closed_of_named extra named
    ((required readSource Key.code ms).both <|
      (required readSelector Key.targetDialect ms).both <|
      withDefault readSelector Stage.fallback.name Key.stage ms)
  exact ⟨ps, by rw [refused]; rfl, listed⟩

theorem legacy_ofMembers_eq_ok {b : LegacyBody} :
    LegacyBody.ofMembers ms = .ok b ↔
      ms.lookup Key.sourceDialect = none ∧ ConvertBody.ofMembers ms = .ok b.widened := by
  cases named : ms.lookup Key.sourceDialect with
  | some w =>
    obtain ⟨ps, refused, _⟩ := legacy_refuses named
    simp [refused]
  | none =>
    rw [ofMembers_of_absent named, Checked.map_eq_ok]
    constructor
    · intro read
      exact ⟨rfl, b, read, rfl⟩
    · rintro ⟨_, ⟨code, target, stage⟩, read, same⟩
      obtain ⟨code', target', stage'⟩ := b
      simp only [LegacyBody.widened, ConvertBody.mk.injEq, true_and] at same
      obtain ⟨rfl, rfl, rfl⟩ := same
      exact read

theorem legacy_ofValue_eq_ok {v : Json} {b : LegacyBody} :
    LegacyBody.ofValue v = .ok b ↔
      v.member? Key.sourceDialect = none ∧ ConvertBody.ofValue v = .ok b.widened := by
  cases v with
  | object ms => exact legacy_ofMembers_eq_ok
  | _ => simp [LegacyBody.ofValue, ConvertBody.ofValue, ofValue]

theorem legacy_of_convert {v : Json} {b : ConvertBody}
    (absent : v.member? Key.sourceDialect = none) (accepted : ConvertBody.ofValue v = .ok b) :
    LegacyBody.ofValue v = .ok ⟨b.code, b.target, b.stage⟩ := by
  cases v with
  | object ms =>
    change ConvertBody.ofMembers ms = .ok b at accepted
    rw [ofMembers_of_absent absent, Checked.map_eq_ok] at accepted
    obtain ⟨c, read, rfl⟩ := accepted
    exact read
  | _ => simp [ConvertBody.ofValue, ofValue] at accepted

abbrev LegacyFlaw : Json → Json → Prop :=
  Flaw [Key.code, Key.targetDialect] [Key.code, Key.targetDialect, Key.stage]

theorem concerns_legacyMembers (scalars : (Json.object ms).HasEncoding) (w : Json) :
    (LegacyBody.ofMembers ms).Concerns (.object ms) w ↔ LegacyFlaw (.object ms) w := by
  have names : ∀ m ∈ ms, Encodable m.1 := scalars.names ms .self
  simp only [LegacyBody.ofMembers, Checked.concerns_map, concerns_closed names,
    Checked.concerns_both, concerns_required readSource_isReader,
    concerns_required readSelector_isReader, concerns_withDefault readSelector_isReader,
    selector_refuses, code_refuses scalars, flaw_object_iff, List.mem_cons, List.not_mem_nil,
    or_false, exists_eq_or_imp, exists_eq_left]
  -- As for the newer endpoint, by field on the left and by kind on the right.
  grind

end

/-- The body is an object in which a member names the source dialect. -/
def NamesSource (body : Bytes) : Prop :=
  ∃ ms w, Holds body (.object ms) ∧ ms.lookup Key.sourceDialect = some w

theorem holds_of_value {body : Bytes} {v : Json} (read : Content.ofBytes body = .value v) :
    Holds body v := by
  rw [Content.ofBytes] at read
  split at read
  · simp at read
  · cases decoded : Json.decode? body with
    | none => simp [decoded] at read
    | some t =>
      simp only [decoded] at read
      refine ⟨t, decoded, ?_⟩
      split at read
      · simp at read
      · next parsed =>
        rw [parsed, Content.value.inj read]
      · simp at read
      · simp at read

section
variable {body : Bytes}

theorem legacy_submission_of_unnamed (unnamed : ¬ NamesSource body) :
    Endpoint.legacy.submission (.ofBytes body) = Endpoint.convert.submission (.ofBytes body) := by
  cases read : Content.ofBytes body with
  | value v =>
    by_cases isObject : ∃ ms, v = .object ms
    · obtain ⟨ms, rfl⟩ := isObject
      have absent : ms.lookup Key.sourceDialect = none := by
        cases named : ms.lookup Key.sourceDialect with
        | none => rfl
        | some w => exact absurd ⟨ms, w, holds_of_value read, named⟩ unnamed
      simp only [Endpoint.submission, Content.checked, ofMembers_of_absent absent]
      cases LegacyBody.ofMembers ms <;> rfl
    · cases v with
      | object ms => exact absurd ⟨ms, rfl⟩ isObject
      | _ => rfl
  | _ => rfl

theorem legacy_submission_of_object {ms : Members} (holds : Holds body (.object ms))
    {ps : List Problem} (refused : LegacyBody.ofMembers ms = .error ps) :
    Endpoint.legacy.submission (.ofBytes body) = .error (.unprocessable (.object ms) ps) := by
  rw [ofBytes_of_holds holds]
  simp only [Endpoint.submission, Content.ofJson, Content.checked, refused]
  rfl

end

def postLegacy (body : Bytes) : HttpRequest :=
  ⟨text "POST", text "/v1/convert/legacy", .ofBytes body⟩

def legacyPosting {S M I : Type} (library : Library S M I) (body : Bytes) (s : S) :
    Posting S M I :=
  let (answer, after, calls) :=
    serve library.recorded.note (Conversion.convert library.recorded) (postLegacy body) (s, [])
  ⟨body, s, answer, calls, after⟩

/-- The library is spared, and the answer is a refusal of the source dialect by name, unless a
number that it repeats is not finite. -/
structure Posting.RefusesSource {S M I : Type} (p : Posting S M I) (ms : Members) : Prop where
  spared : p.calls = [] ∧ p.after = p.before
  status : (Json.object ms).HasEncoding →
    (p.HasStatus 422 ↔ ∀ w, LegacyFlaw (.object ms) w →
      ∀ x, Json.Seen Response.isWithheld x w → ¬ x.IsNotFinite)
  named : (Json.object ms).HasEncoding → ∀ r, p.answer = .ok r → r.status = 422 →
    ∃ ps, r.payload = .problems ps ∧
      ⟨.extra, [.key (text "body"), .key Key.sourceDialect]⟩ ∈ ps

section
variable {S M I : Type} (library : Library S M I)

theorem serve_postLegacy {T : Type} (note : LogEntry → T → T)
    (convert : Request → T → Except Fault Outcome × T) (body : Bytes) (s : T) :
    serve note convert (postLegacy body) s =
      match Endpoint.legacy.submission (.ofBytes body) with
      | .error response => (.ok response, s)
      | .ok given => respond note convert given s :=
  serve_posted note convert (by decide) rfl body s

theorem legacyPosting_of_unnamed {body : Bytes} (unnamed : ¬ NamesSource body) (s : S) :
    legacyPosting library body s = posting library body s := by
  have same {T : Type} (note : LogEntry → T → T)
      (convert : Request → T → Except Fault Outcome × T) (start : T) :
      serve note convert (postLegacy body) start = serve note convert (post body) start := by
    cases taken : Endpoint.convert.submission (.ofBytes body) <;>
      simp only [serve_postLegacy, serve_post, legacy_submission_of_unnamed unnamed, taken]
  exact congrArg (fun served => (⟨body, s, served.1, served.2.2, served.2.1⟩ : Posting S M I))
    (same library.recorded.note (Conversion.convert library.recorded) (s, []))

theorem legacyPosting_of_object {body : Bytes} {ms : Members} (holds : Holds body (.object ms))
    {ps : List Problem} (refused : LegacyBody.ofMembers ms = .error ps) (s : S) :
    legacyPosting library body s = ⟨body, s, .ok (.unprocessable (.object ms) ps), [], s⟩ := by
  rw [legacyPosting, serve_postLegacy, legacy_submission_of_object holds refused]

theorem unprocessable_payload {whole : Json} {ps : List Problem}
    (status : (Response.unprocessable whole ps).status = 422) :
    (Response.unprocessable whole ps).payload =
      .problems (ps.map (·.under (.key (text "body")))) := by
  have showable := List.all_eq_true.mpr (unprocessable_status.mp status)
  rw [Response.unprocessable, if_pos showable]

theorem legacyPosting_of_named {body : Bytes} {ms : Members} {w : Json}
    (holds : Holds body (.object ms)) (named : ms.lookup Key.sourceDialect = some w) (s : S) :
    (legacyPosting library body s).RefusesSource ms := by
  obtain ⟨ps, refused, listed⟩ := legacy_refuses named
  rw [legacyPosting_of_object library holds refused s]
  refine ⟨⟨rfl, rfl⟩, ?_, ?_⟩
  · intro scalars
    have about := concerns_legacyMembers scalars
    rw [refused] at about
    have answered : Posting.HasStatus
        (⟨body, s, .ok (.unprocessable (.object ms) ps), [], s⟩ : Posting S M I) 422 ↔
        (Response.unprocessable (.object ms) ps).status = 422 := by
      simp [Posting.HasStatus]
    rw [answered]
    exact unprocessable_status_of_flaws scalars about
  · rintro scalars _ ⟨⟩ status
    refine ⟨_, unprocessable_payload status, ?_⟩
    exact List.mem_map.mpr ⟨_, listed (scalars.names ms .self), rfl⟩

/-- Both endpoints do the same with a body that names no source dialect, whatever else it is. A
source dialect is refused by the legacy endpoint, and its bodies are those of the newer endpoint
without one. -/
theorem legacy_requests_are_answered (body : Bytes) (s : S) :
    (¬ NamesSource body → legacyPosting library body s = posting library body s) ∧
      (∀ ms w, Holds body (.object ms) → ms.lookup Key.sourceDialect = some w →
        (legacyPosting library body s).RefusesSource ms ∧
          ((Json.object ms).HasEncoding → (Json.object ms).IsFinite →
            (legacyPosting library body s).HasStatus 422)) ∧
      ∀ v, (∀ b, LegacyBody.ofValue v = .ok b ↔
          v.member? Key.sourceDialect = none ∧ ConvertBody.ofValue v = .ok b.widened) ∧
        ∀ b, v.member? Key.sourceDialect = none → ConvertBody.ofValue v = .ok b →
          LegacyBody.ofValue v = .ok ⟨b.code, b.target, b.stage⟩ := by
  refine ⟨fun unnamed => legacyPosting_of_unnamed library unnamed s, ?_,
    fun v => ⟨fun b => legacy_ofValue_eq_ok, fun b => legacy_of_convert⟩⟩
  intro ms w holds named
  have refuses := legacyPosting_of_named library holds named s
  refine ⟨refuses, ?_⟩
  intro scalars finite
  rw [refuses.status scalars]
  intro w flaw x seen
  exact finite x (seen.whatever_withheld.trans flaw.seen)

end

/-- A source dialect that is a number beyond all finite ones is not refused by name. -/
theorem infinite_source_is_not_refused :
    let given := "\x7b\"code\":\"x\",\"target_dialect\":\"hlsl\",\"source_dialect\":-1E+999\x7d"
    ∃ ms w, Holds (bodyOf given) (.object ms) ∧ ms.lookup Key.sourceDialect = some w ∧
      ¬ (legacyPosting agreeing (bodyOf given) ()).HasStatus 422 := by
  intro given
  refine ⟨[(Key.code, .string (text "x")), (Key.targetDialect, .string (text "hlsl")),
    (Key.sourceDialect, .number (.infinite true))], .number (.infinite true), ?_, rfl, ?_⟩
  · exact ⟨text given, by decide +kernel, by decide +kernel⟩
  · have answered : (legacyPosting agreeing (bodyOf given) ()).answer = .ok .unsendable := by
      decide +kernel
    rintro ⟨response, same, status⟩
    obtain rfl := Except.ok.inj (answered.symm.trans same)
    simp [Response.unsendable] at status

end CrossShader.Service
