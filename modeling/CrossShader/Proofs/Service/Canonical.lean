import CrossShader.Proofs.Service.Legacy
import CrossShader.Proofs.Text.Lowercase

/-!
The one spelling of a request. What was read of a body is read as itself when it is written out, so
reading is a projection, and two bodies are one request exactly if they agree on the source and, up
to blanks around them and case, on the selectors. Such bodies are not told apart by the service.
-/
namespace CrossShader.Service
open Text

theorem canonicalSelector_canonicalSelector (t : Text) :
    canonicalSelector (canonicalSelector t) = canonicalSelector t := by
  rw [canonicalSelector, canonicalSelector, strip_of_isTight (isTight_lower (isTight_strip t)),
    lower_lower]

def ConvertBody.written (b : ConvertBody) : Json :=
  .object [(Key.code, .string b.code), (Key.sourceDialect, .string b.source),
    (Key.targetDialect, .string b.target), (Key.stage, .string b.stage)]

def LegacyBody.written (b : LegacyBody) : Json :=
  .object [(Key.code, .string b.code), (Key.targetDialect, .string b.target),
    (Key.stage, .string b.stage)]

/-- The selectors under a key, or what stands for one that is left out, agree after they are stripped
and brought to lower case. -/
def SelectorsAgree (key fallback : Text) (ms ns : Members) : Prop :=
  ∃ t u, GivesText ms key fallback t ∧ GivesText ns key fallback u ∧
    lower (strip t) = lower (strip u)

/-- Agreement in all that a legacy body may hold. Nothing stands for a target that is left out. -/
structure LegacyAgree (ms ns : Members) : Prop where
  code : ms.lookup Key.code = ns.lookup Key.code
  target : ∃ t u, ms.lookup Key.targetDialect = some (.string t) ∧
    ns.lookup Key.targetDialect = some (.string u) ∧ lower (strip t) = lower (strip u)
  stage : SelectorsAgree Key.stage (text "fragment") ms ns

structure ConvertAgree (ms ns : Members) : Prop extends LegacyAgree ms ns where
  source : SelectorsAgree Key.sourceDialect (text "glsl") ms ns

/-- The reader keeps the source as it is given, reads what it has read as that, and reads two objects
alike exactly if they agree. -/
structure IsProjection {α : Type} (read : Json → Checked α) (written : α → Json)
    (code : α → Text) (Agree : Members → Members → Prop) : Prop where
  keeps : ∀ v a, read v = .ok a → v.member? Key.code = some (.string (code a))
  settles : ∀ v a, read v = .ok a → read (written a) = .ok a
  alike : ∀ ms ns a b, read (.object ms) = .ok a → read (.object ns) = .ok b →
    (a = b ↔ Agree ms ns)

section
variable {ms ns : Members}

theorem GivesText.unique {key fallback t u : Text} (first : GivesText ms key fallback t)
    (second : GivesText ms key fallback u) : t = u := by
  rcases first with given | ⟨absent, rfl⟩
  · exact (Json.string.inj (second.lookup given)).symm ▸ rfl
  · rcases second with given | ⟨_, rfl⟩
    · simp [absent] at given
    · rfl

theorem selectorsAgree_iff {key fallback t u : Text} (first : GivesText ms key fallback t)
    (second : GivesText ns key fallback u) :
    SelectorsAgree key fallback ms ns ↔ canonicalSelector t = canonicalSelector u := by
  constructor
  · rintro ⟨t', u', first', second', same⟩
    rwa [first.unique first', second.unique second']
  · intro same
    exact ⟨t, u, first, second, same⟩

theorem reads_back {b : ConvertBody} (accepted : ConvertBody.ofMembers ms = .ok b)
    (submits : b.code ≠ [] → Submits ns b.code b.source b.target b.stage) :
    ConvertBody.ofMembers ns = .ok b := by
  obtain ⟨scalars, source, target, stage, given, hasSource, hasTarget, hasStage⟩ :=
    ofMembers_eq_ok.mp accepted
  refine ofMembers_eq_ok.mpr
    ⟨scalars, b.source, b.target, b.stage, submits given.notEmpty, ?_, ?_, ?_⟩
  · rw [hasSource, canonicalSelector_canonicalSelector]
  · rw [hasTarget, canonicalSelector_canonicalSelector]
  · rw [hasStage, canonicalSelector_canonicalSelector]

theorem object_of_read {v : Json} {b : ConvertBody} (accepted : ConvertBody.ofValue v = .ok b) :
    ∃ ms, v = .object ms ∧ ConvertBody.ofMembers ms = .ok b := by
  cases v with
  | object ms => exact ⟨ms, rfl, accepted⟩
  | _ => simp [ConvertBody.ofValue, ofValue] at accepted

theorem read_eq_iff_agree {a b : ConvertBody} (first : ConvertBody.ofMembers ms = .ok a)
    (second : ConvertBody.ofMembers ns = .ok b) : a = b ↔ ConvertAgree ms ns := by
  obtain ⟨_, source, target, stage, given, hasSource, hasTarget, hasStage⟩ :=
    ofMembers_eq_ok.mp first
  obtain ⟨_, source', target', stage', given', hasSource', hasTarget', hasStage'⟩ :=
    ofMembers_eq_ok.mp second
  constructor
  · rintro rfl
    exact ⟨⟨given.givesCode.trans given'.givesCode.symm,
      ⟨target, target', given.givesTarget, given'.givesTarget, hasTarget.symm.trans hasTarget'⟩,
      (selectorsAgree_iff given.givesStage given'.givesStage).mpr (hasStage.symm.trans hasStage')⟩,
      (selectorsAgree_iff given.givesSource given'.givesSource).mpr
        (hasSource.symm.trans hasSource')⟩
  · intro agree
    have sameCode : a.code = b.code := by
      have same := given.givesCode.symm.trans (agree.code.trans given'.givesCode)
      exact Json.string.inj (Option.some.inj same)
    have sameSource := (selectorsAgree_iff given.givesSource given'.givesSource).mp agree.source
    have sameStage := (selectorsAgree_iff given.givesStage given'.givesStage).mp agree.stage
    have sameTarget : canonicalSelector target = canonicalSelector target' := by
      obtain ⟨t, u, first, second, same⟩ := agree.target
      rw [given.givesTarget, Option.some.injEq, Json.string.injEq] at first
      rw [given'.givesTarget, Option.some.injEq, Json.string.injEq] at second
      rwa [first, second]
    rw [← hasSource, ← hasSource'] at sameSource
    rw [← hasTarget, ← hasTarget'] at sameTarget
    rw [← hasStage, ← hasStage'] at sameStage
    cases a
    cases b
    simp_all

end

theorem convert_isProjection :
    IsProjection ConvertBody.ofValue ConvertBody.written (·.code) ConvertAgree where
  keeps := by
    intro v b accepted
    obtain ⟨ms, rfl, read⟩ := object_of_read accepted
    obtain ⟨_, _, _, _, submits, _⟩ := ofMembers_eq_ok.mp read
    exact submits.givesCode
  settles := by
    intro v b accepted
    obtain ⟨ms, rfl, read⟩ := object_of_read accepted
    exact reads_back read fun notEmpty => ⟨rfl, notEmpty, .inl rfl, rfl, .inl rfl, by simp⟩
  alike := fun _ _ _ _ => read_eq_iff_agree

theorem widened_injective {a b : LegacyBody} (same : a.widened = b.widened) : a = b := by
  cases a
  cases b
  simpa [LegacyBody.widened] using same

theorem legacy_isProjection :
    IsProjection LegacyBody.ofValue LegacyBody.written (·.code) LegacyAgree where
  keeps := by
    intro v b accepted
    exact convert_isProjection.keeps v b.widened (legacy_ofValue_eq_ok.mp accepted).2
  settles := by
    intro v b accepted
    obtain ⟨_, widened⟩ := legacy_ofValue_eq_ok.mp accepted
    obtain ⟨ms, rfl, read⟩ := object_of_read widened
    refine legacy_ofValue_eq_ok.mpr ⟨rfl, reads_back read fun notEmpty => ?_⟩
    exact ⟨rfl, notEmpty, .inr ⟨rfl, rfl⟩, rfl, .inl rfl, by simp⟩
  alike := by
    intro ms ns a b first second
    obtain ⟨absent, read⟩ := legacy_ofMembers_eq_ok.mp first
    obtain ⟨absent', read'⟩ := legacy_ofMembers_eq_ok.mp second
    have unnamed : SelectorsAgree Key.sourceDialect (text "glsl") ms ns :=
      ⟨_, _, .inr ⟨absent, rfl⟩, .inr ⟨absent', rfl⟩, rfl⟩
    have widened := read_eq_iff_agree read read'
    constructor
    · rintro rfl
      exact (widened.mp rfl).toLegacyAgree
    · intro agree
      exact widened_injective (widened.mpr ⟨agree, unnamed⟩)

/-- Two postings that nobody but their senders can tell apart. -/
structure Posting.Alike {S M I : Type} (p q : Posting S M I) : Prop where
  answer : p.answer = q.answer
  calls : p.calls = q.calls
  after : p.after = q.after

section
variable {S M I : Type} (library : Library S M I) (s : S) {x y : Bytes} {ms ns : Members}

theorem submission_of_read {b : ConvertBody} (holds : Holds x (.object ms))
    (accepted : ConvertBody.ofMembers ms = .ok b) :
    Endpoint.convert.submission (.ofBytes x) = .ok b.submission := by
  rw [ofBytes_of_holds holds]
  simp only [Endpoint.submission, Content.ofJson, Content.checked, accepted]
  rfl

theorem legacy_submission_of_read {b : LegacyBody} (holds : Holds x (.object ms))
    (accepted : LegacyBody.ofMembers ms = .ok b) :
    Endpoint.legacy.submission (.ofBytes x) = .ok b.submission := by
  rw [ofBytes_of_holds holds]
  simp only [Endpoint.submission, Content.ofJson, Content.checked, accepted]
  rfl

/-- An endpoint knows no more of a body than what it takes it to submit. -/
theorem serve_congr {T : Type} (note : LogEntry → T → T)
    (convert : Request → T → Except Fault Outcome × T) (address : Text) {endpoint : Endpoint}
    (found : Endpoint.ofPath? (Address.path address) = some endpoint)
    (method : endpoint.method = text "POST")
    (same : endpoint.submission (.ofBytes x) = endpoint.submission (.ofBytes y)) (start : T) :
    serve note convert ⟨text "POST", address, .ofBytes x⟩ start =
      serve note convert ⟨text "POST", address, .ofBytes y⟩ start := by
  rw [serve_posted note convert found method, serve_posted note convert found method, same]

theorem posting_alike {b : ConvertBody} (holds : Holds x (.object ms))
    (holds' : Holds y (.object ns)) (accepted : ConvertBody.ofMembers ms = .ok b)
    (accepted' : ConvertBody.ofMembers ns = .ok b) :
    (posting library x s).Alike (posting library y s) := by
  have same := (submission_of_read holds accepted).trans (submission_of_read holds' accepted').symm
  have served := serve_congr library.recorded.note (Conversion.convert library.recorded)
    (text "/v1/convert") (by decide) rfl same (s, [])
  simp only [posting, post, served]
  exact ⟨rfl, rfl, rfl⟩

theorem legacyPosting_alike {b : LegacyBody} (holds : Holds x (.object ms))
    (holds' : Holds y (.object ns)) (accepted : LegacyBody.ofMembers ms = .ok b)
    (accepted' : LegacyBody.ofMembers ns = .ok b) :
    (legacyPosting library x s).Alike (legacyPosting library y s) := by
  have same := (legacy_submission_of_read holds accepted).trans
    (legacy_submission_of_read holds' accepted').symm
  have served := serve_congr library.recorded.note (Conversion.convert library.recorded)
    (text "/v1/convert/legacy") (by decide) rfl same (s, [])
  simp only [legacyPosting, postLegacy, served]
  exact ⟨rfl, rfl, rfl⟩

/-- Both models of a body are projections, and each endpoint treats two accepted bodies that agree
as one request, whatever the library does. -/
theorem canonicalization_is_projection :
    IsProjection ConvertBody.ofValue ConvertBody.written (·.code) ConvertAgree ∧
      IsProjection LegacyBody.ofValue LegacyBody.written (·.code) LegacyAgree ∧
      ∀ x y ms ns, Holds x (.object ms) → Holds y (.object ns) →
        (∀ a b, ConvertBody.ofMembers ms = .ok a → ConvertBody.ofMembers ns = .ok b →
          ConvertAgree ms ns → (posting library x s).Alike (posting library y s)) ∧
        ∀ a b, LegacyBody.ofMembers ms = .ok a → LegacyBody.ofMembers ns = .ok b →
          LegacyAgree ms ns → (legacyPosting library x s).Alike (legacyPosting library y s) := by
  refine ⟨convert_isProjection, legacy_isProjection, fun x y ms ns holds holds' => ⟨?_, ?_⟩⟩
  · intro a b accepted accepted' agree
    obtain rfl := (convert_isProjection.alike ms ns a b accepted accepted').mpr agree
    exact posting_alike library s holds holds' accepted accepted'
  · intro a b accepted accepted' agree
    obtain rfl := (legacy_isProjection.alike ms ns a b accepted accepted').mpr agree
    exact legacyPosting_alike library s holds holds' accepted accepted'

end

/-- The targets differ in blanks and in case, with a sigma at the end, and one stage is left out. -/
theorem respelled_requests_are_alike :
    let x := bodyOf "\x7b\"code\":\"c\",\"target_dialect\":\" ΟΔΟΣ\"\x7d"
    let y := bodyOf "\x7b\"code\":\"c\",\"target_dialect\":\"οδος\",\"stage\":\" FRAGMENT\"\x7d"
    let ms := [(Key.code, .string (text "c")), (Key.targetDialect, .string (text " ΟΔΟΣ"))]
    let ns := [(Key.code, .string (text "c")), (Key.targetDialect, .string (text "οδος")),
      (Key.stage, .string (text " FRAGMENT"))]
    Holds x (.object ms) ∧ Holds y (.object ns) ∧
      (∃ b, ConvertBody.ofMembers ms = .ok b ∧ ConvertBody.ofMembers ns = .ok b) ∧
      (∃ b, LegacyBody.ofMembers ms = .ok b ∧ LegacyBody.ofMembers ns = .ok b) ∧
      ConvertAgree ms ns ∧ (posting agreeing x ()).Alike (posting agreeing y ()) ∧
      (legacyPosting agreeing x ()).Alike (legacyPosting agreeing y ()) := by
  intro x y ms ns
  have holds : Holds x (.object ms) :=
    ⟨text "\x7b\"code\":\"c\",\"target_dialect\":\" ΟΔΟΣ\"\x7d",
      by decide +kernel, by decide +kernel⟩
  have holds' : Holds y (.object ns) :=
    ⟨text "\x7b\"code\":\"c\",\"target_dialect\":\"οδος\",\"stage\":\" FRAGMENT\"\x7d",
      by decide +kernel, by decide +kernel⟩
  have agree : ConvertAgree ms ns :=
    ⟨⟨rfl, ⟨_, _, rfl, rfl, by decide⟩, ⟨_, _, .inr ⟨rfl, rfl⟩, .inl rfl, by decide⟩⟩,
      ⟨_, _, .inr ⟨rfl, rfl⟩, .inr ⟨rfl, rfl⟩, rfl⟩⟩
  have read : ConvertBody.ofMembers ms =
      .ok ⟨text "c", text "glsl", text "οδος", text "fragment"⟩ := by decide
  have read' : ConvertBody.ofMembers ns =
      .ok ⟨text "c", text "glsl", text "οδος", text "fragment"⟩ := by decide
  have legacy : LegacyBody.ofMembers ms = .ok ⟨text "c", text "οδος", text "fragment"⟩ := by
    decide
  have legacy' : LegacyBody.ofMembers ns = .ok ⟨text "c", text "οδος", text "fragment"⟩ := by
    decide
  obtain ⟨_, _, alike⟩ := canonicalization_is_projection agreeing ()
  obtain ⟨newer, older⟩ := alike x y ms ns holds holds'
  exact ⟨holds, holds', ⟨_, read, read'⟩, ⟨_, legacy, legacy'⟩, agree,
    newer _ _ read read' agree, older _ _ legacy legacy' agree.toLegacyAgree⟩

end CrossShader.Service
