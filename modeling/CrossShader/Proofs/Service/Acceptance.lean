import CrossShader.Proofs.Json.Showable
import CrossShader.Proofs.Service.Checked

/-!
Which bodies are accepted. A body either submits a source with its selectors or has a flaw, and
never both; the reader of bodies accepts the former, and its problems are about the flaws.
-/
namespace CrossShader.Service
open Text

/-- The text under `key`, or `fallback` if the member is left out. -/
def GivesText (ms : Members) (key fallback t : Text) : Prop :=
  ms.lookup key = some (.string t) ∨ ms.lookup key = none ∧ t = fallback

structure Submits (ms : Members) (code source target stage : Text) : Prop where
  givesCode : ms.lookup Key.code = some (.string code)
  notEmpty : code ≠ []
  givesSource : GivesText ms Key.sourceDialect (text "glsl") source
  givesTarget : ms.lookup Key.targetDialect = some (.string target)
  givesStage : GivesText ms Key.stage (text "fragment") stage
  nothingElse : ∀ m ∈ ms, m.1 ∈ [Key.code, Key.sourceDialect, Key.targetDialect, Key.stage]

/-- Something is wrong with a body, and `w` is the value that it is about: the body itself if it is
no object or lacks a member, else what stands in the wrong place. -/
inductive Flaw (needed known : List Text) : Json → Json → Prop where
  | notObject {v : Json} (other : ∀ ms, v ≠ .object ms) : Flaw needed known v v
  | absent {ms : Members} {key : Text} (needs : key ∈ needed) (absent : ms.lookup key = none) :
      Flaw needed known (.object ms) (.object ms)
  | notText {ms : Members} {key : Text} {w : Json} (knows : key ∈ known)
      (given : ms.lookup key = some w) (other : ∀ t, w ≠ .string t) :
      Flaw needed known (.object ms) w
  | emptyCode {ms : Members} (given : ms.lookup Key.code = some (.string [])) :
      Flaw needed known (.object ms) (.string [])
  | unknown {ms : Members} {key : Text} {w : Json} (extra : key ∉ known)
      (given : ms.lookup key = some w) : Flaw needed known (.object ms) w

abbrev ConvertFlaw : Json → Json → Prop :=
  Flaw [Key.code, Key.targetDialect]
    [Key.code, Key.sourceDialect, Key.targetDialect, Key.stage]

section
variable {ms : Members}

theorem seen_of_lookup {key : Text} {w : Json} (given : ms.lookup key = some w) :
    Json.Seen Json.nothingWithheld w (.object ms) :=
  .member (Table.mem_of_lookup given) rfl .self

theorem Flaw.seen {needed known : List Text} {v w : Json} (flaw : Flaw needed known v w) :
    Json.Seen Json.nothingWithheld w v := by
  cases flaw with
  | notObject => exact .self
  | absent => exact .self
  | notText _ given _ => exact seen_of_lookup given
  | emptyCode given => exact seen_of_lookup given
  | unknown _ given => exact seen_of_lookup given

theorem GivesText.lookup {key fallback t : Text} (gives : GivesText ms key fallback t) {w : Json}
    (given : ms.lookup key = some w) : w = .string t := by
  rcases gives with submitted | ⟨absent, _⟩
  · exact Option.some.inj (given.symm.trans submitted)
  · simp [absent] at given

theorem Submits.not_flaw {code source target stage : Text}
    (submits : Submits ms code source target stage) (w : Json) : ¬ ConvertFlaw (.object ms) w := by
  rintro (⟨other⟩ | ⟨needs, absent⟩ | ⟨knows, given, other⟩ | ⟨given⟩ | ⟨extra, given⟩)
  · exact other ms rfl
  · simp only [List.mem_cons, List.not_mem_nil, or_false] at needs
    rcases needs with rfl | rfl
    · simp [submits.givesCode] at absent
    · simp [submits.givesTarget] at absent
  · simp only [List.mem_cons, List.not_mem_nil, or_false] at knows
    rcases knows with rfl | rfl | rfl | rfl
    · exact other code (Option.some.inj (given.symm.trans submits.givesCode))
    · exact other source (submits.givesSource.lookup given)
    · exact other target (Option.some.inj (given.symm.trans submits.givesTarget))
    · exact other stage (submits.givesStage.lookup given)
  · have same := Option.some.inj (submits.givesCode.symm.trans given)
    exact submits.notEmpty (by simpa using same)
  · exact extra (submits.nothingElse (_, w) (Table.mem_of_lookup given))

section
variable {needed known : List Text} (sound : ∀ w, ¬ Flaw needed known (.object ms) w)
include sound

theorem text_of_sound {key : Text} (knows : key ∈ known) {w : Json}
    (given : ms.lookup key = some w) : ∃ t, w = .string t := by
  by_contra none
  exact sound w (.notText knows given fun t same => none ⟨t, same⟩)

theorem needed_text_of_sound (key : Text) (needs : key ∈ needed) (knows : key ∈ known) :
    ∃ t, ms.lookup key = some (.string t) := by
  cases given : ms.lookup key with
  | none => exact absurd (.absent needs given) (sound (.object ms))
  | some w =>
    obtain ⟨t, rfl⟩ := text_of_sound sound knows given
    exact ⟨t, rfl⟩

theorem givesText_of_sound (key fallback : Text) (knows : key ∈ known) :
    ∃ t, GivesText ms key fallback t := by
  cases given : ms.lookup key with
  | none => exact ⟨fallback, .inr ⟨given, rfl⟩⟩
  | some w =>
    obtain ⟨t, rfl⟩ := text_of_sound sound knows given
    exact ⟨t, .inl given⟩

theorem known_of_sound : ∀ m ∈ ms, m.1 ∈ known := by
  intro m listed
  by_contra extra
  obtain ⟨w, given⟩ := Table.lookup_of_mem listed
  exact sound w (.unknown extra given)

end

theorem submits_of_sound (sound : ∀ w, ¬ ConvertFlaw (.object ms) w) :
    ∃ code source target stage, Submits ms code source target stage := by
  obtain ⟨code, hasCode⟩ := needed_text_of_sound sound Key.code (by simp) (by simp)
  obtain ⟨target, hasTarget⟩ :=
    needed_text_of_sound sound Key.targetDialect (by simp) (by simp)
  obtain ⟨source, hasSource⟩ :=
    givesText_of_sound sound Key.sourceDialect (text "glsl") (by simp)
  obtain ⟨stage, hasStage⟩ :=
    givesText_of_sound sound Key.stage (text "fragment") (by simp)
  refine ⟨code, source, target, stage, hasCode, ?_, hasSource, hasTarget, hasStage,
    known_of_sound sound⟩
  rintro rfl
  exact sound _ (.emptyCode hasCode)

end

section
variable {ms : Members}

theorem selector_eq_ok {key fallback t : Text}
    (settled : canonicalSelector fallback = fallback) :
    withDefault readSelector fallback key ms = .ok t ↔
      ∃ u, GivesText ms key fallback u ∧ t = canonicalSelector u := by
  simp only [withDefault_eq_ok, readSelector_eq_ok, GivesText]
  constructor
  · rintro (⟨v, given, u, rfl, rfl⟩ | ⟨absent, rfl⟩)
    · exact ⟨u, .inl given, rfl⟩
    · exact ⟨t, .inr ⟨absent, rfl⟩, settled.symm⟩
  · rintro ⟨u, given | ⟨absent, rfl⟩, rfl⟩
    · exact .inl ⟨_, given, u, rfl, rfl⟩
    · exact .inr ⟨absent, settled⟩

theorem known_keys_encodable :
    ∀ key ∈ [Key.code, Key.sourceDialect, Key.targetDialect, Key.stage], Encodable key := by
  decide

theorem ofMembers_eq_ok {b : ConvertBody} :
    ConvertBody.ofMembers ms = .ok b ↔
      Encodable b.code ∧ ∃ source target stage, Submits ms b.code source target stage ∧
        b.source = canonicalSelector source ∧ b.target = canonicalSelector target ∧
        b.stage = canonicalSelector stage := by
  have glsl : canonicalSelector SourceDialect.glsl.name = SourceDialect.glsl.name := by
    decide
  have fragment : canonicalSelector Stage.fallback.name = Stage.fallback.name := by
    decide
  simp only [ConvertBody.ofMembers, Checked.map_eq_ok, closed_eq_ok known_keys_encodable,
    Prod.exists, Checked.both_eq_ok, required_eq_ok, readSource_eq_ok, readSelector_eq_ok,
    selector_eq_ok glsl, selector_eq_ok fragment]
  constructor
  · rintro ⟨c, s, t, g, ⟨⟨⟨_, hasCode, rfl, notEmpty, scalars⟩, ⟨source, hasSource, rfl⟩,
      ⟨_, hasTarget, target, rfl, rfl⟩, stage, hasStage, rfl⟩, nothingElse⟩, rfl⟩
    exact ⟨scalars, source, target, stage,
      ⟨hasCode, notEmpty, hasSource, hasTarget, hasStage, nothingElse⟩, rfl, rfl, rfl⟩
  · rintro ⟨scalars, source, target, stage, submits, hasSource, hasTarget, hasStage⟩
    exact ⟨b.code, b.source, b.target, b.stage,
      ⟨⟨⟨_, submits.givesCode, rfl, submits.notEmpty, scalars⟩,
        ⟨source, submits.givesSource, hasSource⟩,
        ⟨_, submits.givesTarget, target, rfl, hasTarget⟩, stage, submits.givesStage, hasStage⟩,
        submits.nothingElse⟩, rfl⟩

theorem selector_refuses {w : Json} :
    (∀ t, readSelector w ≠ .ok t) ↔ ∀ t, w ≠ .string t := by
  simp only [ne_eq, readSelector_eq_ok, not_exists, not_and]
  constructor
  · intro refused t same
    exact refused _ t same rfl
  · intro other _ t same _
    exact other t same

theorem source_refuses {w : Json} (scalars : w.HasEncoding) :
    (∀ t, readSource w ≠ .ok t) ↔ (∀ t, w ≠ .string t) ∨ w = .string [] := by
  simp only [ne_eq, readSource_eq_ok, not_and]
  constructor
  · intro refused
    by_contra readable
    obtain ⟨isText, notEmpty⟩ := not_or.mp readable
    obtain ⟨t, rfl⟩ := not_forall_not.mp isText
    refine refused t rfl ?_ (scalars.strings t .self)
    rintro rfl
    exact notEmpty rfl
  · rintro (other | rfl) t same
    · exact absurd same (other t)
    · intro notEmpty
      cases same
      exact absurd rfl notEmpty

theorem flaw_object_iff {needed known : List Text} {w : Json} :
    Flaw needed known (.object ms) w ↔
      ((∃ key ∈ needed, ms.lookup key = none) ∧ w = .object ms) ∨
        ((∃ key ∈ known, ms.lookup key = some w) ∧ ∀ t, w ≠ .string t) ∨
        (ms.lookup Key.code = some w ∧ w = .string []) ∨
        ∃ key, key ∉ known ∧ ms.lookup key = some w := by
  constructor
  · rintro (⟨other⟩ | ⟨needs, absent⟩ | ⟨knows, given, other⟩ | ⟨given⟩ | ⟨extra, given⟩)
    · exact absurd rfl (other ms)
    · exact .inl ⟨⟨_, needs, absent⟩, rfl⟩
    · exact .inr (.inl ⟨⟨_, knows, given⟩, other⟩)
    · exact .inr (.inr (.inl ⟨given, rfl⟩))
    · exact .inr (.inr (.inr ⟨_, extra, given⟩))
  · rintro (⟨⟨key, needs, absent⟩, rfl⟩ | ⟨⟨key, knows, given⟩, other⟩ | ⟨given, rfl⟩ |
      ⟨key, extra, given⟩)
    · exact .absent needs absent
    · exact .notText knows given other
    · exact .emptyCode given
    · exact .unknown extra given

theorem code_refuses (scalars : (Json.object ms).HasEncoding) {w : Json} :
    (ms.lookup Key.code = some w ∧ ∀ t, readSource w ≠ .ok t) ↔
      ms.lookup Key.code = some w ∧ ((∀ t, w ≠ .string t) ∨ w = .string []) :=
  and_congr_right fun given => source_refuses (scalars.of_seen (seen_of_lookup given))

theorem concerns_ofMembers (scalars : (Json.object ms).HasEncoding) (w : Json) :
    (ConvertBody.ofMembers ms).Concerns (.object ms) w ↔ ConvertFlaw (.object ms) w := by
  have names : ∀ m ∈ ms, Encodable m.1 := scalars.names ms .self
  simp only [ConvertBody.ofMembers, Checked.concerns_map, concerns_closed names,
    Checked.concerns_both, concerns_required readSource_isReader,
    concerns_required readSelector_isReader, concerns_withDefault readSelector_isReader,
    selector_refuses, code_refuses scalars, flaw_object_iff, List.mem_cons, List.not_mem_nil,
    or_false, exists_eq_or_imp, exists_eq_left]
  -- Both sides list the same flaws, by field on the left and by kind on the right.
  grind

end
end CrossShader.Service
