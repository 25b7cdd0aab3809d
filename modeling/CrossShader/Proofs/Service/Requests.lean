import CrossShader.Proofs.Service.Answers

/-!
Requests to convert that reach one service over one library, one after the other. Each finds the
library as the one before has left it and is owed what a single request is owed.
-/
namespace CrossShader.Service
open Text

def postings {S M I : Type} (library : Library S M I) : List Bytes → S → List (Posting S M I)
  | [], _ => []
  | body :: rest, s =>
    posting library body s :: postings library rest (posting library body s).after

section
variable {S M I : Type} {library : Library S M I}

theorem postings_bodies (bodies : List Bytes) (s : S) :
    (postings library bodies s).map (·.body) = bodies := by
  induction bodies generalizing s with
  | nil => rfl
  | cons body rest ih =>
    rw [postings, List.map_cons, ih]
    rfl

theorem postings_before (bodies : List Bytes) (s : S) :
    ∀ p ∈ (postings library bodies s).head?, p.before = s := by
  cases bodies with
  | nil => simp [postings]
  | cons body rest => simp [postings, posting]

theorem postings_isChain (bodies : List Bytes) (s : S) :
    (postings library bodies s).IsChain fun p q => q.before = p.after := by
  induction bodies generalizing s with
  | nil => exact .nil
  | cons body rest ih =>
    rw [postings, List.isChain_cons]
    exact ⟨postings_before rest _, ih _⟩

theorem postings_isAnswered (orderly : library.IsOrderly) (bodies : List Bytes) (s : S) :
    ∀ p ∈ postings library bodies s, p.IsAnswered library := by
  induction bodies generalizing s with
  | nil => simp [postings]
  | cons body rest ih =>
    intro p member
    rcases List.mem_cons.mp member with rfl | later
    · exact posting_isAnswered orderly body s
    · exact ih _ p later

/-- Requests to convert, one after the other, whatever their bodies hold. With finite numbers a body
is refused exactly if it has a flaw. -/
theorem requests_are_answered (library : Library S M I) (orderly : library.IsOrderly)
    (bodies : List Bytes) (s : S) :
    (postings library bodies s).map (·.body) = bodies ∧
      (∀ p ∈ (postings library bodies s).head?, p.before = s) ∧
      (postings library bodies s).IsChain (fun p q => q.before = p.after) ∧
      ∀ p ∈ postings library bodies s, p.IsAnswered library ∧
        ∀ v, Holds p.body v → v.HasEncoding → v.IsFinite →
          (p.HasStatus 422 ∧ p.calls = [] ↔ ∃ w, ConvertFlaw v w) := by
  refine ⟨postings_bodies bodies s, postings_before bodies s, postings_isChain bodies s, ?_⟩
  intro p member
  have answered := postings_isAnswered orderly bodies s p member
  refine ⟨answered, ?_⟩
  intro v holds scalars finite
  rw [answered.refused v holds scalars]
  constructor
  · exact And.left
  · intro flawed
    refine ⟨flawed, ?_⟩
    intro w flaw x seen
    exact finite x (seen.whatever_withheld.trans flaw.seen)

end

def agreeing : Library Unit Unit Unit where
  note _ s := s
  parse _ _ _ _ s := (.ok (), s)
  validate _ s := (.ok (), s)
  generate _ _ target _ s := (.ok target.dialect.name, s)

theorem agreeing_isOrderly : agreeing.IsOrderly where
  parse := by rintro _ _ _ _ _ _ ⟨⟩
  validate := by rintro _ _ _ ⟨⟩
  generate := by rintro _ _ _ _ _ _ ⟨⟩
  output := by
    rintro _ _ target _ _ _ ⟨⟩
    cases target <;> exact encodable_text _

def bodyOf (s : String) : Bytes := (text s).flatMap Utf8.encodeChar

theorem two_requests_are_answered :
    let empty := bodyOf "\x7b\"code\":\"\",\"target_dialect\":\"hlsl\"\x7d"
    let full := bodyOf "\x7b\"code\":\"c\",\"target_dialect\":\" HLSL \"\x7d"
    agreeing.IsOrderly ∧ (∀ p ∈ postings agreeing [empty, full] (), p.IsAnswered agreeing) ∧
      (postings agreeing [empty, full] ()).map (·.answer) =
        [.ok ⟨422, .problems [⟨.textTooShort, [.key (text "body"), .key (text "code")]⟩]⟩,
          .ok ⟨200, .conversion ⟨true, text "hlsl", [],
            text "2e7d2c03a9507ae265ecf5b5356885a53393a2029d241394997265a1a25aefc6"⟩⟩] ∧
      ∃ v, Holds full v ∧ v.HasEncoding ∧ v.IsFinite ∧ ∀ w, ¬ ConvertFlaw v w := by
  intro empty full
  have answered := requests_are_answered agreeing agreeing_isOrderly [empty, full] ()
  refine ⟨agreeing_isOrderly, fun p member => (answered.2.2.2 p member).1, by decide +kernel, ?_⟩
  have shown := (Json.isShowable_nothingWithheld (.object [(Key.code, .string (text "c")),
    (Key.targetDialect, .string (text " HLSL "))])).mp (by decide)
  have submits : Submits [(Key.code, .string (text "c")),
      (Key.targetDialect, .string (text " HLSL "))] (text "c") (text "glsl") (text " HLSL ")
      (text "fragment") :=
    ⟨rfl, by decide, .inr ⟨rfl, rfl⟩, rfl, .inr ⟨rfl, rfl⟩, by simp⟩
  exact ⟨_, ⟨text "\x7b\"code\":\"c\",\"target_dialect\":\" HLSL \"\x7d",
    by decide +kernel, by decide +kernel⟩, shown.1, shown.2, submits.not_flaw⟩

/-- A selector that is a number is a flaw, but one beyond all finite numbers is not refused by name:
the refusal repeats it and cannot be sent. -/
theorem infinite_selector_is_not_refused :
    let given := "\x7b\"code\":\"x\",\"target_dialect\":\"hlsl\",\"source_dialect\":-1E+999\x7d"
    ∃ v w, Holds (bodyOf given) v ∧ v.HasEncoding ∧ ConvertFlaw v w ∧
      ¬ (posting agreeing (bodyOf given) ()).HasStatus 422 := by
  intro given
  refine ⟨.object [(Key.code, .string (text "x")), (Key.targetDialect, .string (text "hlsl")),
    (Key.sourceDialect, .number (.infinite true))], .number (.infinite true), ?_, ?_, ?_, ?_⟩
  · exact ⟨text given, by decide +kernel, by decide +kernel⟩
  · simp only [Json.hasEncoding_object, List.forall_mem_cons, Json.hasEncoding_string]
    exact ⟨⟨by decide, by decide⟩, ⟨by decide, by decide⟩,
      ⟨by decide, Json.hasEncoding_number _⟩, by simp⟩
  · exact .notText (by simp) (rfl : List.lookup Key.sourceDialect _ = _) (by simp)
  · have answered : (posting agreeing (bodyOf given) ()).answer = .ok .unsendable := by
      decide +kernel
    rintro ⟨response, same, status⟩
    obtain rfl := Except.ok.inj (answered.symm.trans same)
    simp [Response.unsendable] at status

end CrossShader.Service
