import CrossShader.Entry
import CrossShader.Proofs.Conversion.Failure
import CrossShader.Proofs.Text.Encodable

/-!
Conversions with a digest. The conversion itself answers with data for every source, but the digest
that is taken afterwards needs an encoding: a source with a surrogate loses its answer to the fault
of the encoder, also if the conversion had already failed because of that surrogate.
-/
namespace CrossShader

/-- A conversion reports the fault as data. -/
def Fault.IsReported (f : Fault) : Prop := ∃ c, f.cause = .conversion c

theorem Digest.ofText_of_encodable {t : Text} (scalars : Encodable t) :
    ofText t =
      .ok ((sha256 (t.flatMap Utf8.encodeChar)).flatMap fun word => Text.hex 8 word.toNat) := by
  rw [ofText, Utf8.encode_of_encodable scalars]
  rfl

theorem Digest.ofText_of_encode_error {t : Text} {e : Utf8.EncodeError}
    (flawed : Utf8.encode t = .error e) : ofText t = .error e := by
  rw [ofText, flawed]
  rfl

section
variable {S M I : Type} {library : Library S M I}

theorem Conversion.convert_answers (reported : library.RaisesOnly Fault.IsReported) (r : Request)
    (s : S) : ∃ o, (convert library r s).1 = .ok o := by
  obtain ⟨made, halt, s', course⟩ := course_exists library r s
  rw [convert_of_course course]
  cases halt with
  | generated t => exact ⟨_, rfl⟩
  | unknownTarget => exact ⟨_, rfl⟩
  | raised place fault =>
    obtain ⟨c, family⟩ := raised_allowed reported course
    exact ⟨_, by rw [Halt.answer, family]⟩

namespace Entry

theorem run_digested (convert : Request → S → Except Fault Outcome × S) (r : Request) {s : S}
    {o : Outcome} (answered : (convert r s).1 = .ok o) :
    digested.run convert ⟨r.code, r.source, r.target, some r.stage⟩ s =
      (digested.answer r o, (convert r s).2) := by
  have asked : digested.request ⟨r.code, r.source, r.target, some r.stage⟩ = .ok r := rfl
  rw [run, asked]
  dsimp only
  rcases converted : convert r s with ⟨f | o', s'⟩
  · simp [converted] at answered
  · obtain rfl : o' = o := by simpa [converted] using answered
    rfl

end Entry

/-- Every conversion answers, but with a digest asked for only that of a source with an encoding. The
library is left as the conversion leaves it in either case. -/
theorem digested_conversion_answers_iff (library : Library S M I)
    (reported : library.RaisesOnly Fault.IsReported) (r : Request) (s : S) :
    ∃ o s', Conversion.convert library r s = (.ok o, s') ∧
      let ran := Entry.digested.run (Conversion.convert library)
        ⟨r.code, r.source, r.target, some r.stage⟩ s
      ran.2 = s' ∧ ((∃ answer, ran.1 = .ok answer) ↔ Encodable r.code) ∧
        (Encodable r.code → ∃ digest, Digest.ofText r.code = .ok digest ∧
          ran.1 = .ok ⟨o, some digest, []⟩) ∧
        (¬ Encodable r.code → ∃ e, Utf8.encode r.code = .error e ∧
          ran.1 = .error (.ofCause (.encoding e))) := by
  obtain ⟨o, answered⟩ := Conversion.convert_answers reported r s
  have ran := Entry.run_digested (Conversion.convert library) r answered
  have answers : Encodable r.code → ∃ digest, Digest.ofText r.code = .ok digest ∧
      Entry.digested.answer r o = .ok ⟨o, some digest, []⟩ := by
    intro scalars
    have digested := Digest.ofText_of_encodable scalars
    exact ⟨_, digested, by rw [Entry.answer, digested]⟩
  have escapes : ¬ Encodable r.code → ∃ e, Utf8.encode r.code = .error e ∧
      Entry.digested.answer r o = .error (.ofCause (.encoding e)) := by
    intro flawed
    obtain ⟨e, refused⟩ := Utf8.encode_of_not_encodable flawed
    exact ⟨e, refused, by rw [Entry.answer, Digest.ofText_of_encode_error refused]⟩
  refine ⟨o, _, Prod.ext answered rfl, ?_⟩
  rw [ran]
  refine ⟨rfl, ⟨?_, ?_⟩, answers, escapes⟩
  · rintro ⟨answer, answered⟩
    by_contra flawed
    obtain ⟨e, _, escaped⟩ := escapes flawed
    simp [escaped] at answered
  · intro scalars
    obtain ⟨digest, _, answered⟩ := answers scalars
    exact ⟨_, answered⟩

end

theorem failed_conversion_has_its_digest :
    let r : Request := ⟨text "c", text "wgsl", text "hlsl", text "fragment"⟩
    let library := Conversion.raisingAt .parse (.ofConversion (.library (text "no entry point")))
    library.RaisesOnly Fault.IsReported ∧ Encodable r.code ∧
      ∃ digest, Digest.ofText r.code = .ok digest ∧
        (Entry.digested.run (Conversion.convert library)
          ⟨r.code, r.source, r.target, some r.stage⟩ ()).1 =
            .ok ⟨.failed (text "WGSL Parse Error: no entry point"), some digest, []⟩ := by
  intro r library
  have reported : library.RaisesOnly Fault.IsReported :=
    Conversion.raisingAt_raisesOnly _ ⟨_, rfl⟩
  have scalars : Encodable r.code := encodable_text "c"
  obtain ⟨o, s', converted, _, _, answered, _⟩ :=
    digested_conversion_answers_iff library reported r ()
  have outcome : (Conversion.convert library r ()).1 =
      .ok (.failed (text "WGSL Parse Error: no entry point")) := by decide
  obtain rfl := Except.ok.inj ((congrArg Prod.fst converted).symm.trans outcome)
  exact ⟨reported, scalars, answered scalars⟩

/-- The conversion refuses the surrogate and says so; the digest then refuses it once more. -/
theorem refused_surrogate_escapes :
    let r : Request := ⟨[0xD800], text "wgsl", text "hlsl", text "fragment"⟩
    let library := Conversion.raisingAt .parse
      (.ofConversion (.library (text "source is not encodable as UTF-8")))
    library.RaisesOnly Fault.IsReported ∧
      (Conversion.convert library r ()).1 =
        .ok (.failed (text "WGSL Parse Error: source is not encodable as UTF-8")) ∧
      ¬ ∃ answer, (Entry.digested.run (Conversion.convert library)
        ⟨r.code, r.source, r.target, some r.stage⟩ ()).1 = .ok answer := by
  intro r library
  have escaped : (Entry.digested.run (Conversion.convert library)
      ⟨r.code, r.source, r.target, some r.stage⟩ ()).1 =
        .error (.ofCause (.encoding ⟨0xD800, 0, 1⟩)) := by decide
  refine ⟨Conversion.raisingAt_raisesOnly _ ⟨_, rfl⟩, by decide, ?_⟩
  rw [escaped]
  simp

end CrossShader
