import CrossShader.Proofs.Conversion.Course
import CrossShader.Proofs.Normal.Form
import CrossShader.Proofs.Text.Encodable

/-!
Orderly libraries, which raise ordinary faults alone and write nothing that has no encoding. With
one of them a conversion of a well-formed source either gives texts that can be encoded or is left
by an ordinary fault.
-/
namespace CrossShader
open Text

/-- The fault stops no program, and what it tells a conversion has an encoding. -/
structure Fault.IsOrderly (f : Fault) : Prop where
  ordinary : f.cause.isOrdinary = true
  message : ∀ c, f.cause = .conversion c → Encodable c.message

structure Library.IsOrderly {S M I : Type} (library : Library S M I) : Prop where
  parse : ∀ source dialect stage defines s f,
    (library.parse source dialect stage defines s).1 = .error f → f.IsOrderly
  validate : ∀ m s f, (library.validate m s).1 = .error f → f.IsOrderly
  generate : ∀ m i target pipeline s f,
    (library.generate m i target pipeline s).1 = .error f → f.IsOrderly
  output : ∀ m i target pipeline s t,
    (library.generate m i target pipeline s).1 = .ok t → Encodable t

theorem Normal.encodable_normalize (stage : Text) {source : Text} (scalars : Encodable source) :
    Encodable (normalize stage source) := by
  have header : Encodable header := by decide +kernel
  have body : ∀ line ∈ bodyLines stage (lines source), Encodable line :=
    forall_bodyLines isScalar_of_plain stage (encodable_lines scalars)
  exact encodable_append.mpr
    ⟨encodable_append.mpr ⟨header, encodable_text _⟩, encodable_unlines body⟩

theorem Request.encodable_prepared {r : Request} (scalars : Encodable r.code) :
    Encodable r.prepared := by
  rw [Request.prepared]
  split
  · exact scalars
  · exact Normal.encodable_normalize _ scalars

namespace Conversion

theorem encodable_reportedText {r : Request} (scalars : Encodable r.code) (place : Place)
    {c : ConversionFault} (message : Encodable c.message) : Encodable (reportedText r place c) := by
  have labelled {a b : Text} (first : Encodable a) (second : Encodable b) : Encodable (a ++ b) :=
    encodable_append.mpr ⟨first, second⟩
  cases c with
  | unavailable d => exact labelled (encodable_text _) message
  | library d =>
    cases place with
    | parse =>
      rw [reportedText]
      split
      · exact labelled (encodable_text _) message
      · exact labelled (labelled (labelled (encodable_text _) message) (encodable_text _))
          (Request.encodable_prepared scalars)
    | validate => exact labelled (encodable_text _) message
    | generate dialect =>
      have label : Encodable dialect.label := by cases dialect <;> exact encodable_text _
      exact labelled (labelled label (encodable_text _)) message
  | _ => cases place <;> exact message

section
variable {S M I : Type} {library : Library S M I} {r : Request} {s s' : S}
  {made : List (Call M I)} {halt : Halt}

theorem raised_isOrderly (orderly : library.IsOrderly) {place : Place} {f : Fault}
    (course : Course library r s made (.raised place f) s') : f.IsOrderly :=
  raised_allowed ⟨orderly.parse, orderly.validate, orderly.generate⟩ course

theorem encodable_generated (orderly : library.IsOrderly) {t : Text}
    (course : Course library r s made (.generated t) s') : Encodable t := by
  cases course with
  | completes _ _ _ generated => exact orderly.output _ _ _ _ _ t (congrArg Prod.fst generated)

theorem encodable_outcome (orderly : library.IsOrderly) (scalars : Encodable r.code)
    (target : Encodable r.target) (course : Course library r s made halt s') {o : Outcome}
    (answered : halt.answer r = .ok o) : Encodable o.output ∧ Encodable o.error := by
  have silent : Encodable [] := by simp [Encodable]
  cases halt with
  | generated t =>
    obtain rfl : Outcome.converted t = o := by simpa [Halt.answer] using answered
    exact ⟨encodable_generated orderly course, silent⟩
  | unknownTarget =>
    obtain rfl : Outcome.failed (text "Unknown target format: " ++ r.target) = o := by
      simpa [Halt.answer] using answered
    exact ⟨silent, encodable_append.mpr ⟨encodable_text _, target⟩⟩
  | raised place f =>
    have raised := raised_isOrderly orderly course
    rw [Halt.answer] at answered
    split at answered
    case h_1 c reported =>
      obtain rfl : Outcome.failed (reportedText r place c) = o := by simpa using answered
      exact ⟨silent, encodable_reportedText scalars place (raised.message c reported)⟩
    case h_2 => simp at answered

theorem escaped_isOrdinary (orderly : library.IsOrderly)
    (course : Course library r s made halt s') {f : Fault} (escaped : halt.answer r = .error f) :
    f.cause.isOrdinary = true := by
  cases halt with
  | raised place fault =>
    rw [Halt.answer] at escaped
    split at escaped
    case h_1 => simp at escaped
    case h_2 =>
      obtain rfl : fault = f := by simpa using escaped
      exact (raised_isOrderly orderly course).ordinary
  | _ => simp [Halt.answer] at escaped

theorem convert_recorded (library : Library S M I) (r : Request) (s : S) :
    ∃ made, ∀ before, convert library.recorded r (s, before) =
      ((convert library r s).1, (convert library r s).2, before ++ made) := by
  obtain ⟨made, halt, s', course⟩ := course_exists library r s
  refine ⟨made, fun before => ?_⟩
  rw [convert_of_course course, convert_of_course (course_recorded course before), close_recorded]

theorem orderly_convert (orderly : library.IsOrderly) (scalars : Encodable r.code)
    (target : Encodable r.target) (s : S) :
    (∀ o, (convert library r s).1 = .ok o → Encodable o.output ∧ Encodable o.error) ∧
      ∀ f, (convert library r s).1 = .error f → f.cause.isOrdinary = true := by
  obtain ⟨made, halt, s', course⟩ := course_exists library r s
  rw [convert_of_course course]
  exact ⟨fun _ answered => encodable_outcome orderly scalars target course answered,
    fun _ escaped => escaped_isOrdinary orderly course escaped⟩

end
end Conversion
end CrossShader
