import CrossShader.Proofs.Conversion.Course

/-!
What the error text of a failed conversion says of the failure. It begins with a label, and no label
begins another one, so the kind of failure can be read off the text whatever the diagnostic holds.
What follows the diagnostic is fixed by the kind and the request, so with the request at hand the
diagnostic can be read off as well.
-/
namespace CrossShader

/-- The library has a diagnostic or is not there. -/
def Fault.IsComplaint (f : Fault) : Prop :=
  ∃ d, f.cause = .conversion (.library d) ∨ f.cause = .conversion (.unavailable d)

namespace Conversion

inductive FailureKind where
  | parse (frontend : SourceDialect)
  | validation
  | unknownTarget
  | generation (target : TargetDialect)
  | unavailable
  deriving DecidableEq, Repr

/-- A failed conversion. Of an unknown target the diagnostic is the selector. -/
structure Failure where
  kind : FailureKind
  diagnostic : Text
  deriving DecidableEq, Repr

namespace FailureKind

def all : List FailureKind :=
  SourceDialect.all.map parse ++ TargetDialect.all.map generation ++
    [validation, unknownTarget, unavailable]

def label : FailureKind → Text
  | parse frontend => frontend.label ++ text " Parse Error: "
  | validation => text "Validation Error: "
  | unknownTarget => text "Unknown target format: "
  | generation target => target.label ++ text " Generation Error: "
  | unavailable => text "IR library unavailable: "

def ending (r : Request) : FailureKind → Text
  | parse .glsl => text "\n\nNormalized source:\n" ++ r.prepared
  | _ => []

def ofText? (t : Text) : Option FailureKind := all.find? fun kind => kind.label.isPrefixOf t

theorem mem_all (kind : FailureKind) : kind ∈ all := by
  cases kind with
  | parse frontend => cases frontend <;> decide
  | generation target => cases target <;> decide
  | _ => decide

theorem label_ne_nil (kind : FailureKind) : kind.label ≠ [] := by
  have named : ∀ kind ∈ all, kind.label ≠ [] := by decide
  exact named kind (mem_all kind)

theorem eq_of_label_begins {first second : FailureKind} (begins : first.label <+: second.label) :
    first = second := by
  have apart : ∀ first ∈ all, ∀ second ∈ all, first.label <+: second.label → first = second := by
    decide
  exact apart first (mem_all first) second (mem_all second) begins

/-- Whatever follows a label, it is the only one with which the text begins. -/
theorem ofText?_label_append (kind : FailureKind) (t : Text) :
    ofText? (kind.label ++ t) = some kind := by
  have begins : kind.label <+: kind.label ++ t := List.prefix_append _ t
  cases found : ofText? (kind.label ++ t) with
  | none =>
    have absent := List.find?_eq_none.mp found kind (mem_all kind)
    exact absurd (List.isPrefixOf_iff_prefix.mpr begins) absent
  | some other =>
    rw [ofText?] at found
    have tested := List.find?_some found
    have alike : other.label <+: kind.label ++ t := List.isPrefixOf_iff_prefix.mp tested
    rcases List.prefix_or_prefix_of_prefix begins alike with shorter | longer
    · rw [eq_of_label_begins shorter]
    · rw [eq_of_label_begins longer]

end FailureKind

namespace Failure

def text (r : Request) (f : Failure) : Text := f.kind.label ++ (f.diagnostic ++ f.kind.ending r)

def ofText? (r : Request) (t : Text) : Option Failure :=
  (FailureKind.ofText? t).map fun kind =>
    ⟨kind, (t.drop kind.label.length).take (t.length - kind.label.length - (kind.ending r).length)⟩

theorem text_ne_nil (r : Request) (f : Failure) : f.text r ≠ [] := by
  intro empty
  exact f.kind.label_ne_nil (List.append_eq_nil_iff.mp empty).1

theorem kind_of_text (r : Request) (f : Failure) : FailureKind.ofText? (f.text r) = some f.kind :=
  FailureKind.ofText?_label_append f.kind _

theorem ofText?_text (r : Request) (f : Failure) : ofText? r (f.text r) = some f := by
  have inside : (f.text r).length - f.kind.label.length - (f.kind.ending r).length =
      f.diagnostic.length := by
    rw [text, List.length_append, List.length_append]
    omega
  rw [ofText?, kind_of_text, Option.map_some, inside, text, List.drop_left, List.take_left]

theorem text_injective (r : Request) {f g : Failure} (same : f.text r = g.text r) : f = g := by
  have read := ofText?_text r g
  rw [← same, ofText?_text] at read
  exact Option.some.inj read

end Failure

def Place.kind (r : Request) : Place → FailureKind
  | .parse => .parse (SourceDialect.resolve r.source)
  | .validate => .validation
  | .generate dialect => .generation dialect

def Halt.failure? (r : Request) : Halt → Option Failure
  | .generated _ => none
  | .unknownTarget => some ⟨.unknownTarget, r.target⟩
  | .raised place fault =>
    match fault.cause with
    | .conversion (.library d) => some ⟨place.kind r, d⟩
    | .conversion (.unavailable d) => some ⟨.unavailable, d⟩
    | _ => none

theorem reportedText_library (r : Request) (place : Place) (d : Text) :
    reportedText r place (.library d) = Failure.text r ⟨place.kind r, d⟩ := by
  cases place with
  | parse =>
    rw [reportedText, Failure.text, Place.kind]
    cases SourceDialect.resolve r.source with
    | wgsl =>
      rw [FailureKind.ending, List.append_nil]
      · rfl
      · intro glsl
        cases glsl
    | glsl =>
      simp only [FailureKind.ending, FailureKind.label, List.append_assoc]
      rfl
  | validate => simp [reportedText, Failure.text, Place.kind, FailureKind.label, FailureKind.ending]
  | generate dialect =>
    simp [reportedText, Failure.text, Place.kind, FailureKind.label, FailureKind.ending]

theorem answer_of_failure {r : Request} {halt : Halt} {f : Failure}
    (failure : halt.failure? r = some f) : halt.answer r = .ok (.failed (f.text r)) := by
  cases halt with
  | generated t => simp [Halt.failure?] at failure
  | unknownTarget =>
    rw [Halt.failure?, Option.some.injEq] at failure
    rw [← failure, Halt.answer]
    simp [Failure.text, FailureKind.label, FailureKind.ending]
  | raised place fault =>
    obtain ⟨cause, status⟩ := fault
    rw [Halt.failure?] at failure
    split at failure
    case h_1 d reported =>
      cases reported
      cases failure
      rw [Halt.answer]
      exact congrArg (fun t => Except.ok (Outcome.failed t)) (reportedText_library r place d)
    case h_2 d reported =>
      cases reported
      cases failure
      have plain : Failure.text r ⟨.unavailable, d⟩ = text "IR library unavailable: " ++ d := by
        simp [Failure.text, FailureKind.label, FailureKind.ending]
      rw [plain]
      cases place <;> rfl
    case h_3 => simp at failure

section
variable {S M I : Type} {library : Library S M I} {r : Request} {s s' : S}
  {made : List (Call M I)} {halt : Halt}

/-- What the calls of a conversion amount to if they fail. -/
def FailsWith (library : Library S M I) (r : Request) (s : S) (f : Failure) : Prop :=
  ∃ made halt s', Course library r s made halt s' ∧ halt.failure? r = some f

theorem FailsWith.answer {f : Failure} (fails : FailsWith library r s f) :
    (convert library r s).1 = .ok (.failed (f.text r)) := by
  obtain ⟨made, halt, s', course, failure⟩ := fails
  rw [convert_of_course course, answer_of_failure failure]

theorem FailsWith.unique {f g : Failure} (fails : FailsWith library r s f)
    (fails' : FailsWith library r s g) : g = f := by
  have same := fails'.answer.symm.trans fails.answer
  simp only [Except.ok.injEq, Outcome.failed.injEq] at same
  exact Failure.text_injective r same

theorem failure_of_failed (complains : library.RaisesOnly Fault.IsComplaint) {e : Text}
    (failed : (convert library r s).1 = .ok (.failed e)) :
    ∃ f, FailsWith library r s f ∧ e = f.text r := by
  obtain ⟨made, halt, s', course⟩ := course_exists library r s
  have named : ∃ f, halt.failure? r = some f := by
    cases halt with
    | generated t =>
      rw [convert_of_course course] at failed
      simp [Halt.answer] at failed
    | unknownTarget => exact ⟨_, rfl⟩
    | raised place fault =>
      obtain ⟨d, complaint | absence⟩ := raised_allowed complains course
      · exact ⟨_, by rw [Halt.failure?, complaint]⟩
      · exact ⟨_, by rw [Halt.failure?, absence]⟩
  obtain ⟨f, failure⟩ := named
  have fails : FailsWith library r s f := ⟨made, halt, s', course, failure⟩
  have same := failed.symm.trans fails.answer
  simp only [Except.ok.injEq, Outcome.failed.injEq] at same
  exact ⟨f, fails, same⟩

end

/-- Two failures of one request, with any two libraries that do nothing worse than complain. Each
text tells the kind of its failure by itself, and all of the failure to one who has the request, so
the texts are the same only if the failures are. -/
theorem failures_are_told_apart {S M I S' M' I' : Type} (r : Request) (library : Library S M I)
    (library' : Library S' M' I') (complains : library.RaisesOnly Fault.IsComplaint)
    (complains' : library'.RaisesOnly Fault.IsComplaint) (s : S) (s' : S') {e e' : Text}
    (failed : (convert library r s).1 = .ok (.failed e))
    (failed' : (convert library' r s').1 = .ok (.failed e')) :
    e ≠ [] ∧ ∃ f f', (∀ g, FailsWith library r s g ↔ g = f) ∧
      (∀ g, FailsWith library' r s' g ↔ g = f') ∧
      FailureKind.ofText? e = some f.kind ∧ Failure.ofText? r e = some f ∧ (e = e' ↔ f = f') := by
  obtain ⟨f, fails, rfl⟩ := failure_of_failed complains failed
  obtain ⟨f', fails', rfl⟩ := failure_of_failed complains' failed'
  refine ⟨f.text_ne_nil r, f, f', ?_, ?_, f.kind_of_text r, f.ofText?_text r, ?_⟩
  · exact fun g => ⟨fails.unique, fun same => same ▸ fails⟩
  · exact fun g => ⟨fails'.unique, fun same => same ▸ fails'⟩
  · exact ⟨Failure.text_injective r, congrArg (Failure.text r)⟩

def raisingAt (place : Place) (fault : Fault) : Library Unit Unit Unit where
  note _ s := s
  parse _ _ _ _ s := (if place = .parse then .error fault else .ok (), s)
  validate _ s := (if place = .validate then .error fault else .ok (), s)
  generate _ _ target _ s :=
    (if place = .generate target.dialect then .error fault else .ok [], s)

theorem raisingAt_raisesOnly {allowed : Fault → Prop} (place : Place) {fault : Fault}
    (permitted : allowed fault) : (raisingAt place fault).RaisesOnly allowed := by
  have raised {α : Type} {here : Prop} [Decidable here] {a : α} {f : Fault}
      (failed : (if here then Except.error fault else .ok a) = .error f) : allowed f := by
    split at failed
    · cases failed
      exact permitted
    · cases failed
  exact ⟨fun _ _ _ _ _ _ failed => raised failed, fun _ _ _ failed => raised failed,
    fun _ _ _ _ _ _ failed => raised failed⟩

/-- A diagnostic that holds the marker and one that holds the label of another failure. -/
theorem crafted_diagnostics_are_told_apart :
    let r : Request := ⟨text "x", text "glsl", text "hlsl", text "fragment"⟩
    let complaint := fun d => Fault.ofConversion (.library (text d))
    let parsing := raisingAt .parse (complaint "a\n\nNormalized source:\n")
    let generating := raisingAt (.generate .hlsl) (complaint "GLSL Parse Error: a")
    parsing.RaisesOnly Fault.IsComplaint ∧ generating.RaisesOnly Fault.IsComplaint ∧
      ∃ e e', (convert parsing r ()).1 = .ok (.failed e) ∧
        (convert generating r ()).1 = .ok (.failed e') ∧ e ≠ [] ∧
        FailureKind.ofText? e = some (.parse .glsl) ∧
        Failure.ofText? r e = some ⟨.parse .glsl, text "a\n\nNormalized source:\n"⟩ ∧ e ≠ e' := by
  intro r complaint parsing generating
  have complains : ∀ place d, (raisingAt place (complaint d)).RaisesOnly Fault.IsComplaint :=
    fun place d => raisingAt_raisesOnly place ⟨text d, .inl rfl⟩
  have first : FailsWith parsing r () ⟨.parse .glsl, text "a\n\nNormalized source:\n"⟩ :=
    ⟨_, _, _, .parseRaises rfl, rfl⟩
  have second : FailsWith generating r () ⟨.generation .hlsl, text "GLSL Parse Error: a"⟩ :=
    ⟨_, _, _, .generateRaises rfl rfl rfl rfl, rfl⟩
  obtain ⟨nonempty, f, f', only, only', kind, whole, same⟩ := failures_are_told_apart r parsing
    generating (complains _ _) (complains _ _) () () first.answer second.answer
  obtain rfl := (only _).mp first
  obtain rfl := (only' _).mp second
  refine ⟨complains _ _, complains _ _, _, _, first.answer, second.answer, nonempty, kind, whole, ?_⟩
  intro alike
  have equal := same.mp alike
  simp at equal

end Conversion
end CrossShader
