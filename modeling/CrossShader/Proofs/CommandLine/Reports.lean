import CrossShader.CommandLine.Report
import CrossShader.Proofs.Files.Writing
import CrossShader.Proofs.Text.Encodable
import CrossShader.Proofs.Text.Styling

/-!
The ways in which a report is closed. One that fails shows a message and leaves all else to what was
there before; one with an output puts it in one place, or escapes if a file cannot take it.
-/
namespace CrossShader
open Text

theorem Text.spellSurrogates_append (a b : Text) :
    spellSurrogates (a ++ b) = spellSurrogates a ++ spellSurrogates b := List.flatMap_append

theorem Text.spellSurrogates_of_encodable {t : Text} (scalars : Encodable t) :
    spellSurrogates t = t := by
  induction t with
  | nil => rfl
  | cons c rest ih =>
    obtain ⟨scalar, later⟩ := List.forall_mem_cons.mp scalars
    rw [spellSurrogates, List.flatMap_cons, if_pos scalar, ← spellSurrogates, ih later]
    rfl

theorem Fault.exitStatus_positive {f : Fault} (unmarked : f.status = none) :
    ∃ n : Int, 0 < n ∧ f.exitStatus = .whole n := by
  rw [exitStatus, shownStatus?, unmarked]
  cases f.cause with
  | conversion c =>
    have positive : (0 : Int) < c.exitStatus := by
      cases c <;> simp [ConversionFault.exitStatus]
    exact ⟨c.exitStatus, positive, if_pos positive⟩
  | _ => exact ⟨1, by decide, rfl⟩

namespace CommandLine

/-- The text begins as messages of failure do. -/
def IsMessage (t : Text) : Prop := ∃ rest, t = text "✗ " ++ rest ∨ t = text "Error: " ++ rest

/-- What a report adds to the one before when it closes with a failure. -/
structure Failing (before after : Report) : Prop where
  status : ∃ n : Int, 0 < n ∧ after.exit = .whole n
  stdout : after.stdout = before.stdout
  stderr : ∃ message, IsMessage message ∧ after.stderr = before.stderr ++ message
  escaped : after.escaped = before.escaped
  files : after.files = before.files
  host : after.host = before.host

theorem shown_append {mark : Text} (plain : escapeCharacter ∉ mark) (scalars : Encodable mark)
    (t : Text) :
    spellSurrogates (dropStyles (mark ++ t)) = mark ++ spellSurrogates (dropStyles t) := by
  rw [dropStyles_plain_append plain, spellSurrogates_append, spellSurrogates_of_encodable scalars]

theorem IsMessage.append {t : Text} (isMessage : IsMessage t) (more : Text) :
    IsMessage (t ++ more) := by
  obtain ⟨rest, begins | begins⟩ := isMessage
  · exact ⟨rest ++ more, .inl (by rw [begins, List.append_assoc])⟩
  · exact ⟨rest ++ more, .inr (by rw [begins, List.append_assoc])⟩

theorem crossed_isMessage (t : Text) :
    IsMessage (spellSurrogates (dropStyles (text "✗ " ++ t))) :=
  ⟨_, .inl (shown_append (by decide) (encodable_text _) t)⟩

namespace Report

theorem fail_failing (debug : Bool) {f : Fault} (unmarked : f.status = none) (r : Report) :
    Failing r (r.fail debug f) := by
  refine ⟨f.exitStatus_positive unmarked, rfl, ⟨_, ?_, rfl⟩, rfl, rfl, rfl⟩
  rw [faultText, spellSurrogates_append, List.append_assoc, List.append_assoc, List.append_assoc]
  exact (crossed_isMessage _).append _

theorem misuse_failing (m : Misuse) (r : Report) : Failing r (r.misuse m) := by
  refine ⟨⟨2, by decide, rfl⟩, rfl, ⟨_, ?_, rfl⟩, rfl, rfl, rfl⟩
  rw [List.append_assoc]
  exact ⟨_, .inr (shown_append (by decide) (encodable_text _) _)⟩

theorem refuse_failing (error : Text) (r : Report) :
    Failing r ((r.complain (text "✗ Conversion failed:\n" ++ error ++ text "\n")).stop bad) := by
  have begins : text "✗ Conversion failed:\n" = text "✗ " ++ text "Conversion failed:\n" := by
    decide
  refine ⟨⟨1, by decide, rfl⟩, rfl, ⟨_, ?_, rfl⟩, rfl, rfl, rfl⟩
  rw [begins, List.append_assoc, List.append_assoc]
  exact crossed_isMessage _

theorem say_encodable {t : Text} (scalars : Encodable t) (r : Report) :
    r.say t = { r with stdout := r.stdout ++ dropStyles t } := by
  rw [say, Utf8.encode_of_encodable (encodable_dropStyles scalars)]

end Report

section
variable {order : ConvertOrder} {output : Text} {p : Path} {bytes : Bytes} {fs fs' : Files}

theorem save_eq_ok (encoded : Utf8.encode output = .ok bytes) :
    save fs p output = .ok fs' ↔
      ∃ fs₁, fs.makeDirectories p.parent = .ok fs₁ ∧ fs₁.write p bytes = .ok fs' := by
  rw [save]
  cases made : fs.makeDirectories p.parent with
  | error e => simp
  | ok fs₁ =>
    dsimp only
    rw [encoded]
    dsimp only
    cases written : fs₁.write p bytes <;> simp [Except.mapError, written]

theorem save_refused (encoded : Utf8.encode output = .ok bytes) {f : Fault}
    (refused : save fs p output = .error f) : ∃ e, f = .ofCause (.system e) := by
  rw [save] at refused
  split at refused
  case h_1 e _ => exact ⟨e, (Except.error.inj refused).symm⟩
  case h_2 fs₁ _ =>
    rw [encoded] at refused
    dsimp only at refused
    cases written : fs₁.write p bytes with
    | error e =>
      rw [written] at refused
      exact ⟨e, (Except.error.inj refused).symm⟩
    | ok fs' => simp [written, Except.mapError] at refused

theorem save_of_writable (encoded : Utf8.encode output = .ok bytes) (writable : fs.Writable p) :
    ∃ fs', save fs p output = .ok fs' ∧ fs.Received p bytes fs' := by
  obtain ⟨fs₁, place, made, takes⟩ := writable
  exact ⟨_, (save_eq_ok encoded).mpr ⟨fs₁, made, Files.write_eq_ok.mpr ⟨place, takes, rfl⟩⟩,
    Files.received_of_takes (Files.makeDirectories_grown made) takes bytes⟩

theorem writable_of_save (encoded : Utf8.encode output = .ok bytes)
    (saved : save fs p output = .ok fs') : fs.Writable p := by
  obtain ⟨fs₁, made, written⟩ := (save_eq_ok encoded).mp saved
  obtain ⟨place, takes, _⟩ := Files.write_eq_ok.mp written
  exact ⟨fs₁, place, made, takes⟩

theorem deliver_to_stream (unnamed : order.output = none) (scalars : Encodable output)
    (r : Report) :
    deliver order output r = { r with stdout := r.stdout ++ dropStyles output } := by
  rw [deliver, unnamed]
  exact r.say_encodable scalars

theorem deliver_to_file {r : Report} (named : order.output = some p)
    (encoded : Utf8.encode output = .ok bytes) (writable : r.files.Writable p) :
    ∃ fs' note, r.files.Received p bytes fs' ∧
      deliver order output r = { r with files := fs', stderr := r.stderr ++ note } := by
  obtain ⟨fs', saved, received⟩ := save_of_writable encoded writable
  have delivered : deliver order output r =
      { r with files := fs' }.complain (text "✓ Saved: " ++ p.render ++ text "\n") := by
    rw [deliver, named]
    dsimp only
    rw [saved]
  exact ⟨fs', _, received, delivered⟩

theorem deliver_escapes {r : Report} (named : order.output = some p)
    (encoded : Utf8.encode output = .ok bytes) (blocked : ¬ r.files.Writable p) :
    ∃ e, deliver order output r =
      { r with files := afterSave r.files p }.escape (.ofCause (.system e)) := by
  cases saved : save r.files p output with
  | ok fs' => exact absurd (writable_of_save encoded saved) blocked
  | error f =>
    obtain ⟨e, rfl⟩ := save_refused encoded saved
    refine ⟨e, ?_⟩
    rw [deliver, named]
    dsimp only
    rw [saved]

end
end CommandLine
end CrossShader
