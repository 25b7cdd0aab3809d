import CrossShader.Proofs.CommandLine.Delivery
import CrossShader.Proofs.Conversion.Orderly

/-!
How the commands on a source file end. One that does what it was asked to ends with status 0, and
one that does not shows a message and ends with a positive status, with two exceptions: a source
that is no UTF-8 escapes from `normalize`, and a destination that takes no file from a conversion.
-/
namespace CrossShader.CommandLine
open Text Naga

/-- The command does all that it was asked to. -/
inductive Fulfilled (w : World) : Command → Prop where
  | normalizes {file stage code} (read : w.files.readText file = .ok code) :
      Fulfilled w (.normalize file stage)
  | converts {command order output host} (asked : command.order? = some order)
      (converts : Converts w order output host)
      (placed : ∀ p, order.output = some p → w.files.Writable p) : Fulfilled w command

/-- The failures that no command foresees. -/
inductive Escapes (w : World) : Command → Prop where
  | malformed {file stage e} (flawed : w.files.readText file = .error (.decoding e)) :
      Escapes w (.normalize file stage)
  | blocked {command order p output host} (asked : command.order? = some order)
      (converts : Converts w order output host) (named : order.output = some p)
      (blocked : ¬ w.files.Writable p) : Escapes w command

/-- What a report shows of the way in which its command ended. -/
inductive Closes (w : World) (command : Command) (r : Report) : Prop where
  | fulfilled (does : Fulfilled w command) (status : r.exit = .whole 0)
      (contained : r.escaped = none)
  | failed {before} (fails : ¬ Fulfilled w command) (foreseen : ¬ Escapes w command)
      (failing : Failing before r) (contained : before.escaped = none)
  | escaped {cause} (fails : ¬ Fulfilled w command) (escapes : Escapes w command)
      (origin : (∃ e, cause = .decoding e) ∨ ∃ e, cause = .system e)
      (escaped : r.escaped = some (.ofCause cause))

section
variable {w : World} {command : Command}

theorem not_escapes_of_fulfilled (does : Fulfilled w command) : ¬ Escapes w command := by
  intro escapes
  cases does with
  | normalizes read =>
    cases escapes with
    | malformed flawed => simp [read] at flawed
    | blocked asked => simp [Command.order?] at asked
  | converts asked converts placed =>
    cases escapes with
    | malformed => simp [Command.order?] at asked
    | blocked again _ named blocked =>
      rw [asked] at again
      obtain rfl := Option.some.inj again
      exact blocked (placed _ named)

theorem succeeds_of_asked {order : ConvertOrder} (asked : command.order? = some order)
    (started : Fulfilled w command ∨ Escapes w command) :
    ∃ output host, Converts w order output host := by
  have own {other : ConvertOrder} {output : Text} {host : Host}
      (again : command.order? = some other) (converts : Converts w other output host) :
      ∃ output host, Converts w order output host := by
    rw [asked] at again
    obtain rfl := Option.some.inj again
    exact ⟨output, host, converts⟩
  rcases started with does | escapes
  · cases does with
    | normalizes => simp [Command.order?] at asked
    | converts again converts => exact own again converts
  · cases escapes with
    | malformed => simp [Command.order?] at asked
    | blocked again converts => exact own again converts

theorem encodable_readText {fs : Files} {p : Path} {t : Text} (read : fs.readText p = .ok t) :
    Encodable t := by
  rw [Files.readText] at read
  split at read
  · simp at read
  · split at read
    · simp at read
    case h_2 decoded =>
      obtain rfl := Except.ok.inj read
      exact encodable_unifyLineEnds (Utf8.encodable_of_decode decoded)

theorem readText_fails {fs : Files} {p : Path} {content : Bytes} {cause : Cause}
    (found : fs.read p = .ok content) (unread : fs.readText p = .error cause) :
    ∃ e, cause = .decoding e := by
  rw [Files.readText, found] at unread
  dsimp only at unread
  split at unread
  case h_1 e _ => exact ⟨e, (Except.error.inj unread).symm⟩
  case h_2 => simp at unread

theorem perform_normalize {file : Path} {code : Text} (debug : Bool) (stage : Text)
    (read : w.files.readText file = .ok code) :
    perform ⟨debug, .normalize file stage⟩ w =
      ⟨.whole 0, dropStyles (Normal.normalize (Stage.resolve stage).name code) ++ text "\n", [],
        none, w.files, w.host⟩ := by
  have scalars : Encodable (Normal.normalize (Stage.resolve stage).name code) :=
    Normal.encodable_normalize _ (encodable_readText read)
  have shown : dropStyles (Normal.normalize (Stage.resolve stage).name code ++ text "\n") =
      dropStyles (Normal.normalize (Stage.resolve stage).name code) ++ text "\n" :=
    dropStyles_concat_newline _
  change runNormalize file stage (.opening w) = _
  rw [runNormalize, show (Report.opening w).files = w.files from rfl, read]
  dsimp only
  rw [Report.say_encodable (encodable_append.mpr ⟨scalars, encodable_text _⟩), shown]
  rfl

theorem normalize_closes {file : Path} {content : Bytes} (debug : Bool) (stage : Text)
    (found : w.files.read file = .ok content) :
    Closes w (.normalize file stage) (perform ⟨debug, .normalize file stage⟩ w) := by
  cases read : w.files.readText file with
  | ok code =>
    have reported := perform_normalize debug stage read
    exact .fulfilled (.normalizes read) (congrArg Report.exit reported)
      (congrArg Report.escaped reported)
  | error cause =>
    obtain ⟨e, rfl⟩ := readText_fails found read
    have reported : perform ⟨debug, .normalize file stage⟩ w =
        (Report.opening w).escape (.ofCause (.decoding e)) := by
      change runNormalize file stage (.opening w) = _
      rw [runNormalize, show (Report.opening w).files = w.files from rfl, read]
    have escapes : Escapes w (.normalize file stage) := .malformed read
    exact .escaped (fun does => not_escapes_of_fulfilled does escapes) escapes (.inl ⟨e, rfl⟩)
      (congrArg Report.escaped reported)

theorem conversion_closes {i : Invocation} {order : ConvertOrder}
    (asked : i.command.order? = some order) : Closes w i.command (perform i w) := by
  by_cases succeeds : ∃ output host, Converts w order output host
  · obtain ⟨output, host, converts⟩ := succeeds
    cases named : order.output with
    | none =>
      obtain ⟨log, reported⟩ := perform_to_stream asked converts named
      exact .fulfilled (.converts asked converts (by simp [named]))
        (congrArg Report.exit reported) (congrArg Report.escaped reported)
    | some p =>
      by_cases writable : w.files.Writable p
      · obtain ⟨log, bytes, fs, _, _, reported⟩ := perform_to_file asked converts named writable
        have placed : ∀ q, order.output = some q → w.files.Writable q := by
          intro q same
          rw [named] at same
          rwa [← Option.some.inj same]
        exact .fulfilled (.converts asked converts placed) (congrArg Report.exit reported)
          (congrArg Report.escaped reported)
      · have escapes : Escapes w i.command := .blocked asked converts named writable
        obtain ⟨log, reported⟩ := perform_converted asked converts
        obtain ⟨e, delivered⟩ := deliver_escapes
          (r := (Report.opening w).after log host) named
          (Utf8.encode_of_encodable converts.encodable) writable
        exact .escaped (fun does => not_escapes_of_fulfilled does escapes) escapes
          (.inr ⟨e, rfl⟩) (congrArg Report.escaped (reported.trans delivered))
  · have fails : ∀ output host, ¬ Converts w order output host :=
      fun output host converts => succeeds ⟨output, host, converts⟩
    obtain ⟨c, host, reaches⟩ := reaches_exists w order
    obtain ⟨log, failing⟩ := perform_unconverted asked reaches fails
    exact .failed (fun does => succeeds (succeeds_of_asked asked (.inl does)))
      (fun escapes => succeeds (succeeds_of_asked asked (.inr escapes))) failing rfl

theorem command_closes {words : List Text} {i : Invocation} {file : Path}
    (accepted : Invocation.ofWords w.files words = .ok i)
    (sourced : i.command.file? = some file) : Closes w i.command (run words w) := by
  rw [run_of_accepted accepted]
  obtain ⟨debug, command⟩ := i
  cases command with
  | convert => exact conversion_closes rfl
  | legacy => exact conversion_closes rfl
  | normalize source stage =>
    obtain ⟨content, found⟩ := Invocation.source_is_read accepted rfl
    exact normalize_closes debug stage found
  | _ => simp [Command.file?] at sourced

end

theorem Closes.tells {w : World} {command : Command} {r : Report} (closes : Closes w command r) :
    (Fulfilled w command → r.exit = .whole 0 ∧ r.escaped = none) ∧
    (¬ Fulfilled w command → ¬ Escapes w command →
      r.escaped = none ∧ (∃ n : Int, 0 < n ∧ r.exit = .whole n) ∧
        ∃ before message, IsMessage message ∧ r.stderr = before ++ message) ∧
    (r.escaped ≠ none ↔ Escapes w command) ∧
    ∀ f, r.escaped = some f →
      (∃ e, f = .ofCause (.decoding e)) ∨ ∃ e, f = .ofCause (.system e) := by
  cases closes with
  | fulfilled does status contained =>
    refine ⟨fun _ => ⟨status, contained⟩, fun fails => absurd does fails, ?_, ?_⟩
    · exact iff_of_false (not_not_intro contained) (not_escapes_of_fulfilled does)
    · simp [contained]
  | failed fails foreseen failing contained =>
    obtain ⟨message, isMessage, shown⟩ := failing.stderr
    have silent := failing.escaped.trans contained
    refine ⟨fun does => absurd does fails, fun _ _ => ?_, ?_, ?_⟩
    · exact ⟨silent, failing.status, _, message, isMessage, shown⟩
    · exact iff_of_false (not_not_intro silent) foreseen
    · simp [silent]
  | escaped fails escapes origin escaped =>
    refine ⟨fun does => absurd does fails, fun _ foreseen => absurd escapes foreseen, ?_, ?_⟩
    · exact iff_of_true (by simp [escaped]) escapes
    · intro f eq
      rw [escaped] at eq
      obtain rfl := Option.some.inj eq
      exact origin.imp (fun ⟨e, eq⟩ => ⟨e, congrArg _ eq⟩) fun ⟨e, eq⟩ => ⟨e, congrArg _ eq⟩

/-- How `convert`, `legacy` and `normalize` end: by themselves, with a message if they fail, unless
the failure is one of those that escape. A destination that is a directory or below a file makes a
conversion that succeeds one of these. -/
theorem commands_tell_their_failures {words : List Text} {w : World} {i : Invocation} {file : Path}
    (accepted : Invocation.ofWords w.files words = .ok i)
    (sourced : i.command.file? = some file) :
    (Fulfilled w i.command → (run words w).exit = .whole 0 ∧ (run words w).escaped = none) ∧
    (¬ Fulfilled w i.command → ¬ Escapes w i.command →
      (run words w).escaped = none ∧ (∃ n : Int, 0 < n ∧ (run words w).exit = .whole n) ∧
        ∃ before message, IsMessage message ∧ (run words w).stderr = before ++ message) ∧
    ((run words w).escaped ≠ none ↔ Escapes w i.command) ∧
    (∀ f, (run words w).escaped = some f →
      (∃ e, f = .ofCause (.decoding e)) ∨ ∃ e, f = .ofCause (.system e)) ∧
    ∀ order p output host, i.command.order? = some order → Converts w order output host →
      order.output = some p → w.files.Misplaced p → (run words w).escaped ≠ none := by
  obtain ⟨fulfilled, told, escapes, origin⟩ := (command_closes accepted sourced).tells
  refine ⟨fulfilled, told, escapes, origin, ?_⟩
  intro order p output host asked converts named misplaced
  exact escapes.mpr (.blocked asked converts named (Files.not_writable_of_misplaced misplaced))

def worldWithFlaw : World where
  files := .ofList [(text "a.wgsl", some [0x78]), (text "b.frag", some [0xFF])]
  host := .openingOn .posix
    [.exited .quiet, .exited .quiet, .exited ⟨0, [], [], some [0x79]⟩]
  env := []
  tools := [text "naga"]

def wordsFromFlaw : List Text := [text "convert", text "b.frag", text "-t", text "hlsl"]

def orderFromFlaw : ConvertOrder :=
  ⟨.tidy (text "b.frag"), text "glsl", text "hlsl", text "fragment", none, none⟩

theorem undecodable_source_is_told :
    ∃ before message, IsMessage message ∧
      (run wordsFromFlaw worldWithFlaw).stderr = before ++ message := by
  have accepted : Invocation.ofWords worldWithFlaw.files wordsFromFlaw =
      .ok ⟨false, .convert orderFromFlaw⟩ := by decide
  obtain ⟨fulfilled, told, escapes, _⟩ := commands_tell_their_failures accepted rfl
  have ended : (run wordsFromFlaw worldWithFlaw).exit = .whole 1 := by decide +kernel
  have contained : (run wordsFromFlaw worldWithFlaw).escaped = none := by decide +kernel
  have fails : ¬ Fulfilled worldWithFlaw (.convert orderFromFlaw) := by
    intro does
    have quiet := (fulfilled does).1
    rw [ended] at quiet
    exact absurd quiet (by decide)
  obtain ⟨_, _, message⟩ := told fails fun escape => escapes.mpr escape contained
  exact message

/-- Neither a source that cannot be decoded nor a destination that is a directory is told by the
command itself. -/
theorem undecodable_and_misplaced_escape :
    ¬ (run [text "normalize", text "b.frag"] worldWithFlaw).escaped = none ∧
      ¬ (run (wordsToHlsl ++ [text "-o", text "."]) worldWithFlaw).escaped = none := by
  decide +kernel

end CrossShader.CommandLine
