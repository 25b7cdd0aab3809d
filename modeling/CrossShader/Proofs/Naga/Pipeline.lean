import CrossShader.Proofs.Naga.Plan

/-!
Conversions with the compiler. Each starts the runs that its request fixes, up to the first that
does not end clean, and answers with data unless a run cannot be handed over or waited for or the
last one leaves a file that is no UTF-8.
-/
namespace CrossShader.Naga
open Conversion Text

/-- The ways in which a conversion ends, each with the runs it started. -/
inductive Ends (b : Settings) (r : Request) (h : Host) : List Run → Halt → Prop where
  | unencodable {d} (flawed : ¬ Encodable r.prepared) :
      Ends b r h [] (.raised .parse (complaint d))
  | unnamed {cause} (scalars : Encodable r.prepared)
      (refused : h.launcher.commandFault? [b.executable] = some cause) :
      Ends b r h [] (.raised .parse (.ofCause cause))
  | unawaited {cause} (scalars : Encodable r.prepared)
      (named : h.launcher.commandFault? [b.executable] = none)
      (launched : ∀ launch, h.foreseen 0 ≠ .refused launch)
      (fault : h.launcher.timeoutFault? b.timeout = some cause) :
      Ends b r h [parsingRun b r] (.raised .parse (.ofCause cause))
  | unparsed {c} (scalars : Encodable r.prepared)
      (named : h.launcher.commandFault? [b.executable] = none)
      (first : (h.foreseen 0).clean = false) :
      Ends b r h [parsingRun b r] (.raised .parse (.ofConversion c))
  | invalid {c} (scalars : Encodable r.prepared) (serves : h.Serves b)
      (first : (h.foreseen 0).clean = true) (second : (h.foreseen 1).clean = false) :
      Ends b r h [parsingRun b r, validatingRun b r] (.raised .validate (.ofConversion c))
  | untargeted (scalars : Encodable r.prepared) (serves : h.Serves b)
      (first : (h.foreseen 0).clean = true) (second : (h.foreseen 1).clean = true)
      (unknown : r.target ∉ targetNames) :
      Ends b r h [parsingRun b r, validatingRun b r] .unknownTarget
  | ungenerated {c dialect} (scalars : Encodable r.prepared) (serves : h.Serves b)
      (first : (h.foreseen 0).clean = true) (second : (h.foreseen 1).clean = true)
      (known : dialect.name = r.target) (third : (h.foreseen 2).clean = false) :
      Ends b r h [parsingRun b r, validatingRun b r, generatingRun b r dialect]
        (.raised (.generate dialect) (.ofConversion c))
  | unreadable {dialect fault} (scalars : Encodable r.prepared) (serves : h.Serves b)
      (first : (h.foreseen 0).clean = true) (second : (h.foreseen 1).clean = true)
      (known : dialect.name = r.target) (third : (h.foreseen 2).clean = true)
      (read : outputText (outputEnding r dialect) (h.foreseen 2).file? = .error fault) :
      Ends b r h [parsingRun b r, validatingRun b r, generatingRun b r dialect]
        (.raised (.generate dialect) fault)
  | generated {dialect t} (scalars : Encodable r.prepared) (serves : h.Serves b)
      (first : (h.foreseen 0).clean = true) (second : (h.foreseen 1).clean = true)
      (known : dialect.name = r.target) (third : (h.foreseen 2).clean = true)
      (read : outputText (outputEnding r dialect) (h.foreseen 2).file? = .ok t) :
      Ends b r h [parsingRun b r, validatingRun b r, generatingRun b r dialect] (.generated t)

theorem dialect_ofDialect (dialect : TargetDialect) :
    (TargetOptions.ofDialect dialect).dialect = dialect := by
  cases dialect <;> rfl

section
variable {b : Settings} {r : Request} {h h₁ h₂ : Host} {m : Module} {i : Info}

theorem course_ends_of_validated (scalars : Encodable r.prepared) (serves : h.Serves b)
    (first : (h.foreseen 0).clean = true) (second : (h.foreseen 1).clean = true)
    (made : m.program = program r) (paired : i.module = m)
    (parsed : parseReply b.library r h = (.ok m, h₁))
    (validated : validateReply b.library m h₁ = (.ok i, h₂))
    (ran : h.Ran [parsingRun b r, validatingRun b r] (validatedState b.library h₂)) :
    ∃ calls halt h' started, Course b.library r h calls halt h' ∧ h.Ran started h' ∧
      Ends b r h started halt := by
  by_cases listed : r.target ∈ targetNames
  · obtain ⟨dialect, named, known⟩ := targetConfiguration_known (Stage.resolve r.stage).name listed
    cases third : (h.foreseen 2).clean with
    | false =>
      obtain ⟨c, h₃, ran₃, generated⟩ := generate_fails b r scalars (ran.serves serves)
        dialect made paired (by rw [ran.foreseen]; exact third)
      have course := Course.generateRaises parsed validated known generated
      rw [dialect_ofDialect] at course
      exact ⟨_, _, h₃, _, course, ran.trans ran₃,
        .ungenerated scalars serves first second named third⟩
    | true =>
      obtain ⟨h₃, ran₃, generated⟩ := generate_ends b r scalars (ran.serves serves)
        dialect made paired (by rw [ran.foreseen]; exact third)
      rw [ran.foreseen] at generated
      cases read : outputText (outputEnding r dialect) (h.foreseen 2).file? with
      | error fault =>
        have course := Course.generateRaises parsed validated known
          (generated.trans (congrArg (·, h₃) read))
        rw [dialect_ofDialect] at course
        exact ⟨_, _, h₃, _, course, ran.trans ran₃,
          .unreadable scalars serves first second named third read⟩
      | ok t =>
        have course := Course.completes parsed validated known
          (generated.trans (congrArg (·, h₃) read))
        exact ⟨_, _, h₃, _, course, ran.trans ran₃,
          .generated scalars serves first second named third read⟩
  · exact ⟨_, _, _, _, .targetUnknown parsed validated listed, ran,
      .untargeted scalars serves first second listed⟩

theorem course_ends_of_serves (scalars : Encodable r.prepared) (serves : h.Serves b) :
    ∃ calls halt h' started, Course b.library r h calls halt h' ∧ h.Ran started h' ∧
      Ends b r h started halt := by
  cases first : (h.foreseen 0).clean with
  | false =>
    obtain ⟨c, h₁, ran₁, parsed⟩ := parse_fails b r scalars serves first
    exact ⟨_, _, h₁, _, .parseRaises parsed, ran₁, .unparsed scalars serves.named first⟩
  | true =>
    obtain ⟨m, h₁, ran₁, made, parsed⟩ := parse_succeeds b r scalars serves first
    cases second : (h.foreseen 1).clean with
    | false =>
      obtain ⟨c, h₂, ran₂, validated⟩ := validate_fails b r scalars (ran₁.serves serves) made
        (by rw [ran₁.foreseen]; exact second)
      exact ⟨_, _, h₂, _, .validateRaises parsed validated, ran₁.trans ran₂,
        .invalid scalars serves first second⟩
    | true =>
      obtain ⟨i, h₂, ran₂, paired, validated⟩ := validate_succeeds b r scalars
        (ran₁.serves serves) made (by rw [ran₁.foreseen]; exact second)
      exact course_ends_of_validated scalars serves first second made paired parsed validated
        ((ran₁.trans ran₂).note _)

theorem course_ends_of_unawaited (scalars : Encodable r.prepared)
    (named : h.launcher.commandFault? [b.executable] = none) {cause : Cause}
    (fault : h.launcher.timeoutFault? b.timeout = some cause) :
    ∃ calls halt h' started, Course b.library r h calls halt h' ∧ h.Ran started h' ∧
      Ends b r h started halt := by
  -- A launch that is refused is told at once, and nothing is waited for.
  by_cases refused : ∃ launch, h.foreseen 0 = .refused launch
  · obtain ⟨launch, refused⟩ := refused
    obtain ⟨h₁, ran, parsed⟩ := parse_raises b r h scalars named (Host.verdict_of_refused refused)
    exact ⟨_, _, h₁, _, .parseRaises parsed, ran, .unparsed scalars named (by rw [refused]; rfl)⟩
  · have launched : ∀ launch, h.foreseen 0 ≠ .refused launch :=
      fun launch eq => refused ⟨launch, eq⟩
    obtain ⟨h₁, ran, parsed⟩ := parse_raises b r h scalars named
      (Host.verdict_of_unawaited launched fault)
    exact ⟨_, _, h₁, _, .parseRaises parsed, ran, .unawaited scalars named launched fault⟩

end

theorem course_ends (b : Settings) (r : Request) (h : Host) :
    ∃ calls halt h' started, Course b.library r h calls halt h' ∧ h.Ran started h' ∧
      Ends b r h started halt := by
  by_cases scalars : Encodable r.prepared
  · cases named : h.launcher.commandFault? [b.executable] with
    | some cause =>
      obtain ⟨h₁, ran, parsed⟩ := parse_unnamed b r h scalars named
      exact ⟨_, _, h₁, _, .parseRaises parsed, ran, .unnamed scalars named⟩
    | none =>
      cases awaited : h.launcher.timeoutFault? b.timeout with
      | some cause => exact course_ends_of_unawaited scalars named awaited
      | none => exact course_ends_of_serves scalars ⟨named, awaited⟩
  · obtain ⟨d, parsed⟩ := parse_refuses b r h scalars
    exact ⟨_, _, _, [], .parseRaises parsed, (Host.Ran.refl h).note _, .unencodable scalars⟩

section
variable {b : Settings} {r : Request} {h : Host}

theorem conversionRuns_of_serves (scalars : Encodable r.prepared) (serves : h.Serves b) :
    conversionRuns b r h = startedRuns (plannedRuns b r) (h.endings.drop 0) := by
  have startable : ¬ (¬ Encodable r.prepared ∨ h.launcher.commandFault? [b.executable] ≠ none) := by
    simp [scalars, serves.named]
  rw [conversionRuns, if_neg startable, if_neg (not_not_intro serves.awaited), List.drop_zero]

theorem named_of_conversionRuns (started : conversionRuns b r h ≠ []) :
    h.launcher.commandFault? [b.executable] = none := by
  by_contra refused
  exact started (if_pos (.inr refused))

/-- If the first run does not end clean, it does not matter whether it is waited for. -/
theorem conversionRuns_of_failed (scalars : Encodable r.prepared)
    (named : h.launcher.commandFault? [b.executable] = none)
    (alone : h.launcher.timeoutFault? b.timeout ≠ none ∨ (h.foreseen 0).clean = false) :
    conversionRuns b r h = [parsingRun b r] := by
  by_cases awaited : h.launcher.timeoutFault? b.timeout = none
  · rw [conversionRuns_of_serves scalars ⟨named, awaited⟩, plannedRuns, startedRuns_drop_cons,
      alone.resolve_left (not_not_intro awaited)]
    rfl
  · have startable : ¬ (¬ Encodable r.prepared ∨
        h.launcher.commandFault? [b.executable] ≠ none) := by
      simp [scalars, named]
    rw [conversionRuns, if_neg startable, if_pos awaited]

/-- The generating run is the last of the plan, so it does not matter how it ends. -/
theorem conversionRuns_of_valid {dialect : TargetDialect} (scalars : Encodable r.prepared)
    (serves : h.Serves b) (first : (h.foreseen 0).clean = true)
    (second : (h.foreseen 1).clean = true) (known : dialect.name = r.target) :
    conversionRuns b r h = [parsingRun b r, validatingRun b r, generatingRun b r dialect] := by
  rw [conversionRuns_of_serves scalars serves, plannedRuns_known b known, startedRuns_drop_cons,
    first, startedRuns_drop_cons, second, startedRuns_drop_cons, startedRuns, ite_self]
  rfl

theorem conversionRuns_of_ends {started : List Run} {halt : Halt}
    (ends : Ends b r h started halt) : conversionRuns b r h = started := by
  cases ends with
  | unencodable flawed => exact if_pos (.inl flawed)
  | unnamed scalars refused => exact if_pos (.inr (by simp [refused]))
  | unawaited scalars named launched fault =>
    exact conversionRuns_of_failed scalars named (.inl (by simp [fault]))
  | unparsed scalars named first => exact conversionRuns_of_failed scalars named (.inr first)
  | invalid scalars serves first second =>
    rw [conversionRuns_of_serves scalars serves, plannedRuns, startedRuns_drop_cons, first,
      startedRuns_drop_cons, second]
    rfl
  | untargeted scalars serves first second unknown =>
    rw [conversionRuns_of_serves scalars serves, plannedRuns_unknown b unknown,
      startedRuns_drop_cons, first, startedRuns_drop_cons, second]
    rfl
  | ungenerated scalars serves first second known third =>
    exact conversionRuns_of_valid scalars serves first second known
  | unreadable scalars serves first second known third read =>
    exact conversionRuns_of_valid scalars serves first second known
  | generated scalars serves first second known third read =>
    exact conversionRuns_of_valid scalars serves first second known

end

theorem outputText_fails {suffix : Text} {file : Option Bytes} {fault : Fault}
    (read : outputText suffix file = .error fault) :
    (file = none ∧ ∃ d, fault = complaint d) ∨
      ∃ bytes e, file = some bytes ∧ Utf8.decode bytes = .error e ∧
        fault = .ofCause (.decoding e) := by
  cases file with
  | none => exact Or.inl ⟨rfl, _, (Except.error.inj read).symm⟩
  | some bytes =>
    rw [outputText] at read
    cases decoded : Utf8.decode bytes with
    | ok t => simp [decoded] at read
    | error e =>
      rw [decoded] at read
      exact Or.inr ⟨bytes, e, rfl, decoded, (Except.error.inj read).symm⟩

theorem outputText_succeeds {suffix t : Text} {file : Option Bytes}
    (read : outputText suffix file = .ok t) :
    ∃ bytes u, file = some bytes ∧ Utf8.decode bytes = .ok u ∧ t = unifyLineEnds u := by
  cases file with
  | none => simp [outputText] at read
  | some bytes =>
    rw [outputText] at read
    cases decoded : Utf8.decode bytes with
    | ok u =>
      rw [decoded] at read
      exact ⟨bytes, u, rfl, decoded, (Except.ok.inj read).symm⟩
    | error e => simp [decoded] at read

theorem ran_close {h h' : Host} {started : List Run} (ran : h.Ran started h') (b : Settings)
    (r : Request) (halt : Halt) : h.Ran started (halt.close b.library.note r h') := by
  cases halt with
  | raised place fault =>
    rw [Halt.close]
    split
    · exact ran.note _
    · exact ran
  | _ => exact ran.note _

theorem conversion_ends (b : Settings) (r : Request) (h : Host) :
    ∃ halt, Ends b r h (conversionRuns b r h) halt ∧
      (convert b.library r h).1 = halt.answer r ∧
      (convert b.library r h).2.runs = h.runs ++ conversionRuns b r h := by
  obtain ⟨calls, halt, h', started, course, ran, ends⟩ := course_ends b r h
  rw [conversionRuns_of_ends ends, convert_of_course course]
  exact ⟨halt, ends, rfl, (ran_close ran b r halt).runs⟩

/-- What breaks a conversion off: the executable cannot be named, its first run cannot be waited for
or after three clean runs there is a file that is no UTF-8. -/
inductive Breaks (b : Settings) (r : Request) (h : Host) : Cause → Prop where
  | unnamed {cause} (scalars : Encodable r.prepared)
      (refused : h.launcher.commandFault? [b.executable] = some cause) : Breaks b r h cause
  | unawaited {cause} (scalars : Encodable r.prepared)
      (named : h.launcher.commandFault? [b.executable] = none)
      (launched : ∀ launch, h.foreseen 0 ≠ .refused launch)
      (fault : h.launcher.timeoutFault? b.timeout = some cause) : Breaks b r h cause
  | malformed {bytes e} (scalars : Encodable r.prepared) (serves : h.Serves b)
      (listed : r.target ∈ targetNames) (clean : ∀ k < 3, (h.foreseen k).clean = true)
      (written : (h.foreseen 2).file? = some bytes) (flawed : Utf8.decode bytes = .error e) :
      Breaks b r h (.decoding e)

section
variable {b : Settings} {r : Request} {h : Host} {started : List Run} {halt : Halt}

theorem Breaks.isOrdinary {cause : Cause} (breaks : Breaks b r h cause) :
    cause.isOrdinary = true := by
  cases breaks with
  | unnamed _ refused =>
    rcases Launcher.commandFault?_eq_some refused with ⟨e, rfl⟩ | rfl <;> rfl
  | unawaited _ _ _ fault =>
    rcases Launcher.timeoutFault?_eq_some fault with ⟨m, rfl⟩ | ⟨m, rfl⟩ <;> rfl
  | malformed => rfl

theorem Breaks.not_conversion {cause : Cause} (breaks : Breaks b r h cause) (c : ConversionFault) :
    cause ≠ .conversion c := by
  cases breaks with
  | unnamed _ refused =>
    rcases Launcher.commandFault?_eq_some refused with ⟨e, rfl⟩ | rfl <;> exact nofun
  | unawaited _ _ _ fault =>
    rcases Launcher.timeoutFault?_eq_some fault with ⟨m, rfl⟩ | ⟨m, rfl⟩ <;> exact nofun
  | malformed => exact nofun

theorem three_clean (first : (h.foreseen 0).clean = true) (second : (h.foreseen 1).clean = true)
    (third : (h.foreseen 2).clean = true) : ∀ k < 3, (h.foreseen k).clean = true := by
  intro k bound
  match k with
  | 0 => exact first
  | 1 => exact second
  | 2 => exact third

theorem answer_of_escaping {cause : Cause} (place : Place)
    (other : ∀ c, cause ≠ .conversion c) :
    (Halt.raised place (.ofCause cause)).answer r = .error (.ofCause cause) := by
  rw [Halt.answer]
  split
  case h_1 c reported => exact absurd reported (other c)
  case h_2 => rfl

theorem Breaks.unanswered {cause : Cause} (breaks : Breaks b r h cause) {o : Outcome} :
    (Halt.raised .parse (.ofCause cause)).answer r ≠ .ok o := by
  rw [answer_of_escaping .parse breaks.not_conversion]
  exact nofun

theorem escapes_of_malformed (ends : Ends b r h started halt) (scalars : Encodable r.prepared)
    (serves : h.Serves b) (listed : r.target ∈ targetNames)
    (clean : ∀ k < 3, (h.foreseen k).clean = true) {bytes : Bytes} {e : Utf8.DecodeError}
    (written : (h.foreseen 2).file? = some bytes) (flawed : Utf8.decode bytes = .error e) :
    halt.answer r = .error (.ofCause (.decoding e)) := by
  have first := clean 0 (by decide)
  have second := clean 1 (by decide)
  have third := clean 2 (by decide)
  cases ends with
  | unencodable absent => exact absurd scalars absent
  | unnamed _ refused => simp [serves.named] at refused
  | unawaited _ _ _ fault => simp [serves.awaited] at fault
  | unparsed _ _ failed => simp [failed] at first
  | invalid _ _ _ failed => simp [failed] at second
  | untargeted _ _ _ _ unknown => exact absurd listed unknown
  | ungenerated _ _ _ _ _ failed => simp [failed] at third
  | unreadable _ _ _ _ _ _ read =>
    rw [written, outputText, flawed] at read
    rw [← Except.error.inj read]
    rfl
  | generated _ _ _ _ _ _ read => simp [written, outputText, flawed] at read

theorem answers_unless_breaks (ends : Ends b r h started halt)
    (sound : ∀ cause, ¬ Breaks b r h cause) : ∃ o, halt.answer r = .ok o := by
  cases ends with
  | unnamed scalars refused => exact absurd (.unnamed scalars refused) (sound _)
  | unawaited scalars named launched fault =>
    exact absurd (.unawaited scalars named launched fault) (sound _)
  | @unreadable dialect _ scalars serves first second known third read =>
    rcases outputText_fails read with ⟨_, d, rfl⟩ | ⟨bytes, e, written, flawed, _⟩
    · exact ⟨_, rfl⟩
    · exact absurd (.malformed scalars serves (known ▸ name_mem_targetNames dialect)
        (three_clean first second third) written flawed) (sound _)
  | _ => exact ⟨_, rfl⟩

theorem convert_of_breaks {cause : Cause} (breaks : Breaks b r h cause) :
    (convert b.library r h).1 = .error (.ofCause cause) := by
  have other := breaks.not_conversion
  cases breaks with
  | unnamed scalars refused =>
    obtain ⟨h₁, _, parsed⟩ := parse_unnamed b r h scalars refused
    rw [convert_of_course (.parseRaises parsed)]
    exact answer_of_escaping .parse other
  | unawaited scalars named launched fault =>
    obtain ⟨h₁, _, parsed⟩ := parse_raises b r h scalars named
      (Host.verdict_of_unawaited launched fault)
    rw [convert_of_course (.parseRaises parsed)]
    exact answer_of_escaping .parse other
  | malformed scalars serves listed clean written flawed =>
    obtain ⟨halt, ends, answer, _⟩ := conversion_ends b r h
    exact answer.trans (escapes_of_malformed ends scalars serves listed clean written flawed)

theorem success_of_ends (ends : Ends b r h started halt) {o : Outcome}
    (answered : halt.answer r = .ok o) :
    o.success = true ↔ started.length = 3 ∧ (∀ k < 3, (h.foreseen k).clean = true) ∧
      (h.foreseen 2).file?.isSome = true := by
  cases ends with
  | unnamed scalars refused => exact absurd answered (Breaks.unnamed scalars refused).unanswered
  | unawaited scalars named launched fault =>
    exact absurd answered (Breaks.unawaited scalars named launched fault).unanswered
  | ungenerated _ _ _ _ _ failed =>
    cases Except.ok.inj answered
    constructor
    · simp [Outcome.success]
    · rintro ⟨_, clean, _⟩
      have third := clean 2 (by decide)
      simp [failed] at third
  | unreadable _ _ _ _ _ _ read =>
    rcases outputText_fails read with ⟨missing, d, rfl⟩ | ⟨bytes, e, _, _, rfl⟩
    · cases Except.ok.inj answered
      simp [Outcome.success, missing]
    · simp [Halt.answer, Fault.ofCause] at answered
  | generated _ _ first second _ third read =>
    obtain ⟨bytes, u, written, _, _⟩ := outputText_succeeds read
    cases Except.ok.inj answered
    simp only [Outcome.success, List.length_cons, List.length_nil, written, Option.isSome_some,
      and_true, true_iff]
    exact ⟨trivial, three_clean first second third⟩
  | _ =>
    cases Except.ok.inj answered
    simp [Outcome.success]

theorem output_of_ends (ends : Ends b r h started halt) {t : Text}
    (answered : halt.answer r = .ok (.converted t)) :
    ∃ bytes u, (h.foreseen 2).file? = some bytes ∧ Utf8.decode bytes = .ok u ∧
      t = unifyLineEnds u := by
  cases ends with
  | unnamed scalars refused => exact absurd answered (Breaks.unnamed scalars refused).unanswered
  | unawaited scalars named launched fault =>
    exact absurd answered (Breaks.unawaited scalars named launched fault).unanswered
  | generated _ _ _ _ _ _ read =>
    obtain ⟨bytes, u, written, decoded, eq⟩ := outputText_succeeds read
    cases Except.ok.inj answered
    exact ⟨bytes, u, written, decoded, eq⟩
  | unreadable _ _ _ _ _ _ read =>
    rcases outputText_fails read with ⟨_, d, rfl⟩ | ⟨_, e, _, _, rfl⟩
    · simp [Halt.answer, complaint, Fault.ofConversion, Fault.ofCause] at answered
    · simp [Halt.answer, Fault.ofCause] at answered
  | _ => simp [Halt.answer, complaint, Fault.ofConversion, Fault.ofCause] at answered

end

/-- A conversion with the compiler answers with data unless it breaks off, and what escapes then is
the fault that breaks it off. -/
theorem conversion_answers_iff (b : Settings) (r : Request) (h : Host) :
    ((∃ o, (convert b.library r h).1 = .ok o) ↔ ∀ cause, ¬ Breaks b r h cause) ∧
      ∀ cause, (convert b.library r h).1 = .error (.ofCause cause) ↔ Breaks b r h cause := by
  obtain ⟨halt, ends, answer, _⟩ := conversion_ends b r h
  refine ⟨⟨?_, fun sound => answer ▸ answers_unless_breaks ends sound⟩, fun cause =>
    ⟨fun escaped => ?_, convert_of_breaks⟩⟩
  · rintro ⟨o, answered⟩ cause breaks
    simp [convert_of_breaks breaks] at answered
  · -- Only one fault can escape, so if it is none that breaks off, nothing breaks off.
    by_contra sound
    have silent : ∀ other, ¬ Breaks b r h other := by
      intro other breaks
      have same := (convert_of_breaks breaks).symm.trans escaped
      cases Except.error.inj same
      exact sound breaks
    obtain ⟨o, answered⟩ := answers_unless_breaks ends silent
    simp [← answer, escaped] at answered

theorem malformed_output_escapes :
    ¬ ∃ o, (convert (Settings.library ⟨text "naga", .ofInt 30⟩)
      ⟨text "c", text "wgsl", text "hlsl", text "fragment"⟩
      (.openingOn .posix
        [.exited .quiet, .exited .quiet, .exited ⟨0, [], [], some [0xFF]⟩])).1 = .ok o := by
  have escaped : (convert (Settings.library ⟨text "naga", .ofInt 30⟩)
      ⟨text "c", text "wgsl", text "hlsl", text "fragment"⟩
      (.openingOn .posix
        [.exited .quiet, .exited .quiet, .exited ⟨0, [], [], some [0xFF]⟩])).1 =
        .error (.ofCause (.decoding ⟨.badStart, 0xFF, 0, 1⟩)) := by decide +kernel
  rw [escaped]
  simp

theorem conversionRuns_is_start (b : Settings) (r : Request) (h : Host) :
    conversionRuns b r h <+: plannedRuns b r := by
  rw [conversionRuns]
  split
  · exact List.nil_prefix
  · split
    · exact (List.prefix_cons_inj (parsingRun b r)).mpr List.nil_prefix
    · exact startedRuns_is_start (plannedRuns b r) h.endings

/-- What a run tells the compiler of its input, beside the text that it hands over. -/
inductive TellsInput (r : Request) (run : Run) : Prop where
  | asWritten (executable words) (wgsl : SourceDialect.resolve r.source = .wgsl)
      (command : run.command = executable :: text "--input-kind" :: text "wgsl" :: words)
      (unstaged : text "--shader-stage" ∉ words)
      (received : run.input = some r.code) : TellsInput r run
  | normalized (executable words) (glsl : SourceDialect.resolve r.source = .glsl)
      (command : run.command = executable :: text "--input-kind" :: text "glsl" ::
        text "--shader-stage" :: (Stage.resolve r.stage).suffix :: words)
      (received : run.input = some (Normal.normalize (Stage.resolve r.stage).name r.code)) :
      TellsInput r run

theorem prepared_of_wgsl {r : Request} (wgsl : SourceDialect.resolve r.source = .wgsl) :
    r.prepared = r.code := by
  rw [Request.prepared, wgsl]

theorem prepared_of_glsl {r : Request} (glsl : SourceDialect.resolve r.source = .glsl) :
    r.prepared = Normal.normalize (Stage.resolve r.stage).name r.code := by
  rw [Request.prepared, glsl]

theorem tellsInput_planned (b : Settings) (r : Request) {flags outputs : List Text}
    (unstaged : text "--shader-stage" ∉ flags ++ outputs) :
    TellsInput r (plannedRun b r flags outputs) := by
  cases kind : SourceDialect.resolve r.source with
  | wgsl =>
    refine .asWritten b.executable (flags ++ inputFile r :: outputs) kind ?_ ?_
      (congrArg some (prepared_of_wgsl kind))
    · rw [plannedRun, kindArguments, kind]
      rfl
    · have file : text "--shader-stage" ≠ inputFile r := by
        rw [inputFile, inputEnding, kind]
        exact show text "--shader-stage" ≠ text "<tmp>/shader." ++ text "wgsl" by decide
      simp only [List.mem_append, List.mem_cons, not_or] at unstaged ⊢
      exact ⟨unstaged.1, file, unstaged.2⟩
  | glsl =>
    refine .normalized b.executable (flags ++ inputFile r :: outputs) kind ?_
      (congrArg some (prepared_of_glsl kind))
    rw [plannedRun, kindArguments, kind]
    rfl

theorem tellsInput_of_plannedRuns (b : Settings) (r : Request) :
    ∀ run ∈ plannedRuns b r, TellsInput r run := by
  intro run planned
  rw [plannedRuns, List.mem_cons, List.mem_cons, List.mem_map] at planned
  rcases planned with rfl | rfl | ⟨dialect, _, rfl⟩
  · exact tellsInput_planned b r (by decide)
  · exact tellsInput_planned b r (by decide)
  · have unstaged : text "--shader-stage" ∉ targetFlags dialect ++ [outputFile r dialect] := by
      rw [outputFile, outputEnding.eq_def]
      cases Stage.resolve r.stage <;> cases dialect <;> decide
    exact tellsInput_planned b r unstaged

theorem input_of_conversionRuns {b : Settings} {r : Request} {h : Host} {run : Run}
    (started : run ∈ conversionRuns b r h) : run.input = some r.prepared := by
  have planned := (conversionRuns_is_start b r h).subset started
  rw [plannedRuns, List.mem_cons, List.mem_cons, List.mem_map] at planned
  rcases planned with rfl | rfl | ⟨dialect, _, rfl⟩ <;> rfl

theorem plannedRuns_length (b : Settings) (r : Request) : (plannedRuns b r).length ≤ 3 := by
  by_cases listed : r.target ∈ targetNames
  · obtain ⟨dialect, named, _⟩ := targetConfiguration_known (Stage.resolve r.stage).name listed
    simp [plannedRuns_known b named]
  · simp [plannedRuns_unknown b listed]

theorem conversionRuns_after_clean (b : Settings) (r : Request) (h : Host) (k : Nat)
    (later : k + 1 < (conversionRuns b r h).length) : (h.foreseen k).clean = true := by
  rw [conversionRuns] at later
  split at later
  · simp at later
  · split at later
    · simp at later
    · exact started_after_clean (plannedRuns b r) h.endings k later

/-- The runs that a conversion starts, and what they have to do with its outcome. -/
theorem conversion_runs_its_plan (b : Settings) (r : Request) (h : Host) {o : Outcome}
    (answered : (convert b.library r h).1 = .ok o) :
    (convert b.library r h).2.runs = h.runs ++ conversionRuns b r h ∧
      conversionRuns b r h <+: plannedRuns b r ∧
      (conversionRuns b r h).length ≤ 3 ∧
      (∀ run ∈ conversionRuns b r h, TellsInput r run) ∧
      (∀ k, k + 1 < (conversionRuns b r h).length → (h.foreseen k).clean = true) ∧
      (o.success = true ↔ (conversionRuns b r h).length = 3 ∧
        (∀ k < 3, (h.foreseen k).clean = true) ∧ (h.foreseen 2).file?.isSome = true) ∧
      (∀ t, o = .converted t → ∃ bytes u, (h.foreseen 2).file? = some bytes ∧
        Utf8.decode bytes = .ok u ∧ t = unifyLineEnds u) := by
  obtain ⟨halt, ends, answer, runs⟩ := conversion_ends b r h
  rw [answer] at answered
  have start := conversionRuns_is_start b r h
  refine ⟨runs, start, start.length_le.trans (plannedRuns_length b r),
    fun run started => tellsInput_of_plannedRuns b r run (start.subset started),
    conversionRuns_after_clean b r h, success_of_ends ends answered, ?_⟩
  rintro t rfl
  exact output_of_ends ends answered

theorem vertex_conversion_runs_its_plan :
    (convert (Settings.library ⟨text "naga", .ofInt 30⟩)
      ⟨text "x", text "glsl", text "glsl", text "vertex"⟩
      (.openingOn .posix
        [.exited .quiet, .exited .quiet, .exited ⟨0, [], [], some [0x61, 13, 10]⟩])).1 =
        .ok (.converted [0x61, 10]) ∧
    (convert (Settings.library ⟨text "naga", .ofInt 30⟩)
      ⟨text "x", text "glsl", text "glsl", text "vertex"⟩
      (.openingOn .posix [.exited .quiet, .exited .quiet,
        .exited ⟨0, [], [], some [0x61, 13, 10]⟩])).2.runs.length = 3 := by
  have answered : (convert (Settings.library ⟨text "naga", .ofInt 30⟩)
      ⟨text "x", text "glsl", text "glsl", text "vertex"⟩
      (.openingOn .posix
        [.exited .quiet, .exited .quiet, .exited ⟨0, [], [], some [0x61, 13, 10]⟩])).1 =
        .ok (.converted [0x61, 10]) := by decide +kernel
  obtain ⟨runs, _, _, _, _, success, _⟩ := conversion_runs_its_plan _ _ _ answered
  refine ⟨answered, ?_⟩
  rw [runs, List.length_append, (success.mp rfl).1]
  rfl

theorem convert_of_complaint {b : Settings} {r : Request} {h : Host}
    (scalars : Encodable r.prepared) (serves : h.Serves b)
    (glsl : SourceDialect.resolve r.source = .glsl) (complains : (h.foreseen 0).Complains) :
    ∃ d, (convert b.library r h).1 = .ok (.failed
      (text "GLSL Parse Error: " ++ d ++ text "\n\nNormalized source:\n" ++ r.prepared)) := by
  obtain ⟨d, verdict⟩ := Ending.verdict_of_complains b complains
  obtain ⟨h', _, parsed⟩ := parse_raises b r h scalars serves.named
    ((Host.verdict_of_awaited serves.awaited).trans verdict)
  have shown : reportedText r .parse (.library d) =
      text "GLSL Parse Error: " ++ d ++ text "\n\nNormalized source:\n" ++ r.prepared := by
    rw [reportedText, glsl]
  refine ⟨d, ?_⟩
  rw [convert_of_course (.parseRaises parsed), ← shown]
  rfl

end CrossShader.Naga
