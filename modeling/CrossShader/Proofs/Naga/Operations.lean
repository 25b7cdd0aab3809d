import CrossShader.Proofs.Naga.Plan
import CrossShader.Proofs.Text.Decoding
import CrossShader.Proofs.Text.Digits
import CrossShader.Proofs.Text.Encodable
import CrossShader.Proofs.Text.Renaming

/-!
The operations of the compiler, ending by ending. A source without an encoding is refused before
any run, and so is a text of the caller that the launcher cannot hand over. Else a single run is
started, and the way it ends decides what the operation gives, unless its end cannot be waited for.
A file beside a failing status is not read, and whatever bytes a failed run has written, the
complaint says something.
-/
namespace CrossShader.Naga
open Text

/-- A text that a complaint can carry as it is. -/
structure Legible (d : Text) : Prop where
  nonempty : d ≠ []
  tight : strip d = d
  scalars : Encodable d
  unified : 13 ∉ d

namespace Exit

/-- What a run says of its failure: the first of three texts that says anything. -/
inductive Tells (e : Exit) : Text → Prop where
  | errors (spoken : ¬ Blank (streamText e.stderr)) : Tells e (strip (streamText e.stderr))
  | output (silent : Blank (streamText e.stderr)) (spoken : ¬ Blank (streamText e.stdout)) :
      Tells e (strip (streamText e.stdout))
  | status (silent : Blank (streamText e.stderr)) (silent' : Blank (streamText e.stdout)) :
      Tells e (text "naga exited with status " ++ ofInt e.code)

theorem tells_diagnostic (e : Exit) : e.Tells e.diagnostic := by
  have speaks (t : Text) : (!(strip t).isEmpty) = true ↔ ¬ Blank t := by
    rw [Bool.not_eq_true', ← Bool.not_eq_true, List.isEmpty_iff, strip_eq_nil_iff]
  simp only [diagnostic, speaks]
  split
  case isTrue spoken => exact .errors spoken
  case isFalse silent =>
    split
    case isTrue spoken => exact .output (not_not.mp silent) spoken
    case isFalse silent' => exact .status (not_not.mp silent) (not_not.mp silent')

theorem legible_stream {bytes : Bytes} (spoken : ¬ Blank (streamText bytes)) :
    Legible (strip (streamText bytes)) where
  nonempty := mt strip_eq_nil_iff.mp spoken
  tight := strip_of_isTight (isTight_strip _)
  scalars := encodable_strip (encodable_unifyLineEnds (Utf8.encodable_decodeLossy bytes))
  unified inside := return_not_mem_unifyLineEnds _ ((strip_isInfix _).mem inside)

theorem numerals_are_plain :
    ∀ k < 13, isBlank (45 + k) = false ∧ isScalar (45 + k) = true ∧ 13 ≠ 45 + k := by decide

theorem legible_status (code : Int) :
    Legible (text "naga exited with status " ++ ofInt code) := by
  have plain {c : CodePoint} (member : c ∈ ofInt code) :
      isBlank c = false ∧ isScalar c = true ∧ 13 ≠ c := by
    obtain ⟨low, high⟩ := plain_of_mem_ofInt member
    have checked := numerals_are_plain (c - 45) (Nat.sub_lt_sub_right low (Nat.lt_succ_of_le high))
    rwa [Nat.add_sub_cancel' low] at checked
  constructor
  · exact List.append_ne_nil_of_right_ne_nil _ (ofInt_ne_nil code)
  · refine strip_of_isTight ⟨?_, ?_⟩
    · intro c first
      obtain rfl : 110 = c := Option.some.inj first
      decide
    · intro c last
      rw [List.getLast?_append_of_ne_nil _ (ofInt_ne_nil code)] at last
      exact (plain (List.mem_of_getLast? last)).1
  · exact encodable_append.mpr ⟨encodable_text _, fun c member => (plain member).2.1⟩
  · intro inside
    rcases List.mem_append.mp inside with worded | numeral
    · exact absurd worded (by decide)
    · exact (plain numeral).2.2 rfl

theorem Tells.legible {e : Exit} {d : Text} (tells : e.Tells d) : Legible d := by
  cases tells with
  | errors spoken => exact legible_stream spoken
  | output _ spoken => exact legible_stream spoken
  | status _ _ => exact legible_status e.code

end Exit

/-- What is made of the output file of a run that ended well. -/
inductive Delivers : Option Bytes → Except Fault Text → Prop where
  | nothing {d} : Delivers none (.error (complaint d))
  | text {bytes t} (reads : Utf8.decode bytes = .ok t) :
      Delivers (some bytes) (.ok (unifyLineEnds t))
  | malformed {bytes e} (flawed : Utf8.decode bytes = .error e) :
      Delivers (some bytes) (.error (.ofCause (.decoding e)))

theorem delivers_outputText (suffix : Text) (output : Option Bytes) :
    Delivers output (outputText suffix output) := by
  cases output with
  | none => exact .nothing
  | some bytes =>
    rw [outputText]
    cases decoded : Utf8.decode bytes with
    | ok t => exact .text decoded
    | error e => exact .malformed decoded

inductive Expressible (pipeline : PipelineOptions) : Options → Prop where
  | hlsl : Expressible pipeline (.target .hlsl)
  | wgsl : Expressible pipeline (.target .wgsl)
  | msl : Expressible pipeline (.target .msl)
  | glsl {options} (single : pipeline.multiview = none)
      (zeroed : options.zeroInitializesWorkgroupMemory = true)
      (known : pipeline.stage ∈ Stage.all.map (·.name)) :
      Expressible pipeline (.target (.glsl options))

theorem stageSuffix_known {stage : Text} (known : stage ∈ Stage.all.map (·.name)) :
    ∃ suffix, stageSuffix stage = .ok suffix := by
  obtain ⟨s, _, rfl⟩ := List.mem_map.mp known
  exact ⟨s.suffix, stageSuffix_name s⟩

theorem inputSuffix_known {p : Program} (known : p.stage ∈ Stage.all.map (·.name)) :
    ∃ suffix, p.inputSuffix = .ok suffix := by
  rw [Program.inputSuffix]
  split
  · exact ⟨_, rfl⟩
  · exact stageSuffix_known known

theorem Expressible.told {pipeline : PipelineOptions} {options : Options}
    (expressible : Expressible pipeline options) :
    ∃ flags ending, targetArguments pipeline options = .ok flags ∧
      outputSuffix pipeline options = .ok ending := by
  cases expressible with
  | glsl single zeroed known =>
    obtain ⟨ending, named⟩ := stageSuffix_known known
    rw [targetArguments, single, zeroed]
    exact ⟨_, ending, rfl, named⟩
  | _ => exact ⟨[], _, rfl, rfl⟩

def optionTexts (pipeline : PipelineOptions) : Options → List Text
  | .target (.glsl options) => options.profile :: pipeline.entryPoint.toList
  | _ => []

theorem isPlain_ofInt (n : Int) : IsPlain (ofInt n) := by
  intro c member
  obtain ⟨low, high⟩ := plain_of_mem_ofInt member
  exact ⟨Nat.lt_of_lt_of_le (by decide) low, Nat.lt_of_le_of_lt high (by decide)⟩

theorem targetArguments_cases {pipeline : PipelineOptions} {options : Options}
    {flags : List Text} (told : targetArguments pipeline options = .ok flags) :
    (flags = [] ∧ optionTexts pipeline options = []) ∨
      ∃ wishes, options = .target (.glsl wishes) ∧
        flags = [text "--profile", wishes.profile ++ ofInt wishes.version] ++
          match pipeline.entryPoint with
          | some name => if name.isEmpty then [] else [text "--entry-point", name]
          | none => [] := by
  unfold targetArguments at told
  split at told
  case h_1 wishes =>
    split at told
    · cases told
    · split at told
      · cases told
      · exact .inr ⟨wishes, rfl, (Except.ok.inj told).symm⟩
  case h_2 other =>
    refine .inl ⟨(Except.ok.inj told).symm, ?_⟩
    unfold optionTexts
    split
    · exact absurd rfl (other _)
    · rfl

theorem says_flags_iff {l : Launcher} {pipeline : PipelineOptions} {options : Options}
    {flags : List Text} (told : targetArguments pipeline options = .ok flags) :
    (∀ word ∈ flags, l.Says word) ↔ ∀ t ∈ optionTexts pipeline options, l.Says t := by
  rcases targetArguments_cases told with ⟨rfl, silent⟩ | ⟨wishes, rfl, rfl⟩
  · simp [silent]
  · have flag : l.Says (text "--profile") := l.says_of_isPlain (by decide)
    have flag' : l.Says (text "--entry-point") := l.says_of_isPlain (by decide)
    have numeral : l.Says (ofInt wishes.version) := l.says_of_isPlain (isPlain_ofInt _)
    have nothing : l.Says [] := l.says_of_isPlain (by decide)
    rw [optionTexts]
    -- An empty name is no flag, and every launcher can say it.
    cases pipeline.entryPoint with
    | none => simp [Launcher.says_append, flag, numeral]
    | some name => cases name <;> simp [Launcher.says_append, flag, flag', numeral, nothing]

theorem Settings.mem_callerTexts_sorted (b : Settings) (defines : List (Text × Text)) (t : Text) :
    t ∈ b.callerTexts (sortDefines defines) ↔ t ∈ b.callerTexts defines := by
  simp [callerTexts, sortDefines]

section
variable {α : Type}

/-- What an operation gives by the ending of its run, if a run that ends well gives what `returns`
says. -/
inductive Concludes (b : Settings) (l : Launcher) (returns : Exit → Except Fault α → Prop) :
    Ending → Except Fault α → Prop where
  | refused {launch d} (named : b.executable <:+: d)
      (told : (launch.error b.executable).message <:+: d) :
      Concludes b l returns (.refused launch) (.error (.ofConversion (.unavailable d)))
  | unawaited {ending cause} (launched : ∀ launch, ending ≠ .refused launch)
      (endless : ¬ l.Awaits b.timeout)
      (origin : (∃ m, cause = .value m) ∨ ∃ m, cause = .overflow m) :
      Concludes b l returns ending (.error (.ofCause cause))
  | timedOut {d} (awaits : l.Awaits b.timeout) :
      Concludes b l returns .timedOut (.error (complaint d))
  | failed {e d} (awaits : l.Awaits b.timeout) (status : e.code ≠ 0) (tells : e.Tells d) :
      Concludes b l returns (.exited e) (.error (complaint d))
  | ended {e answer} (awaits : l.Awaits b.timeout) (status : e.code = 0)
      (given : returns e answer) : Concludes b l returns (.exited e) answer

/-- Nothing is started over a source without an encoding or with a text that is not handed over, and
one run else. -/
structure Follows (b : Settings) (h : Host) (source : Text) (texts : List Text)
    (returns : Exit → Except Fault α → Prop) (answer : Except Fault α × Host) : Prop where
  unstarted : ¬ Encodable source → answer.2 = h ∧ ∃ d, answer.1 = .error (complaint d)
  unsaid : Encodable source → (∃ t ∈ texts, ¬ h.launcher.Says t) → answer.2.runs = h.runs ∧
    ∃ cause, answer.1 = .error (.ofCause cause) ∧
      ((∃ e, cause = .encoding e) ∨ cause = .value (text "embedded null byte"))
  started : Encodable source → (∀ t ∈ texts, h.launcher.Says t) →
    ∃ run, answer.2.runs = h.runs ++ [run] ∧
      run.command.head? = some b.executable ∧ run.input = some source ∧
      Concludes b h.launcher returns (h.foreseen 0) answer.1

theorem concludes_refused (b : Settings) (l : Launcher) (returns : Exit → Except Fault α → Prop)
    (launch : Launch) :
    Concludes b l returns (.refused launch) (.error (b.launchFault launch)) := by
  refine .refused ?_ ?_
  · exact ⟨text "cannot run '", text "': " ++ ((launch.error b.executable).message ++
      text ". Install it with: cargo install naga-cli"), by simp only [List.append_assoc]⟩
  · exact ⟨_, _, rfl⟩

theorem verdict_cases (b : Settings) (returns : Exit → Except Fault α → Prop) (h : Host) :
    (∃ e, h.foreseen 0 = .exited e ∧ e.code = 0 ∧ h.launcher.Awaits b.timeout ∧
        h.verdict b = .ok e) ∨
      ∃ fault, h.verdict b = .error fault ∧
        Concludes b h.launcher returns (h.foreseen 0) (.error fault) := by
  by_cases refused : ∃ launch, h.foreseen 0 = .refused launch
  · obtain ⟨launch, refused⟩ := refused
    rw [Host.verdict_of_refused refused, refused]
    exact .inr ⟨_, rfl, concludes_refused b _ _ launch⟩
  · have launched : ∀ launch, h.foreseen 0 ≠ .refused launch :=
      fun launch eq => refused ⟨launch, eq⟩
    cases fault : h.launcher.timeoutFault? b.timeout with
    | some cause =>
      have endless : ¬ h.launcher.Awaits b.timeout := by
        simp [← Launcher.timeoutFault?_eq_none_iff, fault]
      exact .inr ⟨_, Host.verdict_of_unawaited launched fault,
        .unawaited launched endless (Launcher.timeoutFault?_eq_some fault)⟩
    | none =>
      have awaits := Launcher.timeoutFault?_eq_none_iff.mp fault
      rw [Host.verdict_of_awaited fault]
      cases ending : h.foreseen 0 with
      | refused launch => exact absurd ending (launched launch)
      | timedOut => exact .inr ⟨_, rfl, .timedOut awaits⟩
      | exited e =>
        by_cases status : e.code = 0
        · exact .inl ⟨e, rfl, status, awaits, if_pos status⟩
        · exact .inr ⟨_, if_neg status, .failed awaits status e.tells_diagnostic⟩

theorem follows_checked (b : Settings) {p : Program} {suffix : Text} (extra : List Text)
    (output : Option Text) {texts : List Text} {h : Host} {returns : Exit → Except Fault α → Prop}
    {answer : Except Fault α × Host} (ended : p.inputSuffix = .ok suffix)
    (handed : h.launcher.commandFault? (b.runOf p suffix extra output).command = none ↔
      ∀ t ∈ texts, h.launcher.Says t)
    (hands : ∀ fault h', b.runChecked p extra output h = (.error fault, h') →
      answer = (.error fault, h'))
    (answers : ∀ e h', b.runChecked p extra output h = (.ok e, h') →
      answer.2.runs = h'.runs ∧ returns e answer.1) :
    Follows b h p.source texts returns answer := by
  constructor
  · intro flawed
    obtain ⟨d, refused⟩ := b.runChecked_not_started extra output h ended flawed
    rw [hands _ _ refused]
    exact ⟨rfl, d, rfl⟩
  · rintro scalars ⟨t, given, unsaid⟩
    cases refused : h.launcher.commandFault? (b.runOf p suffix extra output).command with
    | none => exact absurd (handed.mp refused t given) unsaid
    | some cause =>
      rw [hands _ _ (b.runChecked_refused extra output h ended scalars refused)]
      exact ⟨rfl, cause, rfl, Launcher.commandFault?_eq_some refused⟩
  · intro scalars each
    obtain ⟨h', ran, checked⟩ :=
      b.runChecked_ran extra output h ended scalars (handed.mpr each)
    refine ⟨b.runOf p suffix extra output, ?_⟩
    rcases verdict_cases b returns h with
      ⟨e, exited, status, awaits, passed⟩ | ⟨fault, raised, concludes⟩
    · rw [passed] at checked
      obtain ⟨runs, given⟩ := answers e h' checked
      exact ⟨runs.trans ran.runs, rfl, rfl, exited ▸ .ended awaits status given⟩
    · rw [raised] at checked
      rw [hands fault h' checked]
      exact ⟨ran.runs, rfl, rfl, concludes⟩

end

/-- Every operation over a program of a known stage gives what the ending of its one run says, if
the run is started and waited for. No bytes that a failed run writes make its complaint an empty or
a broken one. -/
theorem operations_follow_their_runs (b : Settings) (h : Host) :
    (∀ source dialect stage defines, stage ∈ Stage.all.map (·.name) →
      Follows b h source (b.callerTexts defines) (fun _ answer => ∃ m, answer = .ok m ∧
        m.program = ⟨source, dialect, stage, Settings.sortDefines defines⟩)
        (b.parse source dialect stage defines h)) ∧
    (∀ m, m.program.stage ∈ Stage.all.map (·.name) →
      Follows b h m.program.source (b.callerTexts m.program.defines)
        (fun e answer => answer = .ok ⟨m, strip (streamText e.stdout)⟩) (b.validate m h)) ∧
    (∀ m info options pipeline, m.program.stage ∈ Stage.all.map (·.name) →
      info.module.number = m.number → Expressible pipeline options →
      Follows b h m.program.source
        (b.callerTexts m.program.defines ++ optionTexts pipeline options)
        (fun e answer => Delivers e.output answer) (b.generate m info options pipeline h)) ∧
    ∀ (e : Exit) d, e.Tells d → Legible d := by
  refine ⟨?_, ?_, ?_, fun e d tells => tells.legible⟩
  · intro source dialect stage defines known
    obtain ⟨suffix, ended⟩ :=
      inputSuffix_known (p := ⟨source, dialect, stage, Settings.sortDefines defines⟩) known
    refine follows_checked b [text "--validate", text "0"] none ended ?_ ?_ ?_
    · have flag := h.launcher.says_of_isPlain (t := text "--validate") (by decide)
      have level := h.launcher.says_of_isPlain (t := text "0") (by decide)
      rw [b.handed_runOf_iff ended _ none nofun]
      simp [flag, level, b.mem_callerTexts_sorted]
    · intro fault h' refused
      simp only [Settings.parse, refused]
    · intro e h' checked
      simp only [Settings.parse, checked]
      exact ⟨rfl, _, rfl, rfl⟩
  · intro m known
    obtain ⟨suffix, ended⟩ := inputSuffix_known known
    refine follows_checked b [] none ended ?_ ?_ ?_
    · rw [b.handed_runOf_iff ended _ none nofun]
      simp
    · intro fault h' refused
      simp only [Settings.validate, refused]
    · intro e h' checked
      simp only [Settings.validate, checked, and_self]
  · intro m info options pipeline known own expressible
    obtain ⟨suffix, ended⟩ := inputSuffix_known known
    obtain ⟨flags, ending, told, named⟩ := expressible.told
    have past : ¬ info.module.number ≠ m.number := not_not_intro own
    have plain : ∀ s ∈ some ending, IsPlain s := by
      simpa using isPlain_outputSuffix named
    refine follows_checked b flags (some ending) ended ?_ ?_ ?_
    · rw [b.handed_runOf_iff ended _ _ plain, says_flags_iff told, ← List.forall_mem_append]
    · intro fault h' refused
      simp only [Settings.generate, if_neg past, told, named, refused]
    · intro e h' checked
      simp only [Settings.generate, if_neg past, told, named, checked]
      exact ⟨trivial, delivers_outputText ending e.output⟩

/-- A run that is killed after it wrote a file and a flawed line, with a silent error stream. -/
theorem killed_run_is_told_by_its_output :
    let m : Module := ⟨0, ⟨text "void main() \x7b\x7d", text "glsl", text "fragment", []⟩⟩
    let b : Settings := ⟨text "naga", .ofInt 30⟩
    let h := Host.openingOn .posix
      [.exited ⟨-9, [98, 97, 100, 255, 13, 10], [32, 10], some [111, 107]⟩]
    let generated := b.generate m ⟨m, []⟩ (.target (.glsl TargetOptions.desktopGlsl))
      (.ofDialect (text "fragment") .glsl) h
    generated.1 = .error (complaint (text "bad" ++ [0xFFFD])) ∧
      ∃ run, generated.2.runs = [run] ∧ run.input = some m.program.source := by
  intro m b h generated
  obtain ⟨_, _, generates, _⟩ := operations_follow_their_runs b h
  have follows := generates m ⟨m, []⟩ (.target (.glsl TargetOptions.desktopGlsl))
    (.ofDialect (text "fragment") .glsl) (by decide) rfl (.glsl rfl rfl (by decide))
  obtain ⟨run, runs, _, input, concludes⟩ := follows.started (by decide)
    (Launcher.commandFault?_eq_none_iff.mp (by decide))
  refine ⟨?_, run, runs, input⟩
  have errors : Blank (streamText [32, 10]) := by decide +kernel
  have output : strip (streamText [98, 97, 100, 255, 13, 10]) = text "bad" ++ [0xFFFD] := by
    decide +kernel
  generalize generated.1 = answer at concludes ⊢
  cases concludes with
  | unawaited _ endless =>
    exact absurd (Launcher.timeoutFault?_eq_none_iff.mp (by decide)) endless
  | ended _ status _ => exact absurd status (by decide)
  | failed _ _ tells =>
    cases tells with
    | errors spoken => exact absurd errors spoken
    | output _ _ => rw [← output]
    | status _ silent => exact absurd silent (by decide +kernel)

/-- A null character in a definition keeps the run from being started, and no wait is long enough to
be endless. Neither is told as a failure of the compiler, and nor is a file that is no UTF-8. -/
theorem faults_of_other_kinds_are_raised :
    let b : Settings := ⟨text "naga", .ofInt 30⟩
    let m : Module := ⟨0, ⟨text "x", text "wgsl", text "fragment", []⟩⟩
    let host := fun output => Host.openingOn .posix [.exited ⟨0, [], [], output⟩]
    let defined := b.parse (text "x") (text "glsl") (text "fragment")
      [(text "A", [120, 0, 121])] (host none)
    let endless := Settings.validate ⟨text "naga", .infinite false⟩ m (host none)
    let written := b.generate m ⟨m, []⟩ (.target .hlsl) (.ofStage (text "fragment"))
      (host (some [0xFF]))
    ¬ ((∃ run, defined.2.runs = [run]) ∨ ∃ c, defined.1 = .error (.ofConversion c)) ∧
      ¬ ((∃ info, endless.1 = .ok info) ∨ ∃ c, endless.1 = .error (.ofConversion c)) ∧
      ¬ ((∃ t, written.1 = .ok t) ∨ ∃ c, written.1 = .error (.ofConversion c)) := by
  intro b m host defined endless written
  have unsaid : defined.1 = .error (.ofCause (.value (text "embedded null byte"))) ∧
      defined.2.runs = [] := by decide +kernel
  have unawaited : endless.1 =
      .error (.ofCause (.overflow (text "cannot convert float infinity to integer"))) := by
    decide
  have malformed : written.1 = .error (.ofCause (.decoding ⟨.badStart, 0xFF, 0, 1⟩)) := by
    decide +kernel
  rw [unsaid.1, unsaid.2, unawaited, malformed]
  simp [Fault.ofConversion, Fault.ofCause, Cause.value, Cause.overflow]

end CrossShader.Naga
