import CrossShader.Naga.Binding
import CrossShader.Proofs.Naga.Launcher
import CrossShader.Proofs.Text.Encodable

/-!
Single runs of the compiler. A run over a program takes the next foreseen ending, is recorded as it
was started and answers with what is heard of the ending. A program without an encoding starts none,
and neither does a command that the launcher cannot hand over.
-/
namespace CrossShader.Naga

def Host.foreseen (h : Host) (n : Nat) : Ending := h.endings.getD n (.exited .quiet)

/-- The host after exactly these further runs. -/
structure Host.Ran (h : Host) (started : List Run) (h' : Host) : Prop where
  endings : h'.endings = h.endings.drop started.length
  runs : h'.runs = h.runs ++ started
  launcher : h'.launcher = h.launcher

namespace Host
variable {h h₁ h₂ : Host} {first second : List Run}

theorem Ran.refl (h : Host) : h.Ran [] h := ⟨rfl, (List.append_nil h.runs).symm, rfl⟩

theorem Ran.trans (ran₁ : h.Ran first h₁) (ran₂ : h₁.Ran second h₂) :
    h.Ran (first ++ second) h₂ := by
  constructor
  · rw [ran₂.endings, ran₁.endings, List.drop_drop, List.length_append]
  · rw [ran₂.runs, ran₁.runs, List.append_assoc]
  · rw [ran₂.launcher, ran₁.launcher]

theorem Ran.note (ran : h.Ran first h₁) (e : LogEntry) : h.Ran first (h₁.note e) :=
  ⟨ran.endings, ran.runs, ran.launcher⟩

theorem Ran.of_note {e : LogEntry} (ran : (h.note e).Ran first h₁) : h.Ran first h₁ :=
  ⟨ran.endings, ran.runs, ran.launcher⟩

theorem foreseen_note (e : LogEntry) (h : Host) (n : Nat) :
    (h.note e).foreseen n = h.foreseen n := rfl

@[simp] theorem note_launcher (e : LogEntry) (h : Host) : (h.note e).launcher = h.launcher := rfl

theorem Ran.foreseen (ran : h.Ran first h₁) (n : Nat) :
    h₁.foreseen n = h.foreseen (first.length + n) := by
  rw [Host.foreseen, Host.foreseen, ran.endings, List.getD_eq_getElem?_getD,
    List.getD_eq_getElem?_getD, List.getElem?_drop]

theorem take_ran (run : Run) (h : Host) :
    (h.take run).1 = h.foreseen 0 ∧ h.Ran [run] (h.take run).2 := by
  rw [take, Host.foreseen]
  cases endings : h.endings with
  | nil => exact ⟨rfl, ⟨by simp [endings], rfl, rfl⟩⟩
  | cons ending rest => exact ⟨rfl, ⟨by simp [endings], rfl, rfl⟩⟩

theorem launch_ran (run : Run) (h : Host) (handed : h.launcher.commandFault? run.command = none) :
    ∃ h', h.Ran [run] h' ∧ h.launch run = (h.launcher.hear run.timeout (h.foreseen 0), h') := by
  obtain ⟨ending, ran⟩ := take_ran run h
  refine ⟨_, ran, ?_⟩
  rw [launch, handed, ← ending, ← ran.launcher]

end Host

namespace Ending

/-- The run came to its end and reported no failure. -/
def clean : Ending → Bool
  | exited e => e.code == 0
  | _ => false

def file? : Ending → Option Bytes
  | exited e => e.output
  | _ => none

def reply (b : Settings) : Ending → Except Fault Exit
  | exited e => .ok e
  | timedOut => .error b.timeoutFault
  | refused launch => .error (b.launchFault launch)

def verdict (b : Settings) (ending : Ending) : Except Fault Exit :=
  match ending.reply b with
  | .error fault => .error fault
  | .ok e => if e.code = 0 then .ok e else .error (complaint e.diagnostic)

theorem verdict_of_clean (b : Settings) {ending : Ending} (clean : ending.clean = true) :
    ∃ e, ending = .exited e ∧ ending.verdict b = .ok e := by
  cases ending with
  | exited e => exact ⟨e, rfl, if_pos (by simpa [Ending.clean] using clean)⟩
  | _ => simp [Ending.clean] at clean

theorem verdict_of_not_clean (b : Settings) {ending : Ending} (failed : ending.clean = false) :
    ∃ c, ending.verdict b = .error (.ofConversion c) := by
  cases ending with
  | exited e => exact ⟨_, if_neg (by simpa [Ending.clean] using failed)⟩
  | timedOut => exact ⟨_, rfl⟩
  | refused launch => exact ⟨_, rfl⟩

/-- The run was cut off, or it ended by itself with a failure. -/
def Complains (ending : Ending) : Prop :=
  ending = .timedOut ∨ ∃ e, ending = .exited e ∧ e.code ≠ 0

theorem verdict_of_complains (b : Settings) {ending : Ending} (complains : ending.Complains) :
    ∃ d, ending.verdict b = .error (complaint d) := by
  rcases complains with rfl | ⟨e, rfl, failed⟩
  · exact ⟨_, rfl⟩
  · exact ⟨_, if_neg failed⟩

end Ending

namespace Host

def reply (b : Settings) (h : Host) : Except Fault Exit :=
  match h.launcher.hear b.timeout (h.foreseen 0) with
  | .ok ending => ending.reply b
  | .error cause => .error (.ofCause cause)

def verdict (b : Settings) (h : Host) : Except Fault Exit :=
  match h.launcher.hear b.timeout (h.foreseen 0) with
  | .ok ending => ending.verdict b
  | .error cause => .error (.ofCause cause)

section
variable {b : Settings} {h : Host}

theorem verdict_of_awaited (awaited : h.launcher.timeoutFault? b.timeout = none) :
    h.verdict b = (h.foreseen 0).verdict b := by
  rw [verdict]
  cases h.foreseen 0 <;> simp only [Launcher.hear, awaited]

theorem verdict_of_refused {launch : Launch} (refused : h.foreseen 0 = .refused launch) :
    h.verdict b = .error (b.launchFault launch) := by
  rw [verdict, refused]
  rfl

theorem verdict_of_unawaited {cause : Cause} (launched : ∀ launch, h.foreseen 0 ≠ .refused launch)
    (fault : h.launcher.timeoutFault? b.timeout = some cause) :
    h.verdict b = .error (.ofCause cause) := by
  rw [verdict]
  cases ending : h.foreseen 0 with
  | refused launch => exact absurd ending (launched launch)
  | _ => simp only [Launcher.hear, fault]

theorem verdict_eq_ok {e : Exit} (passed : h.verdict b = .ok e) :
    h.launcher.timeoutFault? b.timeout = none ∧ h.foreseen 0 = .exited e ∧ e.code = 0 := by
  cases awaited : h.launcher.timeoutFault? b.timeout with
  | none =>
    rw [verdict_of_awaited awaited] at passed
    cases clean : (h.foreseen 0).clean with
    | false =>
      obtain ⟨c, failed⟩ := Ending.verdict_of_not_clean b clean
      simp [failed] at passed
    | true =>
      obtain ⟨e', exited, same⟩ := Ending.verdict_of_clean b clean
      rw [same, Except.ok.injEq] at passed
      rw [exited, ← passed]
      rw [exited] at clean
      exact ⟨rfl, rfl, by simpa [Ending.clean] using clean⟩
  | some cause =>
    by_cases refused : ∃ launch, h.foreseen 0 = .refused launch
    · obtain ⟨launch, refused⟩ := refused
      simp [verdict_of_refused refused] at passed
    · simp [verdict_of_unawaited (fun launch eq => refused ⟨launch, eq⟩) awaited] at passed

end
end Host

/-- The compiler can be started and its runs can be waited for. -/
structure Host.Serves (h : Host) (b : Settings) : Prop where
  named : h.launcher.commandFault? [b.executable] = none
  awaited : h.launcher.timeoutFault? b.timeout = none

theorem Host.Ran.serves {h h' : Host} {started : List Run} {b : Settings}
    (ran : h.Ran started h') (serves : h.Serves b) : h'.Serves b :=
  ⟨ran.launcher ▸ serves.named, ran.launcher ▸ serves.awaited⟩

theorem isPlain_suffix (stage : Stage) : IsPlain stage.suffix := by
  cases stage <;> decide

theorem isPlain_stageSuffix {stage suffix : Text} (named : stageSuffix stage = .ok suffix) :
    IsPlain suffix := by
  rw [stageSuffix] at named
  split at named
  · exact Except.ok.inj named ▸ isPlain_suffix _
  · simp at named

theorem isPlain_inputSuffix {p : Program} {suffix : Text} (ended : p.inputSuffix = .ok suffix) :
    IsPlain suffix := by
  rw [Program.inputSuffix] at ended
  split at ended
  · exact Except.ok.inj ended ▸ (by decide)
  · exact isPlain_stageSuffix ended

theorem isPlain_outputSuffix {pipeline : PipelineOptions} {options : Options} {suffix : Text}
    (named : outputSuffix pipeline options = .ok suffix) : IsPlain suffix := by
  rw [outputSuffix.eq_def] at named
  split at named
  case h_4 => exact isPlain_stageSuffix named
  case h_5 => simp at named
  all_goals exact Except.ok.inj named ▸ (by decide)

namespace Settings

def runOf (b : Settings) (p : Program) (suffix : Text) (extra : List Text) (output : Option Text) :
    Run :=
  ⟨b.executable :: (p.arguments suffix ++ extra ++ (directory ++ text "/shader." ++ suffix) ::
      (output.map fun s => directory ++ text "/out." ++ s).toList),
    b.timeout, some p.source⟩

variable {p : Program} {suffix : Text}

theorem start_refused (b : Settings) (arguments : List Text) (input : Option Text) (h : Host)
    {cause : Cause} (refused : h.launcher.commandFault? (b.executable :: arguments) = some cause) :
    b.start arguments input h =
      (.error (.ofCause cause), h.note (runEntry (b.executable :: arguments))) := by
  rw [start, Host.launch]
  simp only [Host.note, refused]

theorem start_ran (b : Settings) (arguments : List Text) (input : Option Text) (h : Host)
    (handed : h.launcher.commandFault? (b.executable :: arguments) = none) :
    ∃ h', h.Ran [⟨b.executable :: arguments, b.timeout, input⟩] h' ∧
      b.start arguments input h = (h.reply b, h') := by
  obtain ⟨h', ran, launched⟩ := Host.launch_ran ⟨b.executable :: arguments, b.timeout, input⟩
    (h.note (runEntry (b.executable :: arguments))) handed
  refine ⟨h', ran.of_note, ?_⟩
  rw [start, launched, Host.foreseen_note, Host.note_launcher, Host.reply]
  cases h.launcher.hear b.timeout (h.foreseen 0) with
  | error cause => rfl
  | ok ending => cases ending <;> rfl

def callerTexts (b : Settings) (defines : List (Text × Text)) : List Text :=
  b.executable :: defines.flatMap fun d => [d.1, d.2]

theorem says_defineArguments {l : Launcher} (defines : List (Text × Text)) :
    (∀ word ∈ Program.defineArguments defines, l.Says word) ↔
      ∀ t ∈ defines.flatMap fun d => [d.1, d.2], l.Says t := by
  induction defines with
  | nil => exact Iff.rfl
  | cons d defines ih =>
    have flag : l.Says (text "--defines") := l.says_of_isPlain (by decide)
    have sign : l.Says (text "=") := l.says_of_isPlain (by decide)
    rw [Program.defineArguments] at ih ⊢
    simp only [List.flatMap_cons, List.forall_mem_append, List.forall_mem_cons, ih,
      Launcher.says_append, flag, sign, true_and, and_true, and_assoc]

/-- Of the words of a run the launcher may refuse those that the caller has given and the flags. -/
theorem handed_runOf_iff {l : Launcher} (b : Settings) (ended : p.inputSuffix = .ok suffix)
    (extra : List Text) (output : Option Text) (plain : ∀ s ∈ output, IsPlain s) :
    l.commandFault? (b.runOf p suffix extra output).command = none ↔
      (∀ t ∈ b.callerTexts p.defines, l.Says t) ∧ ∀ word ∈ extra, l.Says word := by
  have ending := isPlain_inputSuffix ended
  have kind : ∀ word ∈ (if p.isWgsl then [text "--input-kind", text "wgsl"]
      else [text "--input-kind", text "glsl", text "--shader-stage", suffix]), l.Says word := by
    intro word member
    apply l.says_of_isPlain
    split at member
    · exact (show ∀ word ∈ [text "--input-kind", text "wgsl"], IsPlain word by decide) word member
    · simp only [List.mem_cons, List.not_mem_nil, or_false] at member
      rcases member with rfl | rfl | rfl | rfl
      · decide
      · decide
      · decide
      · exact ending
  have file : l.Says (directory ++ text "/shader." ++ suffix) :=
    l.says_of_isPlain (isPlain_append.mpr ⟨by decide, ending⟩)
  have written : ∀ word ∈ (output.map fun s => directory ++ text "/out." ++ s).toList,
      l.Says word := by
    intro word member
    obtain ⟨s, named, rfl⟩ := Option.map_eq_some_iff.mp (Option.mem_toList.mp member)
    exact l.says_of_isPlain (isPlain_append.mpr ⟨by decide, plain s named⟩)
  rw [Launcher.commandFault?_eq_none_iff, runOf, Program.arguments]
  simp only [List.forall_mem_cons, List.forall_mem_append, says_defineArguments, callerTexts]
  exact ⟨fun ⟨named, ⟨⟨_, defined⟩, flags⟩, _⟩ => ⟨⟨named, defined⟩, flags⟩,
    fun ⟨⟨named, defined⟩, flags⟩ => ⟨named, ⟨⟨kind, defined⟩, flags⟩, file, written⟩⟩

section
variable (b : Settings) (extra : List Text) (output : Option Text) (h : Host)
  (ended : p.inputSuffix = .ok suffix)
include ended

theorem runChecked_started (scalars : Encodable p.source) :
    b.runChecked p extra output h =
      match b.start (b.runOf p suffix extra output).command.tail (some p.source) h with
      | (.error fault, h) => (.error fault, h)
      | (.ok e, h) => if e.code = 0 then (.ok e, h) else (.error (complaint e.diagnostic), h) := by
  rw [runChecked, ended]
  dsimp only
  rw [runOver, Utf8.encode_of_encodable scalars]
  rfl

theorem runChecked_ran (scalars : Encodable p.source)
    (handed : h.launcher.commandFault? (b.runOf p suffix extra output).command = none) :
    ∃ h', h.Ran [b.runOf p suffix extra output] h' ∧
      b.runChecked p extra output h = (h.verdict b, h') := by
  obtain ⟨h', ran, started⟩ := b.start_ran (b.runOf p suffix extra output).command.tail
    (some p.source) h handed
  refine ⟨h', ran, ?_⟩
  rw [b.runChecked_started extra output h ended scalars, started, Host.reply, Host.verdict]
  cases h.launcher.hear b.timeout (h.foreseen 0) with
  | error cause => rfl
  | ok ending =>
    dsimp only
    rw [Ending.verdict]
    cases ending.reply b with
    | error fault => rfl
    | ok e =>
      dsimp only
      split <;> rfl

/-- A command that cannot be handed over leaves its line in the log and nothing else. -/
theorem runChecked_refused (scalars : Encodable p.source) {cause : Cause}
    (refused : h.launcher.commandFault? (b.runOf p suffix extra output).command = some cause) :
    b.runChecked p extra output h = (.error (.ofCause cause),
      h.note (runEntry (b.runOf p suffix extra output).command)) := by
  have started := b.start_refused (b.runOf p suffix extra output).command.tail
    (some p.source) h refused
  rw [b.runChecked_started extra output h ended scalars, started]
  rfl

theorem runChecked_not_started (flawed : ¬ Encodable p.source) :
    ∃ d, b.runChecked p extra output h = (.error (complaint d), h) := by
  obtain ⟨e, eq⟩ := Utf8.encode_of_not_encodable flawed
  refine ⟨text "source is not encodable as UTF-8: " ++ e.message, ?_⟩
  rw [runChecked, ended]
  dsimp only
  rw [runOver, eq]

end

end Settings
end CrossShader.Naga
