import CrossShader.Proofs.CommandLine.Orders
import CrossShader.Proofs.CommandLine.Reports
import CrossShader.Proofs.Naga.Pipeline
import CrossShader.Proofs.Text.Decoding

/-!
Conversions from the command line, apart from what becomes of their outputs. One stops at the first
of the settings, the executable and the source that is not as it should be and starts no run then;
else it comes to what the conversion of the source answers.
-/
namespace CrossShader.CommandLine
open Text Naga

/-- The variable is set, and not to a positive number of seconds. -/
def MalformedTimeout (env : Environment) : Prop :=
  ∃ raw, env.get? Environment.nagaTimeout = some raw ∧
    ∀ seconds, Numeral.readBinary64? raw = some seconds → seconds.isPositive = false

def ConvertOrder.request (order : ConvertOrder) (code : Text) : Request :=
  ⟨code, order.source, order.target, order.stage⟩

/-- What a conversion comes to before it is reported. -/
inductive Conclusion where
  | faulted (f : Fault)
  | unequipped (executable : Text)
  | answered (o : Outcome)
  deriving DecidableEq, Repr

/-- How far a conversion gets, and the host that it leaves. -/
inductive Reaches (w : World) (order : ConvertOrder) : Conclusion → Host → Prop where
  | misconfigured {f} (refused : settingsFor order.naga w.env = .error f) :
      Reaches w order (.faulted f) w.host
  | unequipped {b} (configured : settingsFor order.naga w.env = .ok b)
      (absent : b.executable ∉ w.tools) :
      Reaches w order (.unequipped b.executable) w.host
  | unread {b cause} (configured : settingsFor order.naga w.env = .ok b)
      (equipped : b.executable ∈ w.tools)
      (unread : w.files.readText order.file = .error cause) :
      Reaches w order (.faulted (.ofCause cause)) w.host
  | broken {b code cause host} (configured : settingsFor order.naga w.env = .ok b)
      (equipped : b.executable ∈ w.tools)
      (read : w.files.readText order.file = .ok code)
      (breaks : Breaks b (order.request code) w.host cause)
      (broke : Conversion.convert b.library (order.request code) w.host =
        (.error (.ofCause cause), host)) :
      Reaches w order (.faulted (.ofCause cause)) host
  | answered {b code o host} (configured : settingsFor order.naga w.env = .ok b)
      (equipped : b.executable ∈ w.tools)
      (read : w.files.readText order.file = .ok code)
      (answer : Conversion.convert b.library (order.request code) w.host = (.ok o, host)) :
      Reaches w order (.answered o) host

def Converts (w : World) (order : ConvertOrder) (output : Text) (host : Host) : Prop :=
  ∃ b code, settingsFor order.naga w.env = .ok b ∧ b.executable ∈ w.tools ∧
    w.files.readText order.file = .ok code ∧
    Conversion.convert b.library (order.request code) w.host = (.ok (.converted output), host)

/-- The settings, the executable or the source do not allow the first run. -/
def Unfit (w : World) (order : ConvertOrder) : Prop :=
  MalformedTimeout w.env ∨
    (∃ b, settingsFor order.naga w.env = .ok b ∧ b.executable ∉ w.tools) ∨
    ∃ cause, w.files.readText order.file = .error cause

def Conclusion.report (debug : Bool) (order : ConvertOrder) (r : Report) : Conclusion → Report
  | faulted f => r.fail debug f
  | unequipped executable => r.misuse (.ofError (.missingTool executable))
  | answered o => finish debug order (.ok o) r

section
variable {naga : Option Text} {env : Environment} {f : Fault}

theorem settingsFor_error (refused : settingsFor naga env = .error f) :
    MalformedTimeout env ∧ f.status = none := by
  rw [settingsFor, Settings.ofEnvironment, Settings.timeoutOf.eq_def] at refused
  cases given : env.get? Environment.nagaTimeout with
  | none =>
    rw [given] at refused
    cases naga <;> simp [bind, Except.bind] at refused
  | some raw =>
    rw [given] at refused
    dsimp only at refused
    cases read : Numeral.readBinary64? raw with
    | none =>
      rw [read] at refused
      obtain rfl := Except.error.inj refused
      exact ⟨⟨raw, given, by simp [read]⟩, rfl⟩
    | some seconds =>
      rw [read] at refused
      dsimp only at refused
      split at refused
      case isTrue => cases naga <;> simp [bind, Except.bind] at refused
      case isFalse negative =>
        obtain rfl := Except.error.inj refused
        refine ⟨⟨raw, given, fun n eq => ?_⟩, rfl⟩
        rw [read, Option.some.injEq] at eq
        simpa [eq] using negative

theorem settingsFor_malformed (naga : Option Text) (malformed : MalformedTimeout env) :
    ∃ f, settingsFor naga env = .error f := by
  obtain ⟨raw, given, negative⟩ := malformed
  refine ⟨Settings.timeoutRefusal raw, ?_⟩
  have refused : Settings.timeoutOf (some raw) = .error (Settings.timeoutRefusal raw) := by
    rw [Settings.timeoutOf]
    cases read : Numeral.readBinary64? raw with
    | none => rfl
    | some seconds => simp [negative seconds read]
  rw [settingsFor, Settings.ofEnvironment, given, refused]
  rfl

end

section
variable {w : World} {order : ConvertOrder} {c : Conclusion} {host : Host}

theorem reaches_exists (w : World) (order : ConvertOrder) : ∃ c host, Reaches w order c host := by
  cases configured : settingsFor order.naga w.env with
  | error f => exact ⟨_, _, .misconfigured configured⟩
  | ok b =>
    by_cases equipped : b.executable ∈ w.tools
    · cases read : w.files.readText order.file with
      | error cause => exact ⟨_, _, .unread configured equipped read⟩
      | ok code =>
        by_cases broken : ∃ cause, Breaks b (order.request code) w.host cause
        · obtain ⟨cause, breaks⟩ := broken
          exact ⟨_, _, .broken configured equipped read breaks
            (Prod.ext (convert_of_breaks breaks) rfl)⟩
        · obtain ⟨halt, ends, answered, _⟩ := conversion_ends b (order.request code) w.host
          obtain ⟨o, answer⟩ := answers_unless_breaks ends (not_exists.mp broken)
          exact ⟨_, _, .answered configured equipped read (Prod.ext (answered.trans answer) rfl)⟩
    · exact ⟨_, _, .unequipped configured equipped⟩

theorem Converts.reaches {output : Text} (converts : Converts w order output host) :
    Reaches w order (.answered (.converted output)) host := by
  obtain ⟨b, code, configured, equipped, read, answer⟩ := converts
  exact .answered configured equipped read answer

theorem converts_of_reaches {output : Text}
    (reaches : Reaches w order (.answered (.converted output)) host) :
    Converts w order output host := by
  cases reaches with
  | answered configured equipped read answer => exact ⟨_, _, configured, equipped, read, answer⟩

theorem Reaches.unmarked {f : Fault} (reaches : Reaches w order (.faulted f) host) :
    f.status = none := by
  cases reaches with
  | misconfigured refused => exact (settingsFor_error refused).2
  | unread => rfl
  | broken => rfl

theorem not_unfit {b : Settings} {code : Text}
    (configured : settingsFor order.naga w.env = .ok b) (equipped : b.executable ∈ w.tools)
    (read : w.files.readText order.file = .ok code) : ¬ Unfit w order := by
  rintro (malformed | ⟨_, same, absent⟩ | ⟨cause, unread⟩)
  · obtain ⟨f, refused⟩ := settingsFor_malformed order.naga malformed
    simp [configured] at refused
  · rw [configured] at same
    obtain rfl := Except.ok.inj same
    exact absent equipped
  · simp [read] at unread

theorem not_converts_of_unfit (unfit : Unfit w order) (output : Text) (host : Host) :
    ¬ Converts w order output host := by
  rintro ⟨b, code, configured, equipped, read, _⟩
  exact not_unfit configured equipped read unfit

theorem Reaches.unstarted (reaches : Reaches w order c host) (unfit : Unfit w order) :
    host = w.host := by
  cases reaches with
  | broken configured equipped read => exact absurd unfit (not_unfit configured equipped read)
  | answered configured equipped read => exact absurd unfit (not_unfit configured equipped read)
  | _ => rfl

theorem Reaches.fit (reaches : Reaches w order c host) (started : host.runs ≠ w.host.runs) :
    ∃ b code, settingsFor order.naga w.env = .ok b ∧ b.executable ∈ w.tools ∧
      w.files.readText order.file = .ok code ∧
      conversionRuns b (order.request code) w.host ≠ [] := by
  have ran {b : Settings} {code : Text} {answer : Except Fault Outcome}
      (converted : Conversion.convert b.library (order.request code) w.host = (answer, host)) :
      conversionRuns b (order.request code) w.host ≠ [] := by
    intro none_started
    obtain ⟨_, _, _, runs⟩ := conversion_ends b (order.request code) w.host
    rw [converted, none_started, List.append_nil] at runs
    exact started runs
  cases reaches with
  | broken configured equipped read _ broke =>
    exact ⟨_, _, configured, equipped, read, ran broke⟩
  | answered configured equipped read answer =>
    exact ⟨_, _, configured, equipped, read, ran answer⟩
  | _ => exact absurd rfl started

theorem Reaches.unconverted (reaches : Reaches w order c host)
    (fails : ∀ output host, ¬ Converts w order output host) (output : Text) :
    c ≠ .answered (.converted output) := by
  rintro rfl
  exact fails output host (converts_of_reaches reaches)

end

def Report.after (log : Text) (host : Host) (r : Report) : Report :=
  { r with stderr := r.stderr ++ log, host := host }

theorem after_nothing {r : Report} {host : Host} (same : r.host = host) : r.after [] host = r := by
  rw [Report.after, List.append_nil, ← same]

theorem adopt_eq_after (debug : Bool) (host : Host) (r : Report) :
    ∃ log, r.adopt debug host = r.after log host := by
  cases debug with
  | false => exact ⟨[], by rw [Report.after, List.append_nil]; rfl⟩
  | true => exact ⟨_, rfl⟩

section
variable {w : World} {order : ConvertOrder} {c : Conclusion} {host : Host} {r : Report}

theorem runConvert_of_reaches (debug : Bool) (reaches : Reaches w order c host)
    (files : r.files = w.files) (start : r.host = w.host) :
    ∃ log, runConvert debug order w r = c.report debug order (r.after log host) := by
  cases reaches with
  | misconfigured refused =>
    refine ⟨[], ?_⟩
    rw [runConvert, refused, after_nothing start]
    rfl
  | unequipped configured absent =>
    refine ⟨[], ?_⟩
    rw [runConvert, configured, after_nothing start]
    exact if_pos (by simpa using absent)
  | unread configured equipped unread =>
    refine ⟨[], ?_⟩
    rw [runConvert, configured, after_nothing start]
    dsimp only
    rw [if_neg (by simpa using equipped), files, unread]
    rfl
  | broken configured equipped read breaks broke =>
    obtain ⟨log, adopted⟩ := adopt_eq_after debug host r
    refine ⟨log, ?_⟩
    rw [runConvert, configured]
    dsimp only
    rw [if_neg (by simpa using equipped), files, read, start]
    dsimp only
    rw [← ConvertOrder.request, broke, ← adopted]
    exact if_pos breaks.isOrdinary
  | answered configured equipped read answer =>
    obtain ⟨log, adopted⟩ := adopt_eq_after debug host r
    refine ⟨log, ?_⟩
    rw [runConvert, configured]
    dsimp only
    rw [if_neg (by simpa using equipped), files, read, start]
    dsimp only
    rw [← ConvertOrder.request, answer, ← adopted]
    rfl

theorem perform_of_reaches {i : Invocation} (asked : i.command.order? = some order)
    (reaches : Reaches w order c host) :
    ∃ log, perform i w = c.report i.debug order ((Report.opening w).after log host) := by
  obtain ⟨debug, command⟩ := i
  cases command with
  | convert =>
    obtain rfl := Option.some.inj asked
    obtain ⟨log, reported⟩ := runConvert_of_reaches debug reaches (r := .opening w) rfl rfl
    exact ⟨_, reported⟩
  | legacy =>
    obtain rfl := Option.some.inj asked
    obtain ⟨log, reported⟩ := runConvert_of_reaches debug reaches
      (r := (Report.opening w).complain deprecation) rfl rfl
    exact ⟨_, reported⟩
  | _ => simp [Command.order?] at asked

theorem report_failing (debug : Bool) (r : Report) (reaches : Reaches w order c host)
    (unconverted : ∀ output, c ≠ .answered (.converted output)) :
    Failing r (c.report debug order r) := by
  cases c with
  | faulted f => exact r.fail_failing debug reaches.unmarked
  | unequipped executable => exact r.misuse_failing _
  | answered o =>
    cases o with
    | converted output => exact absurd rfl (unconverted output)
    | failed error => exact r.refuse_failing error

/-- The compiler's output comes from a strict reader, so it has an encoding. -/
theorem Converts.encodable {output : Text} (converts : Converts w order output host) :
    Encodable output := by
  obtain ⟨b, code, _, _, _, answer⟩ := converts
  obtain ⟨halt, ends, answered, _⟩ := conversion_ends b (order.request code) w.host
  rw [answer] at answered
  obtain ⟨bytes, t, _, decoded, rfl⟩ := output_of_ends ends answered.symm
  exact encodable_unifyLineEnds (Utf8.encodable_of_decode decoded)

end
end CrossShader.CommandLine
