import CrossShader.Naga.History
import CrossShader.Proofs.Naga.Run

/-!
Histories of one compiler. Modules and validation records come into being in any order, and modules
may look alike; a record is good for the one module that was validated for it. So a run that
generates comes after a clean run that validated the same module, and both tell the compiler the
same of the same text.
-/
namespace CrossShader.Naga

namespace Settings
variable (b : Settings) (p : Program) (extra : List Text) (output : Option Text) (h : Host)

theorem launch_modules (run : Run) : (h.launch run).2.modules = h.modules := by
  have taken : (h.take run).2.modules = h.modules := by
    rw [Host.take]
    split <;> rfl
  rw [Host.launch]
  split
  · rfl
  · exact taken

theorem start_modules (arguments : List Text) (input : Option Text) :
    (b.start arguments input h).2.modules = h.modules := by
  have kept := launch_modules (h.note (runEntry (b.executable :: arguments)))
    ⟨b.executable :: arguments, b.timeout, input⟩
  rw [start]
  split
  all_goals
    rename_i launched
    exact (congrArg (·.2.modules) launched).symm.trans kept

theorem runOver_modules (suffix : Text) :
    (b.runOver p suffix extra output h).2.modules = h.modules := by
  rw [runOver]
  split
  · rfl
  · exact b.start_modules h _ _

theorem runChecked_modules : (b.runChecked p extra output h).2.modules = h.modules := by
  rw [runChecked]
  split
  case h_1 => rfl
  case h_2 suffix _ =>
    have kept := b.runOver_modules p extra output h suffix
    split
    case h_1 ran =>
      rw [ran] at kept
      exact kept
    case h_2 ran =>
      rw [ran] at kept
      split <;> exact kept

theorem runChecked_cases :
    (∃ fault h', h.Ran [] h' ∧ b.runChecked p extra output h = (.error fault, h')) ∨
      ∃ suffix h', p.inputSuffix = .ok suffix ∧ h.Ran [b.runOf p suffix extra output] h' ∧
        b.runChecked p extra output h = (h.verdict b, h') := by
  cases ended : p.inputSuffix with
  | error fault => exact .inl ⟨fault, h, Host.Ran.refl h, by rw [runChecked, ended]⟩
  | ok suffix =>
    by_cases scalars : Encodable p.source
    · cases handed : h.launcher.commandFault? (b.runOf p suffix extra output).command with
      | none =>
        obtain ⟨h', ran, checked⟩ := b.runChecked_ran extra output h ended scalars handed
        exact .inr ⟨suffix, h', rfl, ran, checked⟩
      | some cause =>
        exact .inl ⟨_, _, (Host.Ran.refl h).note _,
          b.runChecked_refused extra output h ended scalars handed⟩
    · obtain ⟨d, refused⟩ := b.runChecked_not_started extra output h ended scalars
      exact .inl ⟨_, h, Host.Ran.refl h, refused⟩

def mismatch : Fault :=
  .ofCause (.value (text "validation info does not describe this module"))

theorem generate_cases (m : Module) (info : Info) (options : Options) (pipeline : PipelineOptions) :
    (info.module.number ≠ m.number ∧
        b.generate m info options pipeline h = (.error mismatch, h)) ∨
      info.module.number = m.number ∧
        ∃ answer h', h'.modules = h.modules ∧
          b.generate m info options pipeline h = (answer, h') ∧
          (h.Ran [] h' ∨ ∃ flags ending suffix, targetArguments pipeline options = .ok flags ∧
            m.program.inputSuffix = .ok suffix ∧
            h.Ran [b.runOf m.program suffix flags (some ending)] h') := by
  rw [generate]
  by_cases differ : info.module.number ≠ m.number
  · exact .inl ⟨differ, if_pos differ⟩
  · refine .inr ⟨not_not.mp differ, ?_⟩
    rw [if_neg differ]
    cases told : targetArguments pipeline options with
    | error fault => exact ⟨_, h, rfl, rfl, .inl (Host.Ran.refl h)⟩
    | ok flags =>
      cases named : outputSuffix pipeline options with
      | error fault => exact ⟨_, h, rfl, rfl, .inl (Host.Ran.refl h)⟩
      | ok ending =>
        have counter := b.runChecked_modules m.program flags (some ending) h
        dsimp only
        rcases b.runChecked_cases m.program flags (some ending) h with
          ⟨fault, h', ran, refused⟩ | ⟨suffix, h', ended, ran, checked⟩
        · rw [refused] at counter ⊢
          exact ⟨_, h', counter, rfl, .inl ran⟩
        · rw [checked] at counter ⊢
          cases h.verdict b with
          | error fault =>
            exact ⟨_, h', counter, rfl, .inr ⟨flags, ending, suffix, rfl, ended, ran⟩⟩
          | ok e => exact ⟨_, h', counter, rfl, .inr ⟨flags, ending, suffix, rfl, ended, ran⟩⟩

end Settings

/-- The step makes up a record without a validation. -/
def Step.isVouch : Step → Bool
  | .vouch _ _ => true
  | _ => false

namespace History

/-- A step with the ending that was foreseen for it and with what came of it. -/
structure Event where
  foreseen : Option Ending
  step : Step
  turn : Turn

namespace Event

def ending (e : Event) : Ending := e.foreseen.getD (.exited .quiet)

def Makes (e : Event) (number : Nat) (p : Program) : Prop :=
  ∃ alike, e.turn.result = .ok (.module number p alike)

def Records (e : Event) (record : Nat) : Prop := ∃ report, e.turn.result = .ok (.info record report)

/-- The step validated the module in one run, which ended clean and gave the record. -/
structure Validates (e : Event) (number record : Nat) (check : Run) : Prop where
  step : e.step = .validate number
  records : e.Records record
  runs : e.turn.runs = [check]
  clean : e.ending.clean = true

end Event

def events (b : Settings) (plan : List (Option Ending × Step)) (s : History) : List Event :=
  (plan.zip (play b plan s)).map fun (planned, turn) => ⟨planned.1, planned.2, turn⟩

def event (b : Settings) (foreseen : Option Ending) (next : Step) (s : History) : Event :=
  ⟨foreseen, next, (turn b foreseen next s).1⟩

theorem events_cons (b : Settings) (foreseen : Option Ending) (next : Step)
    (rest : List (Option Ending × Step)) (s : History) :
    events b ((foreseen, next) :: rest) s =
      event b foreseen next s :: events b rest (turn b foreseen next s).2 := rfl

def ready (foreseen : Option Ending) (s : History) : History :=
  { s with host := { s.host with endings := foreseen.toList, runs := [] } }

@[simp] theorem ready_modules (foreseen : Option Ending) (s : History) :
    (ready foreseen s).modules = s.modules := rfl

@[simp] theorem ready_infos (foreseen : Option Ending) (s : History) :
    (ready foreseen s).infos = s.infos := rfl

@[simp] theorem ready_runs (foreseen : Option Ending) (s : History) :
    (ready foreseen s).host.runs = [] := rfl

theorem foreseen_ready (foreseen : Option Ending) (s : History) :
    (ready foreseen s).host.foreseen 0 = foreseen.getD (.exited .quiet) := by
  cases foreseen <;> rfl

inductive Effect (b : Settings) (s : History) (e : Event) (s' : History) : Prop where
  | nothing (modules : s'.modules = s.modules) (infos : s'.infos = s.infos)
      (counter : s'.host.modules = s.host.modules) (unmade : ∀ n p, ¬ e.Makes n p)
      (unrecorded : ∀ i, ¬ e.Records i)
  | module {p} (modules : s'.modules = s.modules ++ [⟨s.host.modules, p⟩])
      (infos : s'.infos = s.infos) (counter : s'.host.modules = s.host.modules + 1)
      (makes : e.Makes s.host.modules p)
  | record {number m report suffix} (found : s.modules[number]? = some m)
      (ended : m.program.inputSuffix = .ok suffix)
      (modules : s'.modules = s.modules) (infos : s'.infos = s.infos ++ [⟨m, report⟩])
      (counter : s'.host.modules = s.host.modules)
      (validates : e.Validates number s.infos.length (b.runOf m.program suffix [] none))

theorem effect_of_error (b : Settings) {s s' : History} {e : Event} {fault : Fault}
    (raised : e.turn.result = .error fault) (modules : s'.modules = s.modules)
    (infos : s'.infos = s.infos) (counter : s'.host.modules = s.host.modules) :
    Effect b s e s' :=
  .nothing modules infos counter (by simp [Event.Makes, raised]) (by simp [Event.Records, raised])

theorem effect_of_module (b : Settings) {s : History} {foreseen : Option Ending} {next : Step}
    {h : Host} (p : Program) (counter : h.modules = s.host.modules) :
    let added := (ready foreseen s).addModule (Settings.construct p h).1 (Settings.construct p h).2
    Effect b s ⟨foreseen, next, ⟨.ok added.1, added.2.host.runs⟩⟩ added.2 := by
  intro added
  refine .module (p := p) ?_ rfl (congrArg (· + 1) counter) ⟨alike s.modules p, ?_⟩
  · rw [← counter]
    rfl
  · rw [← counter]
    rfl

section
variable {b : Settings} {foreseen : Option Ending} {s s' : History} {result : Except Fault Yield}

theorem parse_effect {source dialect stage : Text} {defines : Table Text}
    (stepped : (ready foreseen s).step b (.parse source dialect stage defines) = (result, s')) :
    Effect b s ⟨foreseen, .parse source dialect stage defines, ⟨result, s'.host.runs⟩⟩ s' := by
  have counter := b.runChecked_modules ⟨source, dialect, stage, Settings.sortDefines defines⟩
    [text "--validate", text "0"] none (ready foreseen s).host
  rw [step, Settings.parse] at stepped
  rcases checked : b.runChecked ⟨source, dialect, stage, Settings.sortDefines defines⟩
    [text "--validate", text "0"] none (ready foreseen s).host with ⟨fault | e, h⟩
  · simp only [checked] at stepped counter
    obtain ⟨rfl, rfl⟩ := Prod.mk.inj stepped
    exact effect_of_error b rfl rfl rfl counter
  · simp only [checked] at stepped counter
    obtain ⟨rfl, rfl⟩ := Prod.mk.inj stepped
    exact effect_of_module b _ counter

theorem validate_effect {number : Nat}
    (stepped : (ready foreseen s).step b (.validate number) = (result, s')) :
    Effect b s ⟨foreseen, .validate number, ⟨result, s'.host.runs⟩⟩ s' := by
  rw [step] at stepped
  cases found : (ready foreseen s).modules[number]? with
  | none =>
    simp only [found] at stepped
    obtain ⟨rfl, rfl⟩ := Prod.mk.inj stepped
    exact .nothing rfl rfl rfl (by simp [Event.Makes]) (by simp [Event.Records])
  | some m =>
    have counter := b.runChecked_modules m.program [] none (ready foreseen s).host
    simp only [found, Settings.validate] at stepped
    rcases b.runChecked_cases m.program [] none (ready foreseen s).host with
      ⟨fault, h, ran, refused⟩ | ⟨suffix, h, ended, ran, checked⟩
    · simp only [refused] at stepped counter
      obtain ⟨rfl, rfl⟩ := Prod.mk.inj stepped
      exact effect_of_error b rfl rfl rfl counter
    · cases verdict : (ready foreseen s).host.verdict b with
      | error fault =>
        simp only [checked, verdict] at stepped counter
        obtain ⟨rfl, rfl⟩ := Prod.mk.inj stepped
        exact effect_of_error b rfl rfl rfl counter
      | ok e =>
        obtain ⟨_, exited, succeeded⟩ := Host.verdict_eq_ok verdict
        have clean : (foreseen.getD (.exited .quiet)).clean = true := by
          rw [← foreseen_ready foreseen s, exited, Ending.clean, succeeded]
          rfl
        simp only [checked, verdict] at stepped counter
        obtain ⟨rfl, rfl⟩ := Prod.mk.inj stepped
        exact .record found ended rfl rfl counter ⟨rfl, ⟨_, rfl⟩, ran.runs, clean⟩

theorem generate_effect {number record : Nat} {options : Options} {pipeline : PipelineOptions}
    (stepped : (ready foreseen s).step b (.generate number record options pipeline) =
      (result, s')) :
    Effect b s ⟨foreseen, .generate number record options pipeline, ⟨result, s'.host.runs⟩⟩ s' := by
  rw [step] at stepped
  split at stepped
  case h_2 =>
    obtain ⟨rfl, rfl⟩ := Prod.mk.inj stepped
    exact .nothing rfl rfl rfl (by simp [Event.Makes]) (by simp [Event.Records])
  case h_1 m info _ _ =>
    have counter : (b.generate m info options pipeline (ready foreseen s).host).2.modules =
        s.host.modules := by
      rcases b.generate_cases (ready foreseen s).host m info options pipeline with
        ⟨_, refused⟩ | ⟨_, _, h, kept, answered, _⟩
      · rw [refused]
        rfl
      · rw [answered]
        exact kept
    rcases generated : b.generate m info options pipeline (ready foreseen s).host with ⟨f | t, h⟩
    · simp only [generated] at stepped counter
      obtain ⟨rfl, rfl⟩ := Prod.mk.inj stepped
      exact effect_of_error b rfl rfl rfl counter
    · simp only [generated] at stepped counter
      obtain ⟨rfl, rfl⟩ := Prod.mk.inj stepped
      exact .nothing rfl rfl counter (by simp [Event.Makes]) (by simp [Event.Records])

theorem version_effect (stepped : (ready foreseen s).step b .version = (result, s')) :
    Effect b s ⟨foreseen, .version, ⟨result, s'.host.runs⟩⟩ s' := by
  have counter : (b.version (ready foreseen s).host).2.modules = s.host.modules := by
    have kept := b.start_modules (ready foreseen s).host [text "--version"] none
    rw [Settings.version]
    rcases started : b.start [text "--version"] none (ready foreseen s).host with ⟨f | e, h⟩
    · rw [started] at kept
      exact kept
    · rw [started] at kept
      dsimp only
      split <;> exact kept
  rw [step] at stepped
  rcases told : b.version (ready foreseen s).host with ⟨f | t, h⟩
  · simp only [told] at stepped counter
    obtain ⟨rfl, rfl⟩ := Prod.mk.inj stepped
    exact effect_of_error b rfl rfl rfl counter
  · simp only [told] at stepped counter
    obtain ⟨rfl, rfl⟩ := Prod.mk.inj stepped
    exact .nothing rfl rfl counter (by simp [Event.Makes]) (by simp [Event.Records])

end

theorem turn_effect (b : Settings) (foreseen : Option Ending) (next : Step) (s : History)
    (plain : next.isVouch = false) :
    Effect b s (event b foreseen next s) (turn b foreseen next s).2 := by
  cases next with
  | parse source dialect stage defines => exact parse_effect rfl
  | construct program => exact effect_of_module b program rfl
  | validate number => exact validate_effect rfl
  | vouch number report => simp [Step.isVouch] at plain
  | generate number record options pipeline => exact generate_effect rfl
  | version => exact version_effect rfl

/-- The modules at hand are those that the past events have made, each under a number of its own. -/
structure Numbered (past : List Event) (s : History) : Prop where
  counter : s.host.modules = s.modules.length
  number : ∀ (i : Nat) m, s.modules[i]? = some m → m.number = i
  made : ∀ e ∈ past, ∀ n p, e.Makes n p → s.modules[n]? = some ⟨n, p⟩
  origin : ∀ m ∈ s.modules, ∃ e ∈ past, e.Makes m.number m.program

/-- The records at hand are those that the past events have given for modules they validated. -/
structure Vouched (b : Settings) (past : List Event) (s : History) : Prop where
  owner : ∀ info ∈ s.infos, s.modules[info.module.number]? = some info.module
  validated : ∀ (i : Nat) info, s.infos[i]? = some info → ∃ v ∈ past, ∃ suffix,
    info.module.program.inputSuffix = .ok suffix ∧
      v.Validates info.module.number i (b.runOf info.module.program suffix [] none)
  recorded : ∀ v ∈ past, ∀ n i, v.step = .validate n → v.Records i →
    ∃ info, s.infos[i]? = some info ∧ info.module.number = n

structure Accounted (b : Settings) (past : List Event) (s : History) : Prop extends
  Numbered past s, Vouched b past s

theorem accounted_opening (b : Settings) (launcher : Launcher) :
    Accounted b [] (openingOn launcher) := by
  refine ⟨⟨rfl, ?_, ?_, ?_⟩, ⟨?_, ?_, ?_⟩⟩ <;> simp [openingOn]

theorem Event.Makes.not_records {e : Event} {n : Nat} {p : Program} (makes : e.Makes n p)
    (i : Nat) : ¬ e.Records i := by
  obtain ⟨alike, made⟩ := makes
  rintro ⟨report, recorded⟩
  simp [made] at recorded

theorem Event.Records.unique {e : Event} {i j : Nat} (first : e.Records i) (second : e.Records j) :
    i = j := by
  obtain ⟨report, recorded⟩ := first
  obtain ⟨report', recorded'⟩ := second
  simp only [recorded, Except.ok.injEq, Yield.info.injEq] at recorded'
  exact recorded'.1

theorem Event.Makes.unique {e : Event} {m n : Nat} {p q : Program} (first : e.Makes m p)
    (second : e.Makes n q) : m = n ∧ p = q := by
  obtain ⟨alike, made⟩ := first
  obtain ⟨alike', made'⟩ := second
  simp only [made, Except.ok.injEq, Yield.module.injEq] at made'
  exact ⟨made'.1, made'.2.1⟩

theorem getElem?_concat_cases {α : Type} {xs : List α} {last x : α} {i : Nat}
    (found : (xs ++ [last])[i]? = some x) : xs[i]? = some x ∨ i = xs.length ∧ x = last := by
  rw [List.getElem?_append] at found
  split at found
  case isTrue => exact .inl found
  case isFalse beyond =>
    rw [List.getElem?_singleton] at found
    split at found
    case isTrue here => exact .inr ⟨by omega, (Option.some.inj found).symm⟩
    case isFalse => simp at found

section
variable {b : Settings} {past : List Event} {s s' : History} {e : Event}

theorem Effect.number_is_next (effect : Effect b s e s') {n : Nat} {p : Program}
    (makes : e.Makes n p) : n = s.host.modules := by
  cases effect with
  | nothing _ _ _ unmade _ => exact absurd makes (unmade n p)
  | module _ _ _ makes' => exact (makes.unique makes').1
  | record _ _ _ _ _ validates => exact absurd validates.records (makes.not_records _)

theorem Numbered.kept (numbered : Numbered past s) (modules : s'.modules = s.modules)
    (counter : s'.host.modules = s.host.modules) (unmade : ∀ n p, ¬ e.Makes n p) :
    Numbered (past ++ [e]) s' := by
  constructor
  · rw [counter, modules, numbered.counter]
  · rw [modules]
    exact numbered.number
  · intro e' member n p makes
    rcases List.mem_append.mp member with old | new
    · rw [modules]
      exact numbered.made e' old n p makes
    · rw [List.mem_singleton.mp new] at makes
      exact absurd makes (unmade n p)
  · intro m listed
    rw [modules] at listed
    obtain ⟨maker, old, makes⟩ := numbered.origin m listed
    exact ⟨maker, List.mem_append_left _ old, makes⟩

theorem Numbered.added (numbered : Numbered past s) {p : Program}
    (modules : s'.modules = s.modules ++ [⟨s.host.modules, p⟩])
    (counter : s'.host.modules = s.host.modules + 1) (makes : e.Makes s.host.modules p) :
    Numbered (past ++ [e]) s' := by
  have last : s'.modules[s.host.modules]? = some ⟨s.host.modules, p⟩ := by
    rw [modules, numbered.counter, List.getElem?_concat_length]
  constructor
  · rw [counter, modules, numbered.counter, List.length_append, List.length_singleton]
  · intro i m found
    rw [modules] at found
    rcases getElem?_concat_cases found with old | ⟨rfl, rfl⟩
    · exact numbered.number i m old
    · exact numbered.counter
  · intro e' member n q makes'
    rcases List.mem_append.mp member with old | new
    · have found := numbered.made e' old n q makes'
      rw [modules, List.getElem?_append_left (List.getElem?_eq_some_iff.mp found).1, found]
    · rw [List.mem_singleton.mp new] at makes'
      obtain ⟨rfl, rfl⟩ := makes.unique makes'
      exact last
  · intro m listed
    rw [modules] at listed
    rcases List.mem_append.mp listed with old | new
    · obtain ⟨maker, among, makes'⟩ := numbered.origin m old
      exact ⟨maker, List.mem_append_left _ among, makes'⟩
    · rw [List.mem_singleton.mp new]
      exact ⟨e, List.mem_append_right _ List.mem_cons_self, makes⟩

theorem Vouched.kept (vouched : Vouched b past s) (modules : s.modules <+: s'.modules)
    (infos : s'.infos = s.infos) (unrecorded : ∀ i, ¬ e.Records i) :
    Vouched b (past ++ [e]) s' := by
  constructor
  · intro info listed
    rw [infos] at listed
    have found := vouched.owner info listed
    obtain ⟨more, eq⟩ := modules
    rw [← eq, List.getElem?_append_left (List.getElem?_eq_some_iff.mp found).1, found]
  · intro i info found
    rw [infos] at found
    obtain ⟨v, old, validated⟩ := vouched.validated i info found
    exact ⟨v, List.mem_append_left _ old, validated⟩
  · intro v member n i validates records
    rcases List.mem_append.mp member with old | new
    · rw [infos]
      exact vouched.recorded v old n i validates records
    · rw [List.mem_singleton.mp new] at records
      exact absurd records (unrecorded i)

theorem Vouched.added (vouched : Vouched b past s) {m : Module} {report suffix : Text}
    (found : s.modules[m.number]? = some m) (ended : m.program.inputSuffix = .ok suffix)
    (modules : s'.modules = s.modules) (infos : s'.infos = s.infos ++ [⟨m, report⟩])
    (validates : e.Validates m.number s.infos.length (b.runOf m.program suffix [] none)) :
    Vouched b (past ++ [e]) s' := by
  have last : s'.infos[s.infos.length]? = some ⟨m, report⟩ := by
    rw [infos, List.getElem?_concat_length]
  constructor
  · intro info listed
    rw [infos] at listed
    rw [modules]
    rcases List.mem_append.mp listed with old | new
    · exact vouched.owner info old
    · rw [List.mem_singleton.mp new]
      exact found
  · intro i info found'
    rw [infos] at found'
    rcases getElem?_concat_cases found' with old | ⟨rfl, rfl⟩
    · obtain ⟨v, among, validated⟩ := vouched.validated i info old
      exact ⟨v, List.mem_append_left _ among, validated⟩
    · exact ⟨e, List.mem_append_right _ List.mem_cons_self, suffix, ended, validates⟩
  · intro v member n i steps records
    rcases List.mem_append.mp member with old | new
    · obtain ⟨info, found', number⟩ := vouched.recorded v old n i steps records
      refine ⟨info, ?_, number⟩
      rw [infos, List.getElem?_append_left (List.getElem?_eq_some_iff.mp found').1, found']
    · rw [List.mem_singleton.mp new] at steps records
      obtain rfl := validates.records.unique records
      exact ⟨_, last, Step.validate.inj (validates.step.symm.trans steps)⟩

theorem Accounted.effect (accounted : Accounted b past s) (effect : Effect b s e s') :
    Accounted b (past ++ [e]) s' := by
  cases effect with
  | nothing modules infos counter unmade unrecorded =>
    exact ⟨accounted.toNumbered.kept modules counter unmade,
      accounted.toVouched.kept (modules ▸ List.prefix_refl _) infos unrecorded⟩
  | module modules infos counter makes =>
    exact ⟨accounted.toNumbered.added modules counter makes,
      accounted.toVouched.kept (by rw [modules]; exact List.prefix_append _ _) infos
        makes.not_records⟩
  | record found ended modules infos counter validates =>
    obtain rfl := accounted.number _ _ found
    exact ⟨accounted.toNumbered.kept modules counter fun n p makes =>
        makes.not_records _ validates.records,
      accounted.toVouched.added found ended modules infos validates⟩

/-- Every event of a history happens to modules and records that the events before it have made. -/
theorem accounted_events {plan : List (Option Ending × Step)}
    (plain : ∀ planned ∈ plan, planned.2.isVouch = false) (accounted : Accounted b past s)
    {before after : List Event} (cut : events b plan s = before ++ e :: after) :
    ∃ s' foreseen next, Accounted b (past ++ before) s' ∧ next.isVouch = false ∧
      e = event b foreseen next s' := by
  induction plan generalizing past s before with
  | nil => simp [events] at cut
  | cons planned rest ih =>
    obtain ⟨foreseen, next⟩ := planned
    have here : next.isVouch = false := plain (foreseen, next) List.mem_cons_self
    rw [events_cons] at cut
    cases before with
    | nil =>
      obtain ⟨rfl, _⟩ := List.cons.inj cut
      rw [List.append_nil]
      exact ⟨s, foreseen, next, accounted, here, rfl⟩
    | cons first before =>
      obtain ⟨rfl, later⟩ := List.cons.inj cut
      have moved := accounted.effect (turn_effect b foreseen next s here)
      obtain ⟨s', foreseen', next', accounted', plain', happens⟩ :=
        ih (fun other member => plain other (List.mem_cons_of_mem _ member)) moved later
      rw [List.append_assoc, List.singleton_append] at accounted'
      exact ⟨s', foreseen', next', accounted', plain', happens⟩

theorem generate_turn (b : Settings) (foreseen : Option Ending) {number record : Nat} {m : Module}
    {info : Info} (options : Options) (pipeline : PipelineOptions)
    (found : s.modules[number]? = some m) (found' : s.infos[record]? = some info) :
    (event b foreseen (.generate number record options pipeline) s).turn =
      ⟨(b.generate m info options pipeline (ready foreseen s).host).1.map .output,
        (b.generate m info options pipeline (ready foreseen s).host).2.runs⟩ := by
  rcases generated : b.generate m info options pipeline (ready foreseen s).host with ⟨fault | t, h⟩
  · have stepped : (ready foreseen s).step b (.generate number record options pipeline) =
        (.error fault, { ready foreseen s with host := h }) := by
      simp only [step, ready_modules, ready_infos, found, found', generated]
    exact congrArg (fun taken => Turn.mk taken.1 taken.2.host.runs) stepped
  · have stepped : (ready foreseen s).step b (.generate number record options pipeline) =
        (.ok (.output t), { ready foreseen s with host := h }) := by
      simp only [step, ready_modules, ready_infos, found, found', generated]
    exact congrArg (fun taken => Turn.mk taken.1 taken.2.host.runs) stepped

theorem generate_runs (accounted : Accounted b past s) {foreseen : Option Ending}
    {number record : Nat} {options : Options} {pipeline : PipelineOptions} {run : Run}
    (started : run ∈ (event b foreseen (.generate number record options pipeline) s).turn.runs) :
    ∃ m info suffix flags ending, s.modules[number]? = some m ∧
      s.infos[record]? = some info ∧ info.module = m ∧
      m.program.inputSuffix = .ok suffix ∧ targetArguments pipeline options = .ok flags ∧
      run = b.runOf m.program suffix flags (some ending) := by
  obtain ⟨m, info, found, found'⟩ : ∃ m info, s.modules[number]? = some m ∧
      s.infos[record]? = some info := by
    change run ∈ ((ready foreseen s).step b
      (.generate number record options pipeline)).2.host.runs at started
    rw [step] at started
    split at started
    case h_1 m info found found' => exact ⟨m, info, found, found'⟩
    case h_2 => simp at started
  rw [generate_turn b foreseen options pipeline found found'] at started
  rcases b.generate_cases (ready foreseen s).host m info options pipeline with
    ⟨_, refused⟩ | ⟨same, answer, h, _, answered, ran | ⟨flags, ending, suffix, told, ended, ran⟩⟩
  · simp [refused] at started
  · simp [answered, ran.runs] at started
  · have owner := accounted.owner info (List.mem_of_getElem? found')
    rw [same, accounted.number _ _ found, found] at owner
    rw [answered, ran.runs, ready_runs, List.nil_append, List.mem_singleton] at started
    exact ⟨m, info, suffix, flags, ending, found, found', (Option.some.inj owner).symm, ended, told,
      started⟩

end

/-- A history in which every record comes from a validation. No two modules have one number. A run
that generates is over the program of a module that an earlier step validated in a clean run, and
that run gave the record, read the same text and was told the same of it. A record that was made for
another module is refused before any run, however alike the modules are. -/
theorem generation_is_validated (b : Settings) (launcher : Launcher)
    (plan : List (Option Ending × Step))
    (plain : ∀ planned ∈ plan, planned.2.isVouch = false) (before : List Event) (e : Event)
    (after : List Event) (cut : events b plan (openingOn launcher) = before ++ e :: after) :
    (∀ n p, e.Makes n p → ∀ maker ∈ before, ∀ q, ¬ maker.Makes n q) ∧
      ∀ number record options pipeline, e.step = .generate number record options pipeline →
        (∀ run ∈ e.turn.runs, ∃ maker ∈ before, ∃ v ∈ before, ∃ p suffix flags ending,
          maker.Makes number p ∧ p.inputSuffix = .ok suffix ∧
          targetArguments pipeline options = .ok flags ∧
          v.Validates number record (b.runOf p suffix [] none) ∧
          run = b.runOf p suffix flags (some ending)) ∧
        ∀ v ∈ before, ∀ other, v.step = .validate other → v.Records record → other ≠ number →
          ∀ maker ∈ before, ∀ p, maker.Makes number p → e.turn = ⟨.error Settings.mismatch, []⟩ := by
  obtain ⟨s, foreseen, next, accounted, here, rfl⟩ :=
    accounted_events plain (accounted_opening b launcher) cut
  rw [List.nil_append] at accounted
  refine ⟨?_, ?_⟩
  · intro n p makes maker among q makes'
    have known := accounted.made maker among n q makes'
    rw [(turn_effect b foreseen next s here).number_is_next makes, accounted.counter] at known
    simp at known
  · rintro number record options pipeline rfl
    refine ⟨?_, ?_⟩
    · intro run started
      obtain ⟨m, info, suffix, flags, ending, found, found', rfl, ended, told, same⟩ :=
        generate_runs accounted started
      obtain rfl := accounted.number _ _ found
      obtain ⟨maker, among, makes⟩ := accounted.origin _ (List.mem_of_getElem? found)
      obtain ⟨v, among', suffix', ended', validates⟩ := accounted.validated _ _ found'
      obtain rfl := Except.ok.inj (ended.symm.trans ended')
      exact ⟨maker, among, v, among', _, suffix, flags, ending, makes, ended, told, validates, same⟩
    · intro v among other steps records differ maker among' p makes
      obtain ⟨info, found', rfl⟩ := accounted.recorded v among other record steps records
      have found := accounted.made maker among' number p makes
      rw [generate_turn b foreseen options pipeline found found']
      rw [Settings.generate, if_pos differ]
      rfl

/-- Two modules that look the same: the record of the first is good for the first alone. -/
theorem alike_modules_are_told_apart :
    let b : Settings := ⟨text "naga", .ofInt 30⟩
    let p : Program := ⟨text "x", text "glsl", text "vertex", [(text "A", text "1")]⟩
    let generate := fun number =>
      Step.generate number 0 (.target .hlsl) (.ofStage (text "vertex"))
    let plan := [(none, .construct p), (none, .construct p), (none, .validate 0),
      (none, generate 1), (none, generate 0)]
    (∀ planned ∈ plan, planned.2.isVouch = false) ∧
      ∃ first second check refused generating : Event,
        events b plan (openingOn .posix) = [first, second, check] ++ refused :: [generating] ∧
        first.Makes 0 p ∧ second.Makes 1 p ∧ check.step = .validate 0 ∧ check.Records 0 ∧
        refused.turn = ⟨.error Settings.mismatch, []⟩ ∧
        generating.turn.runs = [b.runOf p (text "vert") [] (some (text "hlsl"))] ∧
        ∃ v ∈ [first, second, check, refused], ∃ run, v.Validates 0 0 run ∧
          run.input = some p.source := by
  intro b p generate plan
  have plain : ∀ planned ∈ plan, planned.2.isVouch = false := by
    simp [plan, generate, Step.isVouch]
  refine ⟨plain, _, _, _, _, _, rfl, ⟨_, rfl⟩, ⟨_, rfl⟩, rfl, ⟨_, rfl⟩, ?_, rfl, ?_⟩
  · obtain ⟨_, generation⟩ := generation_is_validated b .posix plan plain [_, _, _] _ [_] rfl
    have mismatched := (generation 1 0 _ _ rfl).2
    exact mismatched _ (List.mem_cons_of_mem _ (List.mem_cons_of_mem _ List.mem_cons_self)) 0 rfl
      ⟨_, rfl⟩ (by decide) _ (List.mem_cons_of_mem _ List.mem_cons_self) p ⟨_, rfl⟩
  · obtain ⟨_, generation⟩ := generation_is_validated b .posix plan plain [_, _, _, _] _ [] rfl
    obtain ⟨maker, _, v, among, q, suffix, flags, ending, _, _, _, validates, same⟩ :=
      (generation 0 0 _ _ rfl).1 (b.runOf p (text "vert") [] (some (text "hlsl")))
        List.mem_cons_self
    exact ⟨v, among, _, validates, (congrArg Run.input same).symm⟩

end History
end CrossShader.Naga
