import CrossShader.Proofs.Arguments.Basic
import CrossShader.Proofs.Naga.Operations
import CrossShader.Proofs.Naga.Validated
import CrossShader.Proofs.Text.Order

/-!
What a command says of the definitions. A program is parsed with its definitions in the order of
their names, so no run shows the order in which they were given. No word behind them is the flag
that begins one, so they can be read back from any run over the program, together with what the
input is; a value is free to look like a flag. Of a name with an equals sign the end is lost.
-/
namespace CrossShader.Naga
open Arguments Text

def definesFlag : Text := text "--defines"

def readDefines : List Text → List (Text × Text)
  | flag :: word :: rest =>
    if flag = definesFlag then
      ((splitValue word).1, (splitValue word).2.getD []) :: readDefines rest
    else []
  | _ => []

/-- What a run over a program is told of it. Only GLSL has a stage. -/
structure Told where
  kind : SourceDialect
  stage : Option Stage
  defines : List (Text × Text)
  deriving DecidableEq, Repr

def Told.ofCommand? : List Text → Option Told
  | _ :: _ :: kind :: rest =>
    if kind = text "wgsl" then some ⟨.wgsl, none, readDefines rest⟩
    else
      match rest with
      | _ :: suffix :: rest =>
        (Stage.all.find? (·.suffix == suffix)).map fun s => ⟨.glsl, some s, readDefines rest⟩
      | _ => none
  | _ => none

theorem readDefines_of_head {words : List Text} (ends : words.head? ≠ some definesFlag) :
    readDefines words = [] := by
  cases words with
  | nil => rfl
  | cons flag rest =>
    have other : flag ≠ definesFlag := fun eq => ends (congrArg some eq)
    cases rest with
    | nil => rfl
    | cons word rest => exact if_neg other

theorem readDefines_defineArguments {defines : List (Text × Text)} {rest : List Text}
    (plain : ∀ d ∈ defines, equalsSign ∉ d.1) (ends : rest.head? ≠ some definesFlag) :
    readDefines (Program.defineArguments defines ++ rest) = defines := by
  induction defines with
  | nil => exact readDefines_of_head ends
  | cons d defines ih =>
    obtain ⟨name, value⟩ := d
    obtain ⟨first, later⟩ := List.forall_mem_cons.mp plain
    have cut : splitValue (name ++ text "=" ++ value) = (name, some value) := by
      rw [List.append_assoc]
      exact splitValue_attached first value
    change readDefines (definesFlag :: (name ++ text "=" ++ value) ::
      (Program.defineArguments defines ++ rest)) = _
    rw [readDefines, if_pos rfl, cut, ih later]
    rfl

-- Why the names must hold no equals sign.
example : Program.defineArguments [(text "a=b", text "c")] =
    Program.defineArguments [(text "a", text "b=c")] := by decide

theorem ofCommand?_wgsl (executable flag : Text) (rest : List Text) :
    Told.ofCommand? (executable :: flag :: text "wgsl" :: rest) =
      some ⟨.wgsl, none, readDefines rest⟩ := by
  simp only [Told.ofCommand?, if_true]

theorem ofCommand?_glsl (executable flag flag' : Text) (stage : Stage) (rest : List Text) :
    Told.ofCommand? (executable :: flag :: text "glsl" :: flag' :: stage.suffix :: rest) =
      some ⟨.glsl, some stage, readDefines rest⟩ := by
  have found : Stage.all.find? (·.suffix == stage.suffix) = some stage := by
    cases stage <;> decide
  have other : text "glsl" ≠ text "wgsl" := by decide
  simp only [Told.ofCommand?, if_neg other, found, Option.map_some]

/-- A program that is parsed, on a host that starts the run and lets it end well. -/
structure Parsing (b : Settings) where
  source : Text
  dialect : Text
  stage : Stage
  defines : Table Text
  host : Host
  scalars : Encodable source
  mapping : defines.keys.Nodup
  said : ∀ t ∈ b.callerTexts defines, host.launcher.Says t
  awaits : host.launcher.Awaits b.timeout
  clean : (host.foreseen 0).clean = true

namespace Parsing
variable {b : Settings}

def program (x : Parsing b) : Program :=
  ⟨x.source, x.dialect, x.stage.name, Settings.sortDefines x.defines⟩

def outcome (x : Parsing b) : Except Fault Module × Host :=
  b.parse x.source x.dialect x.stage.name x.defines x.host

def suffix (x : Parsing b) : Text := if x.program.isWgsl then text "wgsl" else x.stage.suffix

structure Reorders (x y : Parsing b) : Prop where
  source : x.source = y.source
  dialect : x.dialect = y.dialect
  stage : x.stage = y.stage
  defines : x.defines.Perm y.defines

def Separable (x : Parsing b) : Prop := ∀ name ∈ x.defines.keys, equalsSign ∉ name

def told (x : Parsing b) : Told :=
  if x.program.isWgsl then ⟨.wgsl, none, Settings.sortDefines x.defines⟩
  else ⟨.glsl, some x.stage, Settings.sortDefines x.defines⟩

/-- The run parses, or it is over the module that was parsed. -/
inductive Starts (x : Parsing b) (run : Run) : Prop where
  | parsing (ran : x.host.Ran [run] x.outcome.2)
  | validating {m h'} {h : Host} (made : x.outcome = (.ok m, h'))
      (ran : h.Ran [run] (b.validate m h).2)
  | generating {m h' info options pipeline} {h : Host} (made : x.outcome = (.ok m, h'))
      (ran : h.Ran [run] (b.generate m info options pipeline h).2)

end Parsing

/-- Equal modules, whose validation and whose generation start the same runs on all hosts that can
start them. Only options that the compiler cannot be told start none. -/
structure Module.Matches (b : Settings) (m n : Module) : Prop where
  program : m.program = n.program
  validated : ∀ h k : Host,
    (∀ t ∈ b.callerTexts m.program.defines, h.launcher.Says t ∧ k.launcher.Says t) →
    ∃ run, h.Ran [run] (b.validate m h).2 ∧ k.Ran [run] (b.validate n k).2
  generated : ∀ (i j : Info) options pipeline (h k : Host),
    i.module.number = m.number → j.module.number = n.number →
    (∀ t ∈ b.callerTexts m.program.defines ++ optionTexts pipeline options,
      h.launcher.Says t ∧ k.launcher.Says t) →
    ∃ runs, (Expressible pipeline options → runs ≠ []) ∧
      h.Ran runs (b.generate m i options pipeline h).2 ∧
      k.Ran runs (b.generate n j options pipeline k).2

theorem Host.Ran.unique {h h' : Host} {first second : List Run} (ran₁ : h.Ran first h')
    (ran₂ : h.Ran second h') : first = second :=
  List.append_cancel_left (ran₁.runs.symm.trans ran₂.runs)

theorem head_of_targetArguments {pipeline : PipelineOptions} {options : Options}
    {flags : List Text} (told : targetArguments pipeline options = .ok flags) :
    flags.head? ≠ some definesFlag := by
  rcases targetArguments_cases told with ⟨rfl, _⟩ | ⟨wishes, _, rfl⟩
  · exact nofun
  · intro first
    exact absurd (Option.some.inj first) (by decide)

namespace Settings

def generatingRuns (b : Settings) (p : Program) (options : Options) (pipeline : PipelineOptions) :
    List Run :=
  match targetArguments pipeline options, outputSuffix pipeline options, p.inputSuffix with
  | .ok flags, .ok ending, .ok suffix => [b.runOf p suffix flags (some ending)]
  | _, _, _ => []

theorem generatingRuns_ne_nil (b : Settings) {p : Program} {suffix : Text} {options : Options}
    {pipeline : PipelineOptions} (ended : p.inputSuffix = .ok suffix)
    (expressible : Expressible pipeline options) : b.generatingRuns p options pipeline ≠ [] := by
  obtain ⟨flags, ending, told, named⟩ := expressible.told
  unfold generatingRuns
  rw [told, named, ended]
  exact List.cons_ne_nil _ _

section
variable (b : Settings) {m : Module} {suffix : Text}

theorem validate_cases (m : Module) (h : Host) :
    h.Ran [] (b.validate m h).2 ∨ ∃ suffix, m.program.inputSuffix = .ok suffix ∧
      h.Ran [b.runOf m.program suffix [] none] (b.validate m h).2 := by
  unfold validate
  rcases b.runChecked_cases m.program [] none h with
    ⟨fault, h', ran, refused⟩ | ⟨suffix, h', ended, ran, checked⟩
  · rw [refused]
    exact .inl ran
  · rw [checked]
    cases h.verdict b with
    | error fault => exact .inr ⟨suffix, ended, ran⟩
    | ok e => exact .inr ⟨suffix, ended, ran⟩

variable (ended : m.program.inputSuffix = .ok suffix) (scalars : Encodable m.program.source)
include ended scalars

theorem validate_ran (h : Host)
    (said : ∀ t ∈ b.callerTexts m.program.defines, h.launcher.Says t) :
    h.Ran [b.runOf m.program suffix [] none] (b.validate m h).2 := by
  have handed := (b.handed_runOf_iff (l := h.launcher) ended [] none nofun).mpr ⟨said, nofun⟩
  obtain ⟨h', ran, checked⟩ := b.runChecked_ran [] none h ended scalars handed
  unfold validate
  rw [checked]
  cases h.verdict b with
  | error fault => exact ran
  | ok e => exact ran

theorem generate_ran (h : Host) {info : Info} (own : info.module.number = m.number)
    (options : Options) (pipeline : PipelineOptions)
    (said : ∀ t ∈ b.callerTexts m.program.defines ++ optionTexts pipeline options,
      h.launcher.Says t) :
    h.Ran (b.generatingRuns m.program options pipeline)
      (b.generate m info options pipeline h).2 := by
  unfold generate generatingRuns
  rw [if_neg (not_not_intro own), ended]
  cases told : targetArguments pipeline options with
  | error fault => exact .refl h
  | ok flags =>
    cases named : outputSuffix pipeline options with
    | error fault => exact .refl h
    | ok ending =>
      obtain ⟨saidGiven, saidOptions⟩ := List.forall_mem_append.mp said
      have plain : ∀ s ∈ some ending, IsPlain s := by
        simpa using isPlain_outputSuffix named
      have handed := (b.handed_runOf_iff ended flags (some ending) plain).mpr
        ⟨saidGiven, (says_flags_iff told).mpr saidOptions⟩
      obtain ⟨h', ran, checked⟩ := b.runChecked_ran flags (some ending) h ended scalars handed
      dsimp only
      rw [checked]
      cases h.verdict b with
      | error fault => exact ran
      | ok e => exact ran

theorem matches_of_program {n : Module} (same : m.program = n.program) : m.Matches b n := by
  have ended' : n.program.inputSuffix = .ok suffix := same ▸ ended
  have scalars' : Encodable n.program.source := same ▸ scalars
  constructor
  · exact same
  · intro h k said
    refine ⟨b.runOf m.program suffix [] none,
      b.validate_ran ended scalars h fun t given => (said t given).1, ?_⟩
    rw [same] at said ⊢
    exact b.validate_ran ended' scalars' k fun t given => (said t given).2
  · intro i j options pipeline h k own own' said
    refine ⟨b.generatingRuns m.program options pipeline, b.generatingRuns_ne_nil ended,
      b.generate_ran ended scalars h own options pipeline fun t given => (said t given).1, ?_⟩
    rw [same] at said ⊢
    exact b.generate_ran ended' scalars' k own' options pipeline fun t given => (said t given).2

end
end Settings

namespace Parsing
variable {b : Settings} {x y : Parsing b} {run : Run}

theorem ended (x : Parsing b) : x.program.inputSuffix = .ok x.suffix := by
  unfold Program.inputSuffix suffix
  split
  · rfl
  · exact stageSuffix_name x.stage

theorem outcome_ran (x : Parsing b) :
    ∃ m h', x.outcome = (.ok m, h') ∧ m.program = x.program ∧
      x.host.Ran [b.runOf x.program x.suffix [text "--validate", text "0"] none] h' := by
  have flags : ∀ word ∈ [text "--validate", text "0"], x.host.launcher.Says word :=
    fun word member => x.host.launcher.says_of_isPlain
      ((show ∀ word ∈ [text "--validate", text "0"], IsPlain word by decide) word member)
  have handed := (b.handed_runOf_iff x.ended _ none nofun).mpr
    ⟨fun t given => x.said t ((b.mem_callerTexts_sorted x.defines t).mp given), flags⟩
  obtain ⟨h', ran, checked⟩ :=
    b.runChecked_ran [text "--validate", text "0"] none x.host x.ended x.scalars handed
  obtain ⟨e, _, passed⟩ := Ending.verdict_of_clean b x.clean
  rw [Host.verdict_of_awaited (Launcher.timeoutFault?_eq_none_iff.mpr x.awaits), passed] at checked
  refine ⟨(Settings.construct x.program h').1, (Settings.construct x.program h').2, ?_, rfl,
    ran.endings, ran.runs, ran.launcher⟩
  change b.parse x.source x.dialect x.stage.name x.defines x.host = _
  unfold Settings.parse
  unfold program at checked
  simp only [checked]
  rfl

theorem Starts.over (starts : x.Starts run) :
    ∃ extra output, run = b.runOf x.program x.suffix extra output ∧
      extra.head? ≠ some definesFlag := by
  obtain ⟨m, h', made, same, parsed⟩ := x.outcome_ran
  have only {suffix : Text} (ended : m.program.inputSuffix = .ok suffix) : suffix = x.suffix := by
    rw [same, x.ended] at ended
    exact (Except.ok.inj ended).symm
  -- A run is determined by what it adds to the host, so each is the one that the operation starts.
  cases starts with
  | parsing ran =>
    rw [made] at ran
    obtain rfl := List.singleton_inj.mp (ran.unique parsed)
    exact ⟨_, _, rfl, by decide⟩
  | @validating _ _ h made' ran =>
    obtain ⟨rfl, rfl⟩ : m = _ ∧ h' = _ := by simpa using made.symm.trans made'
    rcases b.validate_cases m h with unstarted | ⟨suffix, ended, started⟩
    · cases ran.unique unstarted
    · obtain rfl := List.singleton_inj.mp (ran.unique started)
      exact ⟨[], none, by rw [same, only ended], by decide⟩
  | @generating _ _ info options pipeline h made' ran =>
    obtain ⟨rfl, rfl⟩ : m = _ ∧ h' = _ := by simpa using made.symm.trans made'
    rcases b.generate_cases h m info options pipeline with
      ⟨_, refused⟩ | ⟨_, answer, k, _, answered, unstarted | ⟨flags, ending, suffix, told, ended,
        started⟩⟩
    · rw [refused] at ran
      cases ran.unique (.refl h)
    · rw [answered] at ran
      cases ran.unique unstarted
    · rw [answered] at ran
      obtain rfl := List.singleton_inj.mp (ran.unique started)
      exact ⟨flags, some ending, by rw [same, only ended], head_of_targetArguments told⟩

theorem ofCommand?_runOf (separable : x.Separable) {extra : List Text} (output : Option Text)
    (ends : extra.head? ≠ some definesFlag) :
    Told.ofCommand? (b.runOf x.program x.suffix extra output).command = some x.told := by
  have plain : ∀ d ∈ Settings.sortDefines x.defines, equalsSign ∉ d.1 := by
    intro d listed
    exact separable d.1 (List.mem_map_of_mem (mem_sortedBy.mp listed))
  -- Behind the definitions stands a flag of the run, or the file if it has none.
  have stops (file : Text) (files : List Text) (other : file ≠ definesFlag) :
      (extra ++ file :: files).head? ≠ some definesFlag := by
    cases extra with
    | nil => exact fun first => other (Option.some.inj first)
    | cons word extra => exact ends
  have file : directory ++ text "/shader." ++ x.suffix ≠ definesFlag := by
    intro eq
    cases eq
  have read := readDefines_defineArguments plain
    (stops _ (output.map fun s => directory ++ text "/out." ++ s).toList file)
  unfold suffix at read
  unfold Settings.runOf Program.arguments told suffix
  split
  case isTrue wgsl =>
    rw [if_pos wgsl] at read
    simp only [List.append_assoc, List.cons_append, List.nil_append] at read ⊢
    rw [ofCommand?_wgsl, ← read]
    rfl
  case isFalse glsl =>
    rw [if_neg glsl] at read
    simp only [List.append_assoc, List.cons_append, List.nil_append] at read ⊢
    rw [ofCommand?_glsl, ← read]
    rfl

theorem ascending_program (x : Parsing b) :
    x.program.defines.Pairwise (·.1 < ·.1) ∧ x.program.defines.Perm x.defines :=
  ⟨ascending_sortedBy x.mapping, sortedBy_perm Prod.fst x.defines⟩

theorem Reorders.program_eq (same : x.Reorders y) : x.program = y.program := by
  have defines : Settings.sortDefines x.defines = Settings.sortDefines y.defines := by
    apply sortedBy_congr _ same.defines
    intro a left other right eq
    exact List.inj_on_of_nodup_map x.mapping left right eq
  unfold program
  rw [same.source, same.dialect, same.stage, defines]

theorem told_perm (x : Parsing b) : x.told.defines.Perm x.defines := by
  unfold told
  split
  · exact sortedBy_perm Prod.fst x.defines
  · exact sortedBy_perm Prod.fst x.defines

theorem perm_of_told (same : x.told = y.told) : x.defines.Perm y.defines := by
  have sorted := x.told_perm
  rw [same] at sorted
  exact sorted.symm.trans y.told_perm

end Parsing

/-- Parsing keeps a mapping as its pairs in the order of their names, and nothing else of it
reaches the compiler. -/
theorem defines_are_sorted_and_told (b : Settings) (x y : Parsing b) :
    ∃ m n h k, x.outcome = (.ok m, h) ∧ y.outcome = (.ok n, k) ∧
      (m.program.defines.Pairwise (·.1 < ·.1) ∧ m.program.defines.Perm x.defines) ∧
      (x.Reorders y → m.Matches b n ∧ ∃ run, x.host.Ran [run] h ∧ y.host.Ran [run] k) ∧
      (x.Separable → ∀ run, x.Starts run → Told.ofCommand? run.command = some x.told) ∧
      (x.Separable → y.Separable → ∀ run other, x.Starts run → y.Starts other →
        run.command = other.command → x.told = y.told ∧ x.defines.Perm y.defines) := by
  obtain ⟨m, h, made, programX, ranX⟩ := x.outcome_ran
  obtain ⟨n, k, made', programY, ranY⟩ := y.outcome_ran
  have reads {z : Parsing b} (separable : z.Separable) {run : Run} (starts : z.Starts run) :
      Told.ofCommand? run.command = some z.told := by
    obtain ⟨extra, output, rfl, ends⟩ := starts.over
    exact z.ofCommand?_runOf separable output ends
  refine ⟨m, n, h, k, made, made', programX ▸ x.ascending_program, ?_, ?_, ?_⟩
  · intro same
    have programs : x.program = y.program := same.program_eq
    have suffixes : x.suffix = y.suffix := by
      unfold Parsing.suffix
      rw [programs, same.stage]
    have equal : m.program = n.program := by rw [programX, programY, programs]
    have ended : m.program.inputSuffix = .ok x.suffix := programX ▸ x.ended
    have scalars : Encodable m.program.source := programX ▸ x.scalars
    refine ⟨b.matches_of_program ended scalars equal, _, ranX, ?_⟩
    rw [programs, suffixes]
    exact ranY
  · intro separable run starts
    exact reads separable starts
  · intro separable separable' run other starts starts' same
    have told : x.told = y.told := by
      have first := reads separable starts
      rw [same, reads separable' starts'] at first
      exact (Option.some.inj first).symm
    exact ⟨told, Parsing.perm_of_told told⟩

/-- Two orders of one mapping, whose values look like a flag, like a pair and like nothing. -/
theorem flag_like_values_are_read_back :
    let given := [(text "SIZE", text "--defines"), (text "MODE", text "a=b"), (text "OFF", [])]
    let b : Settings := ⟨text "naga", .ofInt 30⟩
    let x : Parsing b :=
      ⟨[], text "glsl", .vertex, given, .openingOn .posix [], by decide, by decide,
        Launcher.commandFault?_eq_none_iff.mp (by decide),
        Launcher.timeoutFault?_eq_none_iff.mp (by decide), by decide⟩
    let y : Parsing b :=
      ⟨[], text "glsl", .vertex, given.reverse, .openingOn .posix [], by decide, by decide,
        Launcher.commandFault?_eq_none_iff.mp (by decide),
        Launcher.timeoutFault?_eq_none_iff.mp (by decide), by decide⟩
    x.Reorders y ∧ x.Separable ∧ y.Separable ∧ x.told = y.told ∧
      ∃ run, x.Starts run ∧ y.Starts run ∧
        Told.ofCommand? run.command = some ⟨.glsl, some .vertex,
          [(text "MODE", text "a=b"), (text "OFF", []), (text "SIZE", text "--defines")]⟩ := by
  intro given b x y
  have same : x.Reorders y := ⟨rfl, rfl, rfl, (List.reverse_perm given).symm⟩
  have separable : x.Separable := by unfold Parsing.Separable; decide
  have separable' : y.Separable := by unfold Parsing.Separable; decide
  have sorted : Settings.sortDefines given =
      [(text "MODE", text "a=b"), (text "OFF", []), (text "SIZE", text "--defines")] := by
    have apart : ∀ a ∈ given, ∀ b ∈ given, a.1 = b.1 → a = b := by decide
    exact (sortedBy_congr apart (by decide)).trans (List.mergeSort_of_pairwise (by decide))
  have told : x.told = ⟨.glsl, some .vertex, Settings.sortDefines given⟩ := rfl
  obtain ⟨m, n, h, k, made, made', _, alike, reads, apart⟩ := defines_are_sorted_and_told b x y
  obtain ⟨_, run, ran, ran'⟩ := alike same
  have starts : x.Starts run := .parsing (by rw [made]; exact ran)
  have starts' : y.Starts run := .parsing (by rw [made']; exact ran')
  refine ⟨same, separable, separable', ?_, run, starts, starts', ?_⟩
  · exact (apart separable separable' run run starts starts' rfl).1
  · rw [reads separable run starts, told, sorted]

end CrossShader.Naga
