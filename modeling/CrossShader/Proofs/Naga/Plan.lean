import CrossShader.Proofs.Conversion.Course
import CrossShader.Proofs.Naga.Run

/-!
The runs that a request fixes: they read one input file, tell the compiler the same of it and are
started in turn, each only after a clean end of the one before. The calls of a conversion are these
runs.
-/
namespace CrossShader.Naga
open Conversion Text

def inputEnding (r : Request) : Text :=
  match SourceDialect.resolve r.source with
  | .wgsl => text "wgsl"
  | .glsl => (Stage.resolve r.stage).suffix

def inputFile (r : Request) : Text := text "<tmp>/shader." ++ inputEnding r

def kindArguments (r : Request) : List Text :=
  match SourceDialect.resolve r.source with
  | .wgsl => [text "--input-kind", text "wgsl"]
  | .glsl =>
    [text "--input-kind", text "glsl", text "--shader-stage", (Stage.resolve r.stage).suffix]

def targetFlags : TargetDialect → List Text
  | .glsl => [text "--profile", text "core450", text "--entry-point", text "main"]
  | _ => []

def outputEnding (r : Request) : TargetDialect → Text
  | .hlsl => text "hlsl"
  | .wgsl => text "wgsl"
  | .msl => text "metal"
  | .glsl => (Stage.resolve r.stage).suffix

def outputFile (r : Request) (dialect : TargetDialect) : Text :=
  text "<tmp>/out." ++ outputEnding r dialect

def plannedRun (b : Settings) (r : Request) (flags outputs : List Text) : Run :=
  ⟨b.executable :: (kindArguments r ++ flags ++ inputFile r :: outputs), b.timeout, some r.prepared⟩

def parsingRun (b : Settings) (r : Request) : Run :=
  plannedRun b r [text "--validate", text "0"] []

def validatingRun (b : Settings) (r : Request) : Run := plannedRun b r [] []

def generatingRun (b : Settings) (r : Request) (dialect : TargetDialect) : Run :=
  plannedRun b r (targetFlags dialect) [outputFile r dialect]

def plannedRuns (b : Settings) (r : Request) : List Run :=
  parsingRun b r :: validatingRun b r ::
    (TargetDialect.all.filter (·.name == r.target)).map (generatingRun b r)

/-- The runs of a plan that are started: one that does not end clean is the last. -/
def startedRuns : List Run → List Ending → List Run
  | [], _ => []
  | run :: rest, endings =>
    run :: if (endings.headD (.exited .quiet)).clean then startedRuns rest endings.tail else []

/-- The runs of a whole conversion. There are none over a source without an encoding and none of an
executable that cannot be named; one that cannot be waited for is the only one. -/
def conversionRuns (b : Settings) (r : Request) (h : Host) : List Run :=
  if ¬ Encodable r.prepared ∨ h.launcher.commandFault? [b.executable] ≠ none then []
  else if h.launcher.timeoutFault? b.timeout ≠ none then [parsingRun b r]
  else startedRuns (plannedRuns b r) h.endings

theorem startedRuns_is_start (plan : List Run) (endings : List Ending) :
    startedRuns plan endings <+: plan := by
  induction plan generalizing endings with
  | nil => exact List.nil_prefix
  | cons run rest ih =>
    rw [startedRuns]
    split
    · exact (List.prefix_cons_inj run).mpr (ih endings.tail)
    · exact (List.prefix_cons_inj run).mpr List.nil_prefix

theorem started_after_clean (plan : List Run) (endings : List Ending) (k : Nat)
    (later : k + 1 < (startedRuns plan endings).length) :
    (endings.getD k (.exited .quiet)).clean = true := by
  induction plan generalizing endings k with
  | nil => simp [startedRuns] at later
  | cons run rest ih =>
    rw [startedRuns] at later
    by_cases clean : (endings.headD (.exited .quiet)).clean = true
    · simp only [clean, ↓reduceIte, List.length_cons, Nat.add_lt_add_iff_right] at later
      cases k with
      | zero => cases endings <;> exact clean
      | succ k =>
        have before := ih endings.tail k later
        cases endings <;> exact before
    · rw [if_neg clean] at later
      simp at later

theorem startedRuns_drop_cons (run : Run) (rest : List Run) (h : Host) (k : Nat) :
    startedRuns (run :: rest) (h.endings.drop k) =
      run :: if (h.foreseen k).clean then startedRuns rest (h.endings.drop (k + 1)) else [] := by
  have here : (h.endings.drop k).headD (.exited .quiet) = h.foreseen k := by
    rw [Host.foreseen, List.getD_eq_getElem?_getD, List.headD_eq_head?_getD, List.head?_drop]
  rw [startedRuns, here, List.tail_drop]

theorem plannedRuns_known (b : Settings) {r : Request} {dialect : TargetDialect}
    (known : dialect.name = r.target) :
    plannedRuns b r = [parsingRun b r, validatingRun b r, generatingRun b r dialect] := by
  rw [plannedRuns, ← known]
  cases dialect <;> rfl

theorem plannedRuns_unknown (b : Settings) {r : Request}
    (unknown : r.target ∉ targetNames) :
    plannedRuns b r = [parsingRun b r, validatingRun b r] := by
  have none_named : TargetDialect.all.filter (·.name == r.target) = [] := by
    apply List.filter_eq_nil_iff.mpr
    intro dialect _ same
    have eq : dialect.name = r.target := by simpa using same
    rw [← eq] at unknown
    exact unknown (name_mem_targetNames dialect)
  rw [plannedRuns, none_named]
  rfl

def program (r : Request) : Program :=
  ⟨r.prepared, (SourceDialect.resolve r.source).name, (Stage.resolve r.stage).name, []⟩

theorem stageSuffix_name (stage : Stage) : stageSuffix stage.name = .ok stage.suffix := by
  cases stage <;> rfl

theorem inputSuffix_program (r : Request) : (program r).inputSuffix = .ok (inputEnding r) := by
  rw [Program.inputSuffix, program, inputEnding]
  cases SourceDialect.resolve r.source with
  | wgsl => rfl
  | glsl => exact stageSuffix_name (Stage.resolve r.stage)

theorem arguments_program (r : Request) :
    (program r).arguments (inputEnding r) = kindArguments r := by
  rw [Program.arguments, program, inputEnding, kindArguments]
  cases SourceDialect.resolve r.source <;> rfl

theorem runOf_program (b : Settings) (r : Request) (flags : List Text) (output : Option Text) :
    b.runOf (program r) (inputEnding r) flags output =
      plannedRun b r flags (output.map fun s => text "<tmp>/out." ++ s).toList := by
  rw [Settings.runOf, arguments_program, plannedRun]
  rfl

theorem isPlain_targetFlags (dialect : TargetDialect) :
    ∀ flag ∈ targetFlags dialect, IsPlain flag := by
  cases dialect <;> decide

theorem isPlain_outputEnding (r : Request) (dialect : TargetDialect) :
    IsPlain (outputEnding r dialect) := by
  rw [outputEnding.eq_def]
  split
  case h_4 => exact isPlain_suffix _
  all_goals decide

theorem refused_planned {b : Settings} {l : Launcher} (r : Request) (flags outputs : List Text)
    {cause : Cause} (refused : l.commandFault? [b.executable] = some cause) :
    l.commandFault? (plannedRun b r flags outputs).command = some cause := by
  cases l with
  | standIn => simp [Launcher.commandFault?] at refused
  | system longestWait =>
    have first : wordFault? b.executable = some cause := by
      rw [← refused, Launcher.commandFault?, List.findSome?_cons]
      cases wordFault? b.executable <;> rfl
    rw [Launcher.commandFault?, plannedRun, List.findSome?_cons, first]

theorem runChecked_planned {b : Settings} (r : Request) {h : Host} (scalars : Encodable r.prepared)
    (named : h.launcher.commandFault? [b.executable] = none) (flags : List Text)
    (output : Option Text) (plainFlags : ∀ flag ∈ flags, IsPlain flag)
    (plainOutput : ∀ s ∈ output, IsPlain s) :
    ∃ h', h.Ran [plannedRun b r flags (output.map fun s => text "<tmp>/out." ++ s).toList] h' ∧
      b.runChecked (program r) flags output h = (h.verdict b, h') := by
  have handed := (b.handed_runOf_iff (inputSuffix_program r) flags output plainOutput).mpr
    ⟨Launcher.commandFault?_eq_none_iff.mp named,
      fun flag member => h.launcher.says_of_isPlain (plainFlags flag member)⟩
  rw [← runOf_program]
  exact b.runChecked_ran flags output h (inputSuffix_program r) scalars handed

theorem parseReply_library (b : Settings) (r : Request) (h : Host) :
    parseReply b.library r h =
      match b.runChecked (program r) [text "--validate", text "0"] none
          (h.note (startEntry r)) with
      | (.error fault, h) => (.error fault, h)
      | (.ok _, h) => (.ok (Settings.construct (program r) h).1,
          (Settings.construct (program r) h).2) := by
  have none_defined : Settings.sortDefines [] = [] := List.mergeSort_nil
  change b.parse r.prepared (SourceDialect.resolve r.source).name (Stage.resolve r.stage).name []
    (h.note (startEntry r)) = _
  rw [Settings.parse, none_defined]
  rfl

theorem validateReply_library (b : Settings) (m : Module) (h : Host) :
    validateReply b.library m h =
      match b.runChecked m.program [] none (h.note (entry .debug (text "parsed module"))) with
      | (.error fault, h) => (.error fault, h)
      | (.ok e, h) => (.ok ⟨m, strip (streamText e.stdout)⟩, h) := rfl

theorem generate_library (b : Settings) (r : Request) {m : Module} {i : Info}
    (dialect : TargetDialect) (h : Host) (paired : i.module = m) :
    b.library.generate m i (.ofDialect dialect)
        (.ofDialect (Stage.resolve r.stage).name dialect) h =
      match b.runChecked m.program (targetFlags dialect) (some (outputEnding r dialect)) h with
      | (.error fault, h) => (.error fault, h)
      | (.ok e, h) => (outputText (outputEnding r dialect) e.output, h) := by
  have flags : targetArguments (.ofDialect (Stage.resolve r.stage).name dialect)
      (.target (.ofDialect dialect)) = .ok (targetFlags dialect) := by
    cases dialect <;> rfl
  have ending : outputSuffix (.ofDialect (Stage.resolve r.stage).name dialect)
      (.target (.ofDialect dialect)) = .ok (outputEnding r dialect) := by
    cases dialect with
    | glsl => exact stageSuffix_name (Stage.resolve r.stage)
    | _ => rfl
  change b.generate m i (.target (.ofDialect dialect))
    (.ofDialect (Stage.resolve r.stage).name dialect) h = _
  rw [Settings.generate, flags, ending, paired]
  exact if_neg (not_not_intro rfl)

theorem parse_refuses (b : Settings) (r : Request) (h : Host) (flawed : ¬ Encodable r.prepared) :
    ∃ d, parseReply b.library r h = (.error (complaint d), h.note (startEntry r)) := by
  obtain ⟨d, refused⟩ := b.runChecked_not_started [text "--validate", text "0"] none
    (h.note (startEntry r)) (inputSuffix_program r) flawed
  refine ⟨d, ?_⟩
  rw [parseReply_library, refused]

theorem parse_unnamed (b : Settings) (r : Request) (h : Host) (scalars : Encodable r.prepared)
    {cause : Cause} (refused : h.launcher.commandFault? [b.executable] = some cause) :
    ∃ h', h.Ran [] h' ∧ parseReply b.library r h = (.error (.ofCause cause), h') := by
  have unhanded : h.launcher.commandFault? (b.runOf (program r) (inputEnding r)
      [text "--validate", text "0"] none).command = some cause := by
    rw [runOf_program]
    exact refused_planned r _ _ refused
  have checked := b.runChecked_refused [text "--validate", text "0"] none (h.note (startEntry r))
    (inputSuffix_program r) scalars unhanded
  exact ⟨_, ((Host.Ran.refl h).note _).note _, by rw [parseReply_library, checked]⟩

theorem parse_started (b : Settings) (r : Request) (h : Host) (scalars : Encodable r.prepared)
    (named : h.launcher.commandFault? [b.executable] = none) :
    ∃ h', h.Ran [parsingRun b r] h' ∧
      b.runChecked (program r) [text "--validate", text "0"] none (h.note (startEntry r)) =
        (h.verdict b, h') := by
  obtain ⟨h', ran, checked⟩ := runChecked_planned (b := b) r (h := h.note (startEntry r)) scalars
    named [text "--validate", text "0"] none (by decide) (by simp)
  exact ⟨h', ran.of_note, checked⟩

theorem parse_raises (b : Settings) (r : Request) (h : Host) (scalars : Encodable r.prepared)
    (named : h.launcher.commandFault? [b.executable] = none) {fault : Fault}
    (raised : h.verdict b = .error fault) :
    ∃ h', h.Ran [parsingRun b r] h' ∧ parseReply b.library r h = (.error fault, h') := by
  obtain ⟨h', ran, checked⟩ := parse_started b r h scalars named
  exact ⟨h', ran, by rw [parseReply_library, checked, raised]⟩

section
variable (b : Settings) (r : Request) {m : Module} {i : Info} {h : Host}
  (scalars : Encodable r.prepared) (serves : h.Serves b)
include scalars serves

theorem checked_fails (flags : List Text) (output : Option Text)
    (plainFlags : ∀ flag ∈ flags, IsPlain flag) (plainOutput : ∀ s ∈ output, IsPlain s)
    (failed : (h.foreseen 0).clean = false) :
    ∃ c h', h.Ran [plannedRun b r flags (output.map fun s => text "<tmp>/out." ++ s).toList] h' ∧
      b.runChecked (program r) flags output h = (.error (.ofConversion c), h') := by
  obtain ⟨h', ran, checked⟩ :=
    runChecked_planned r scalars serves.named flags output plainFlags plainOutput
  obtain ⟨c, refused⟩ := Ending.verdict_of_not_clean b failed
  exact ⟨c, h', ran, by rw [checked, Host.verdict_of_awaited serves.awaited, refused]⟩

theorem checked_passes (flags : List Text) (output : Option Text)
    (plainFlags : ∀ flag ∈ flags, IsPlain flag) (plainOutput : ∀ s ∈ output, IsPlain s)
    (clean : (h.foreseen 0).clean = true) :
    ∃ e h', h.foreseen 0 = .exited e ∧
      h.Ran [plannedRun b r flags (output.map fun s => text "<tmp>/out." ++ s).toList] h' ∧
      b.runChecked (program r) flags output h = (.ok e, h') := by
  obtain ⟨h', ran, checked⟩ :=
    runChecked_planned r scalars serves.named flags output plainFlags plainOutput
  obtain ⟨e, exited, passed⟩ := Ending.verdict_of_clean b clean
  exact ⟨e, h', exited, ran, by rw [checked, Host.verdict_of_awaited serves.awaited, passed]⟩

theorem parse_fails (failed : (h.foreseen 0).clean = false) :
    ∃ c h', h.Ran [parsingRun b r] h' ∧
      parseReply b.library r h = (.error (.ofConversion c), h') := by
  obtain ⟨c, refused⟩ := Ending.verdict_of_not_clean b failed
  obtain ⟨h', ran, parsed⟩ := parse_raises b r h scalars serves.named
    ((Host.verdict_of_awaited serves.awaited).trans refused)
  exact ⟨c, h', ran, parsed⟩

theorem parse_succeeds (clean : (h.foreseen 0).clean = true) :
    ∃ m h', h.Ran [parsingRun b r] h' ∧ m.program = program r ∧
      parseReply b.library r h = (.ok m, h') := by
  obtain ⟨e, _, passed⟩ := Ending.verdict_of_clean b clean
  obtain ⟨h', ran, checked⟩ := parse_started b r h scalars serves.named
  rw [Host.verdict_of_awaited serves.awaited, passed] at checked
  exact ⟨(Settings.construct (program r) h').1, (Settings.construct (program r) h').2,
    ⟨ran.endings, ran.runs, ran.launcher⟩, rfl, by rw [parseReply_library, checked]⟩

theorem validate_fails (made : m.program = program r) (failed : (h.foreseen 0).clean = false) :
    ∃ c h', h.Ran [validatingRun b r] h' ∧
      validateReply b.library m h = (.error (.ofConversion c), h') := by
  obtain ⟨c, h', ran, checked⟩ := checked_fails b r
    (h := h.note (entry .debug (text "parsed module"))) scalars ⟨serves.named, serves.awaited⟩
    [] none (by simp) (by simp) failed
  exact ⟨c, h', ran.of_note, by rw [validateReply_library, made, checked]⟩

theorem validate_succeeds (made : m.program = program r) (clean : (h.foreseen 0).clean = true) :
    ∃ i h', h.Ran [validatingRun b r] h' ∧ i.module = m ∧
      validateReply b.library m h = (.ok i, h') := by
  obtain ⟨e, h', _, ran, checked⟩ := checked_passes b r
    (h := h.note (entry .debug (text "parsed module"))) scalars ⟨serves.named, serves.awaited⟩
    [] none (by simp) (by simp) clean
  exact ⟨⟨m, strip (streamText e.stdout)⟩, h', ran.of_note, rfl,
    by rw [validateReply_library, made, checked]⟩

theorem generate_fails (dialect : TargetDialect) (made : m.program = program r)
    (paired : i.module = m) (failed : (h.foreseen 0).clean = false) :
    ∃ c h', h.Ran [generatingRun b r dialect] h' ∧
      b.library.generate m i (.ofDialect dialect)
          (.ofDialect (Stage.resolve r.stage).name dialect) h =
        (.error (.ofConversion c), h') := by
  obtain ⟨c, h', ran, checked⟩ := checked_fails b r scalars serves (targetFlags dialect)
    (some (outputEnding r dialect)) (isPlain_targetFlags dialect)
    (by simpa using isPlain_outputEnding r dialect) failed
  exact ⟨c, h', ran, by rw [generate_library b r dialect h paired, made, checked]⟩

theorem generate_ends (dialect : TargetDialect) (made : m.program = program r)
    (paired : i.module = m) (clean : (h.foreseen 0).clean = true) :
    ∃ h', h.Ran [generatingRun b r dialect] h' ∧
      b.library.generate m i (.ofDialect dialect)
          (.ofDialect (Stage.resolve r.stage).name dialect) h =
        (outputText (outputEnding r dialect) (h.foreseen 0).file?, h') := by
  obtain ⟨e, h', exited, ran, checked⟩ := checked_passes b r scalars serves (targetFlags dialect)
    (some (outputEnding r dialect)) (isPlain_targetFlags dialect)
    (by simpa using isPlain_outputEnding r dialect) clean
  refine ⟨h', ran, ?_⟩
  rw [generate_library b r dialect h paired, made, checked, exited]
  rfl

end

end CrossShader.Naga
