import CrossShader.CommandLine.Invocation
import CrossShader.Proofs.Arguments.Clustered

/-!
Words that make a command. The source of such a command is a file that can be read, and the words of
the legacy command ask for what `convert --from glsl` is asked for by the same words.
-/
namespace CrossShader.CommandLine
open Text Arguments

namespace Command

def order? : Command → Option ConvertOrder
  | convert order => some order
  | legacy order => some order
  | _ => none

def file? : Command → Option Path
  | convert order => some order.file
  | legacy order => some order.file
  | normalize file _ => some file
  | _ => none

end Command

namespace Invocation
section
variable {fs : Files} {words left : List Text} {verb : Verb} {choices : List Choice}
  {command : Command}

theorem scanOr_eq_ok {switches : List Switch} {mixed : Bool} :
    scanOr switches mixed words = .ok (choices, left) ↔
      Reads switches mixed words choices left := by
  rw [scanOr]
  constructor
  · intro read
    cases scanned : scan switches mixed words with
    | error refusal => simp [scanned, Except.mapError] at read
    | ok parts =>
      rw [scanned] at read
      exact reads_of_scan (scanned.trans (congrArg Except.ok (Except.ok.inj read)))
  · intro reads
    rw [scan_of_reads reads]
    rfl

theorem find_verb {name : Text} :
    (Verb.all.find? fun v => v.name == name) = some verb ↔ verb.name = name := by
  constructor
  · intro found
    simpa using List.find?_some found
  · rintro rfl
    cases verb <;> decide

theorem ofWords_eq_ok {i : Invocation} : ofWords fs words = .ok i ↔
    ∃ top verb rest choices left, Reads topSwitches false words top (verb.name :: rest) ∧
      Reads verb.switches true rest choices left ∧
      commandOf fs verb choices left = .ok i.command ∧
      top.any (·.switch == debugSwitch) = i.debug := by
  rw [ofWords, bind_eq_ok]
  constructor
  · rintro ⟨⟨top, _ | ⟨name, rest⟩⟩, opened, made⟩
    · simp at made
    · dsimp only at made
      split at made
      case h_1 => simp at made
      case h_2 verb found =>
        obtain ⟨⟨choices, left⟩, chosen, made⟩ := bind_eq_ok.mp made
        obtain ⟨command, ordered, made⟩ := bind_eq_ok.mp made
        obtain rfl := Except.ok.inj made
        rw [scanOr_eq_ok, ← find_verb.mp found] at opened
        exact ⟨top, verb, rest, choices, left, opened, scanOr_eq_ok.mp chosen, ordered, rfl⟩
  · rintro ⟨top, verb, rest, choices, left, opened, chosen, ordered, debugging⟩
    refine ⟨(top, verb.name :: rest), scanOr_eq_ok.mpr opened, ?_⟩
    dsimp only
    rw [find_verb.mpr rfl]
    refine bind_eq_ok.mpr ⟨(choices, left), scanOr_eq_ok.mpr chosen,
      bind_eq_ok.mpr ⟨i.command, ordered, ?_⟩⟩
    rw [debugging]

theorem refuseExtra_eq_ok {made : Command} :
    refuseExtra made words = .ok command ↔ words = [] ∧ made = command := by
  cases words <;> simp [refuseExtra]

theorem commandOf_eq_ok (takes : verb.takesFile = true) :
    commandOf fs verb choices left = .ok command ↔
      ∃ given output file, left = [given] ∧ checkOutput choices = .ok output ∧
        checkFile fs given = .ok file ∧ fileCommand verb file output choices = .ok command := by
  rw [commandOf, if_pos takes, bind_eq_ok]
  constructor
  · rintro ⟨output, checked, made⟩
    cases left with
    | nil => simp at made
    | cons given extra =>
      obtain ⟨file, found, made⟩ := bind_eq_ok.mp made
      obtain ⟨command, ordered, made⟩ := bind_eq_ok.mp made
      obtain ⟨rfl, rfl⟩ := refuseExtra_eq_ok.mp made
      exact ⟨given, output, file, rfl, checked, found, ordered⟩
  · rintro ⟨given, output, file, rfl, checked, found, ordered⟩
    refine ⟨output, checked, bind_eq_ok.mpr ⟨file, found, bind_eq_ok.mpr ⟨command, ordered, rfl⟩⟩⟩

theorem takesFile_of_file {file : Path} (ordered : commandOf fs verb choices left = .ok command)
    (named : command.file? = some file) : verb.takesFile = true := by
  by_contra without
  rw [commandOf, if_neg without] at ordered
  split at ordered <;>
  · obtain ⟨_, rfl⟩ := refuseExtra_eq_ok.mp ordered
    simp [Command.file?] at named

theorem read_of_checkFile {given : Text} {p : Path} (found : checkFile fs given = .ok p) :
    ∃ content, fs.read p = .ok content := by
  rw [checkFile] at found
  obtain ⟨_, _, located⟩ := bind_eq_ok.mp found
  split at located
  case h_1 place content leads =>
    obtain rfl := Except.ok.inj located
    exact ⟨content, by rw [Files.read, leads]⟩
  all_goals simp at located

theorem file_of_fileCommand {file source : Path} {output : Option Path}
    (ordered : fileCommand verb file output choices = .ok command)
    (named : command.file? = some source) : file = source := by
  rw [fileCommand.eq_def] at ordered
  split at ordered
  case h_1 =>
    obtain rfl := Except.ok.inj ordered
    exact Option.some.inj named
  case h_2 =>
    split at ordered
    · simp at ordered
    · obtain rfl := Except.ok.inj ordered
      split at named <;> exact Option.some.inj named

theorem source_is_read {debug : Bool} {file : Path}
    (accepted : ofWords fs words = .ok ⟨debug, command⟩) (named : command.file? = some file) :
    ∃ content, fs.read file = .ok content := by
  obtain ⟨top, verb, rest, choices, left, _, _, ordered, _⟩ := ofWords_eq_ok.mp accepted
  obtain ⟨given, output, source, _, _, found, made⟩ :=
    (commandOf_eq_ok (takesFile_of_file ordered named)).mp ordered
  obtain rfl := file_of_fileCommand made named
  exact read_of_checkFile found

end

section
variable {fs : Files} {words left : List Text} {verb : Verb} {choices : List Choice}
  {order : ConvertOrder}

theorem legacy_of_commandOf (ordered : commandOf fs verb choices left = .ok (.legacy order)) :
    verb = .legacy := by
  obtain ⟨given, output, file, _, _, _, made⟩ :=
    (commandOf_eq_ok (takesFile_of_file ordered rfl)).mp ordered
  cases verb with
  | legacy => rfl
  | normalize => simp [fileCommand] at made
  | _ =>
    rw [fileCommand] at made
    · split at made <;> simp at made
    · simp

theorem convert_widens_legacy : Widens Verb.legacy.switches Verb.convert.switches := by
  intro name s found
  by_cases asked : sourceSwitch.names.contains name = true
  · have unknown : named? Verb.legacy.switches name = none := by
      simp only [sourceSwitch, List.contains_iff_mem, List.mem_cons, List.not_mem_nil,
        or_false] at asked
      rcases asked with rfl | rfl <;> decide
    simp [unknown] at found
  · have same : named? Verb.convert.switches name = named? Verb.legacy.switches name := by
      simp only [named?, Verb.switches, List.find?_cons, asked]
    rw [same, found]

theorem source_not_chosen {rest : List Text}
    (reads : Reads Verb.legacy.switches true rest choices left) :
    ∀ c ∈ choices, c.switch ≠ sourceSwitch := by
  intro c listed eq
  have offered := reads.offered c listed
  rw [eq] at offered
  exact absurd offered (by decide)

theorem from_glsl_reads {rest : List Text}
    (reads : Reads Verb.legacy.switches true rest choices left) :
    Reads Verb.convert.switches true (text "--from" :: text "glsl" :: rest)
      (⟨sourceSwitch, some (text "glsl")⟩ :: choices) left := by
  have chose : choose Verb.convert.switches (text "--from") =
      .ok ([], some (sourceSwitch, text "--from")) := by decide
  exact .valued (by decide) (by decide) chose (reads.widened convert_widens_legacy)

theorem order_from_glsl (absent : ∀ c ∈ choices, c.switch ≠ sourceSwitch)
    (ordered : commandOf fs .legacy choices left = .ok (.legacy order)) :
    commandOf fs .convert (⟨sourceSwitch, some (text "glsl")⟩ :: choices) left =
      .ok (.convert order) := by
  obtain ⟨given, output, file, rfl, checked, found, made⟩ := (commandOf_eq_ok rfl).mp ordered
  have other {s : Switch} (apart : sourceSwitch ≠ s) :
      lastValue? s (⟨sourceSwitch, some (text "glsl")⟩ :: choices) = lastValue? s choices :=
    lastValue?_cons_other apart
  refine (commandOf_eq_ok rfl).mpr ⟨given, output, file, rfl, ?_, found, ?_⟩
  · rwa [checkOutput, other (by decide), ← checkOutput]
  · have same (target : Text) : orderOf file output
        (⟨sourceSwitch, some (text "glsl")⟩ :: choices) target =
          orderOf file output choices target := by
      simp only [orderOf, stageOf, lastValue?_alone absent, lastValue?_absent absent,
        other (s := stageSwitch) (by decide), other (s := nagaSwitch) (by decide)]
      rfl
    rw [fileCommand.eq_def] at made ⊢
    dsimp only at made ⊢
    rw [other (by decide)]
    split at made
    case h_1 => simp at made
    case h_2 target _ =>
      rw [same]
      have eq := Except.ok.inj made
      rw [if_pos rfl] at eq
      rw [if_neg (by decide), Command.legacy.inj eq]

theorem legacy_words {debug : Bool} (accepted : ofWords fs words = .ok ⟨debug, .legacy order⟩) :
    ∃ before rest, words = before ++ text "legacy" :: rest ∧
      ofWords fs (before ++ text "convert" :: text "--from" :: text "glsl" :: rest) =
        .ok ⟨debug, .convert order⟩ := by
  obtain ⟨top, verb, rest, choices, left, opened, chosen, ordered, debugging⟩ :=
    ofWords_eq_ok.mp accepted
  obtain rfl := legacy_of_commandOf ordered
  obtain ⟨before, rfl, stops⟩ := opened.stops
  exact ⟨before, rest, rfl, ofWords_eq_ok.mpr ⟨top, .convert, _, _, left,
    stops (text "convert") _ (by decide), from_glsl_reads chosen,
    order_from_glsl (source_not_chosen chosen) ordered, debugging⟩⟩

end
end Invocation
end CrossShader.CommandLine
