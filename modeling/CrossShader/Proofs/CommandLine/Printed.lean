import CrossShader.Proofs.CommandLine.Exits

/-!
The normalized source in the two places where a user meets it. What `normalize` prints is what every
run of a conversion receives, less control sequences, and a conversion whose first run fails shows
the printed text again at the end of its message.
-/
namespace CrossShader.CommandLine
open Text Naga

section
variable {w : World} {i : Invocation} {order : ConvertOrder} {c : Conclusion} {host : Host}
  {code : Text}

theorem prepared_of_order (glsl : order.source ≠ text "wgsl") (code : Text) :
    SourceDialect.resolve order.source = .glsl ∧ (order.request code).prepared =
      Normal.normalize (Stage.resolve order.stage).name code := by
  have resolved : SourceDialect.resolve (order.request code).source = .glsl := if_neg glsl
  exact ⟨resolved, prepared_of_glsl resolved⟩

theorem Reaches.runs (reaches : Reaches w order c host)
    (read : w.files.readText order.file = .ok code) :
    ∃ started, host.runs = w.host.runs ++ started ∧
      ∀ run ∈ started, run.input = some (order.request code).prepared := by
  have ran {b : Settings} {code' : Text} {answer : Except Fault Outcome}
      (again : w.files.readText order.file = .ok code')
      (converted : Conversion.convert b.library (order.request code') w.host = (answer, host)) :
      ∃ started, host.runs = w.host.runs ++ started ∧
        ∀ run ∈ started, run.input = some (order.request code).prepared := by
    rw [read] at again
    obtain rfl := Except.ok.inj again
    obtain ⟨_, _, _, runs⟩ := conversion_ends b (order.request code) w.host
    rw [converted] at runs
    exact ⟨_, runs, fun run started => input_of_conversionRuns started⟩
  cases reaches with
  | broken _ _ again _ broke => exact ran again broke
  | answered _ _ again answer => exact ran again answer
  | _ => exact ⟨[], (List.append_nil _).symm, by simp⟩

theorem perform_runs (asked : i.command.order? = some order)
    (read : w.files.readText order.file = .ok code) :
    ∃ started, (perform i w).host.runs = w.host.runs ++ started ∧
      ∀ run ∈ started, run.input = some (order.request code).prepared := by
  obtain ⟨c, host, reaches⟩ := reaches_exists w order
  obtain ⟨log, reported⟩ := perform_of_reaches asked reaches
  rw [reported, report_host]
  exact reaches.runs read

theorem fit_of_runs (asked : i.command.order? = some order)
    (read : w.files.readText order.file = .ok code)
    (started : (perform i w).host.runs ≠ w.host.runs) :
    ∃ b, settingsFor order.naga w.env = .ok b ∧ b.executable ∈ w.tools ∧
      conversionRuns b (order.request code) w.host ≠ [] := by
  obtain ⟨c, host, reaches⟩ := reaches_exists w order
  obtain ⟨log, reported⟩ := perform_of_reaches asked reaches
  rw [reported, report_host] at started
  obtain ⟨b, code', configured, equipped, read', ran⟩ := reaches.fit started
  rw [read] at read'
  obtain rfl := Except.ok.inj read'
  exact ⟨b, configured, equipped, ran⟩

theorem shown_ending (start : Text) {mark source : Text} (plain : escapeCharacter ∉ mark)
    (spelled : Encodable mark) (scalars : Encodable source) :
    spellSurrogates (dropStyles (start ++ newline :: (mark ++ (source ++ [newline])))) =
      spellSurrogates (dropStyles start) ++
        newline :: (mark ++ (dropStyles source ++ [newline])) := by
  have shown : Encodable (newline :: (mark ++ (dropStyles source ++ [newline]))) :=
    List.forall_mem_cons.mpr ⟨rfl, encodable_append.mpr ⟨spelled,
      encodable_append.mpr ⟨encodable_dropStyles scalars, by decide⟩⟩⟩
  rw [dropStyles_append_newline, dropStyles_plain_append plain, dropStyles_concat_newline,
    spellSurrogates_append, spellSurrogates_of_encodable shown]

theorem repeated_source (d : Text) {source : Text} (scalars : Encodable source) :
    ∃ before, spellSurrogates (dropStyles (text "✗ Conversion failed:\n" ++
        (text "GLSL Parse Error: " ++ d ++ text "\n\nNormalized source:\n" ++ source) ++
        text "\n")) =
      before ++ text "\nNormalized source:\n" ++ dropStyles source ++ text "\n" := by
  have marked : text "\n\nNormalized source:\n" =
      text "\n" ++ newline :: text "Normalized source:\n" := by decide
  obtain ⟨start, cut⟩ : ∃ start, text "✗ Conversion failed:\n" ++
        (text "GLSL Parse Error: " ++ d ++ text "\n\nNormalized source:\n" ++ source) ++ text "\n" =
      start ++ newline :: (text "Normalized source:\n" ++ (source ++ [newline])) := by
    refine ⟨text "✗ Conversion failed:\n" ++ (text "GLSL Parse Error: " ++ (d ++ text "\n")), ?_⟩
    rw [marked]
    simp only [List.append_assoc, List.cons_append]
    rfl
  refine ⟨spellSurrogates (dropStyles start), ?_⟩
  rw [cut, shown_ending start (by decide) (encodable_text _) scalars]
  simp only [List.append_assoc]
  rfl

/-- The first run of a conversion can be waited for, if the settings allow it at all. -/
def Awaited (w : World) (order : ConvertOrder) : Prop :=
  ∀ b, settingsFor order.naga w.env = .ok b → w.host.launcher.Awaits b.timeout

theorem perform_complaint (asked : i.command.order? = some order)
    (read : w.files.readText order.file = .ok code) (glsl : order.source ≠ text "wgsl")
    (started : (perform i w).host.runs ≠ w.host.runs) (awaited : Awaited w order)
    (complains : (w.host.foreseen 0).Complains) :
    ∃ before, (perform i w).stderr = before ++ text "\nNormalized source:\n" ++
      dropStyles (Normal.normalize (Stage.resolve order.stage).name code) ++ text "\n" := by
  obtain ⟨resolved, prepared⟩ := prepared_of_order glsl code
  have scalars : Encodable (order.request code).prepared :=
    Request.encodable_prepared (encodable_readText read)
  obtain ⟨b, configured, equipped, ran⟩ := fit_of_runs asked read started
  have serves : w.host.Serves b := ⟨named_of_conversionRuns ran,
    Launcher.timeoutFault?_eq_none_iff.mpr (awaited b configured)⟩
  obtain ⟨d, failed⟩ := convert_of_complaint scalars serves resolved complains
  obtain ⟨log, reported⟩ := perform_of_reaches asked
    (.answered configured equipped read (Prod.ext failed rfl))
  obtain ⟨before, shown⟩ := repeated_source d scalars
  refine ⟨log ++ before, ?_⟩
  rw [reported, ← prepared]
  change log ++ spellSurrogates (dropStyles _) = _
  rw [shown]
  simp only [List.append_assoc]

theorem normalize_plain (stage : Text) (plain : escapeCharacter ∉ code) :
    escapeCharacter ∉ Normal.normalize stage code := by
  intro member
  rcases Normal.mem_normalize member with inText | ended | ⟨low, _⟩
  · exact plain inText
  · exact absurd ended (by decide)
  · exact absurd low (by decide)

end

/-- What `normalize` prints next to what a conversion of the same source for the same stage hands to
the compiler and, if its first run fails, shows. -/
theorem normalize_prints_what_runs_receive {w : World} {words others : List Text} {debug : Bool}
    {j : Invocation} {order : ConvertOrder} {code : Text}
    (accepted : Invocation.ofWords w.files words = .ok ⟨debug, .normalize order.file order.stage⟩)
    (converted : Invocation.ofWords w.files others = .ok j)
    (asked : j.command.order? = some order) (glsl : order.source ≠ text "wgsl")
    (read : w.files.readText order.file = .ok code) :
    ∃ received printed started,
      received = Normal.normalize (Stage.resolve order.stage).name code ∧
      (run others w).host.runs = w.host.runs ++ started ∧
      (∀ run ∈ started, run.input = some received) ∧
      (run words w).stdout = printed ++ text "\n" ∧
      printed = dropStyles received ∧ (printed = received ↔ ¬ Styled received) ∧
      (escapeCharacter ∉ code → printed = received) ∧
      (started ≠ [] → Awaited w order → (w.host.foreseen 0).Complains →
        ∃ before, (run others w).stderr =
          before ++ text "\nNormalized source:\n" ++ printed ++ text "\n") := by
  rw [run_of_accepted accepted, run_of_accepted converted, perform_normalize debug _ read]
  obtain ⟨started, runs, inputs⟩ := perform_runs asked read
  rw [(prepared_of_order glsl code).2] at inputs
  refine ⟨_, _, started, rfl, runs, inputs, rfl, rfl, dropStyles_eq_self_iff,
    fun plain => dropStyles_eq_self_iff.mpr (not_styled_of_plain (normalize_plain _ plain)), ?_⟩
  intro ran awaited complains
  refine perform_complaint asked read glsl ?_ awaited complains
  rw [runs]
  simpa using ran

def worldRefusing (source : Bytes) : World where
  files := .ofList [(text "a.frag", some source)]
  host := .openingOn .posix [.exited ⟨1, [], [0x6E, 0x6F], none⟩]
  env := []
  tools := [text "naga"]

def wordsToPrint : List Text := [text "normalize", text "a.frag"]

def wordsToConvert : List Text := [text "convert", text "a.frag", text "-t", text "hlsl"]

def orderToConvert : ConvertOrder :=
  ⟨.tidy (text "a.frag"), text "glsl", text "hlsl", text "fragment", none, none⟩

theorem plain_source_is_shown_alike :
    ∃ before printed, (run wordsToPrint (worldRefusing [0x78])).stdout = printed ++ text "\n" ∧
      (run wordsToConvert (worldRefusing [0x78])).stderr =
        before ++ text "\nNormalized source:\n" ++ printed ++ text "\n" := by
  have accepted : Invocation.ofWords (worldRefusing [0x78]).files wordsToPrint =
      .ok ⟨false, .normalize orderToConvert.file orderToConvert.stage⟩ := by decide
  have converted : Invocation.ofWords (worldRefusing [0x78]).files wordsToConvert =
      .ok ⟨false, .convert orderToConvert⟩ := by decide
  have read : (worldRefusing [0x78]).files.readText orderToConvert.file = .ok (text "x") := by
    decide +kernel
  obtain ⟨_, printed, started, _, runs, _, shown, _, _, _, repeats⟩ :=
    normalize_prints_what_runs_receive accepted converted rfl (by decide) read
  have ran : started ≠ [] := by
    rintro rfl
    have count := congrArg List.length runs
    exact absurd count (by decide +kernel)
  have awaited : Awaited (worldRefusing [0x78]) orderToConvert := by
    intro b configured
    have defaults : settingsFor none [] = .ok ⟨text "naga", .ofInt 30⟩ := by decide
    obtain rfl := Except.ok.inj (defaults.symm.trans configured)
    exact Launcher.timeoutFault?_eq_none_iff.mp (by decide)
  obtain ⟨before, ends⟩ := repeats ran awaited (.inr ⟨_, rfl, by decide⟩)
  exact ⟨before, printed, shown, ends⟩

/-- A reset of the terminal's colours in the source reaches the compiler and is not printed. -/
theorem styled_source_is_cut :
    ¬ ∀ r ∈ (run wordsToConvert (worldRefusing [27, 91, 48, 109])).host.runs,
      r.input.map (· ++ text "\n") =
        some (run wordsToPrint (worldRefusing [27, 91, 48, 109])).stdout := by
  decide +kernel

end CrossShader.CommandLine
