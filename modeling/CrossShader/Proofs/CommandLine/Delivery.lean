import CrossShader.Proofs.CommandLine.Conversion

/-!
Where the output of a conversion goes. A conversion that fails leaves standard output and the files
alone. The output of one that succeeds goes to the file that is named for it or to standard output,
to the file as it is and to the stream without its control sequences.
-/
namespace CrossShader.CommandLine
open Text Naga

theorem run_of_accepted {words : List Text} {w : World} {i : Invocation}
    (accepted : Invocation.ofWords w.files words = .ok i) : run words w = perform i w := by
  rw [run, accepted]

def Report.silenced (r : Report) : Report := { r with stderr := [] }

section
variable {w : World} {i : Invocation} {order : ConvertOrder} {output : Text} {host : Host}

theorem perform_unconverted {c : Conclusion} (asked : i.command.order? = some order)
    (reaches : Reaches w order c host) (fails : ∀ output host, ¬ Converts w order output host) :
    ∃ log, Failing ((Report.opening w).after log host) (perform i w) := by
  obtain ⟨log, reported⟩ := perform_of_reaches asked reaches
  refine ⟨log, ?_⟩
  rw [reported]
  exact report_failing i.debug _ reaches (reaches.unconverted fails)

theorem perform_converted (asked : i.command.order? = some order)
    (converts : Converts w order output host) :
    ∃ log, perform i w = deliver order output ((Report.opening w).after log host) :=
  perform_of_reaches asked converts.reaches

theorem perform_to_stream (asked : i.command.order? = some order)
    (converts : Converts w order output host) (unnamed : order.output = none) :
    ∃ log, perform i w = ⟨.whole 0, dropStyles output, log, none, w.files, host⟩ := by
  obtain ⟨log, reported⟩ := perform_converted asked converts
  exact ⟨log, reported.trans (deliver_to_stream unnamed converts.encodable _)⟩

theorem perform_to_file {p : Path} (asked : i.command.order? = some order)
    (converts : Converts w order output host) (named : order.output = some p)
    (writable : w.files.Writable p) :
    ∃ log bytes fs, Utf8.encode output = .ok bytes ∧ w.files.Received p bytes fs ∧
      perform i w = ⟨.whole 0, [], log, none, fs, host⟩ := by
  obtain ⟨log, reported⟩ := perform_converted asked converts
  have encoded := Utf8.encode_of_encodable converts.encodable
  obtain ⟨fs, note, received, delivered⟩ := deliver_to_file
    (r := (Report.opening w).after log host) named encoded writable
  exact ⟨log ++ note, _, fs, encoded, received, reported.trans delivered⟩

theorem report_after (debug : Bool) (order : ConvertOrder) (c : Conclusion) (log : Text)
    (host : Host) (r : Report) :
    (c.report debug order (r.after log host)).silenced =
      { (c.report debug order r).silenced with host := host } := by
  cases c with
  | faulted f => rfl
  | unequipped executable => rfl
  | answered o =>
    cases o with
    | failed error => rfl
    | converted output =>
      rw [Conclusion.report, Conclusion.report, finish, finish, deliver, deliver]
      cases order.output with
      | none =>
        dsimp only
        rw [Report.say, Report.say]
        split <;> rfl
      | some p =>
        dsimp only [Report.after]
        split <;> rfl

theorem report_host (debug : Bool) (order : ConvertOrder) (c : Conclusion) (log : Text)
    (host : Host) (r : Report) : (c.report debug order (r.after log host)).host = host :=
  congrArg Report.host (report_after debug order c log host r)

theorem perform_silenced {j : Invocation} (debugging : i.debug = j.debug)
    (asked : i.command.order? = some order) (again : j.command.order? = some order) :
    (perform i w).silenced = (perform j w).silenced := by
  obtain ⟨c, host, reaches⟩ := reaches_exists w order
  obtain ⟨log, reported⟩ := perform_of_reaches asked reaches
  obtain ⟨other, repeated⟩ := perform_of_reaches again reaches
  rw [reported, repeated, debugging, report_after, report_after]

end

section
variable {words : List Text} {w : World} {i : Invocation} {order : ConvertOrder}

theorem legacy_run_silenced (accepted : Invocation.ofWords w.files words = .ok i)
    (legacy : i.command = .legacy order) :
    ∃ before rest, words = before ++ text "legacy" :: rest ∧
      (run words w).silenced =
        (run (before ++ text "convert" :: text "--from" :: text "glsl" :: rest) w).silenced := by
  obtain ⟨debug, command⟩ := i
  obtain rfl : command = .legacy order := legacy
  obtain ⟨before, rest, split, converted⟩ := Invocation.legacy_words accepted
  have asked : (Command.legacy order).order? = some order := rfl
  refine ⟨before, rest, split, ?_⟩
  rw [run_of_accepted accepted, run_of_accepted converted]
  exact perform_silenced rfl asked rfl

/-- What the two commands that convert leave behind. The legacy command differs from `convert` in
its error stream alone. -/
theorem conversions_reach_one_destination
    (accepted : Invocation.ofWords w.files words = .ok i)
    (asked : i.command.order? = some order) :
    ((∀ output host, ¬ Converts w order output host) →
      (∃ n : Int, 0 < n ∧ (run words w).exit = .whole n) ∧ (run words w).stdout = [] ∧
        (run words w).files = w.files) ∧
    (Unfit w order →
      (∀ output host, ¬ Converts w order output host) ∧ (run words w).host = w.host) ∧
    (∀ output host, Converts w order output host → order.output = none →
      (run words w).exit = .whole 0 ∧ (run words w).files = w.files ∧
        (run words w).stdout = dropStyles output ∧
        ((run words w).stdout = output ↔ ¬ Styled output)) ∧
    (∀ output host p, Converts w order output host → order.output = some p →
      w.files.Writable p →
      (run words w).exit = .whole 0 ∧ (run words w).stdout = [] ∧
        ∃ bytes, Utf8.encode output = .ok bytes ∧
          w.files.Received p bytes (run words w).files) ∧
    (i.command = .legacy order → ∃ before rest, words = before ++ text "legacy" :: rest ∧
      (run words w).silenced =
        (run (before ++ text "convert" :: text "--from" :: text "glsl" :: rest) w).silenced) := by
  refine ⟨?_, ?_, ?_, ?_, legacy_run_silenced accepted⟩ <;> rw [run_of_accepted accepted]
  · intro fails
    obtain ⟨c, host, reaches⟩ := reaches_exists w order
    obtain ⟨log, failing⟩ := perform_unconverted asked reaches fails
    exact ⟨failing.status, failing.stdout, failing.files⟩
  · intro unfit
    have fails := not_converts_of_unfit unfit
    obtain ⟨c, host, reaches⟩ := reaches_exists w order
    obtain ⟨log, failing⟩ := perform_unconverted asked reaches fails
    exact ⟨fails, failing.host.trans (reaches.unstarted unfit)⟩
  · intro output host converts unnamed
    obtain ⟨log, reported⟩ := perform_to_stream asked converts unnamed
    rw [reported]
    exact ⟨rfl, rfl, rfl, dropStyles_eq_self_iff⟩
  · intro output host p converts named writable
    obtain ⟨log, bytes, fs, encoded, received, reported⟩ :=
      perform_to_file asked converts named writable
    rw [reported]
    exact ⟨rfl, rfl, bytes, encoded, received⟩

end

def worldWriting (bytes : Bytes) : World where
  files := .ofList [(text "a.wgsl", some [0x78])]
  host := .openingOn .posix
    [.exited .quiet, .exited .quiet, .exited ⟨0, [], [], some bytes⟩]
  env := []
  tools := [text "naga"]

def wordsToHlsl : List Text :=
  [text "convert", text "a.wgsl", text "-f", text "wgsl", text "-t", text "hlsl"]

def orderToHlsl (output : Option Path) : ConvertOrder :=
  ⟨.tidy (text "a.wgsl"), text "wgsl", text "hlsl", text "fragment", output, none⟩

def requestToHlsl : Request := ⟨text "x", text "wgsl", text "hlsl", text "fragment"⟩

theorem worldWriting_converts (bytes : Bytes) (t : Text)
    (answer : (Conversion.convert (Settings.library ⟨text "naga", .ofInt 30⟩) requestToHlsl
      (worldWriting bytes).host).1 = .ok (.converted t)) (output : Option Path) :
    ∃ host, Converts (worldWriting bytes) (orderToHlsl output) t host := by
  have configured : settingsFor none [] = .ok ⟨text "naga", .ofInt 30⟩ := by decide
  have read : (Files.ofList [(text "a.wgsl", some [0x78])]).readText (.tidy (text "a.wgsl")) =
      .ok (text "x") := by decide +kernel
  exact ⟨_, _, _, configured, List.mem_cons_self, read, Prod.ext answer rfl⟩

/-- Once to the stream, and once to a file in a directory that is made for it. -/
theorem plain_output_is_delivered :
    (run wordsToHlsl (worldWriting [0x79])).stdout = text "y" ∧
      (worldWriting [0x79]).files.Received (.tidy (text "d/b")) [0x79]
        (run (wordsToHlsl ++ [text "-o", text "d/b"]) (worldWriting [0x79])).files := by
  have accepted : Invocation.ofWords (worldWriting [0x79]).files wordsToHlsl =
      .ok ⟨false, .convert (orderToHlsl none)⟩ := by decide
  have named : Invocation.ofWords (worldWriting [0x79]).files
      (wordsToHlsl ++ [text "-o", text "d/b"]) =
        .ok ⟨false, .convert (orderToHlsl (some (.tidy (text "d/b"))))⟩ := by decide
  have converts := worldWriting_converts [0x79] (text "y") (by decide +kernel)
  have writable : (worldWriting [0x79]).files.Writable (.tidy (text "d/b")) :=
    ⟨.ofList [(text "a.wgsl", some [0x78]), (text "d", none)], Files.home ++ [text "d", text "b"],
      by decide, .inl (by decide)⟩
  obtain ⟨_, _, to_stream, _⟩ := conversions_reach_one_destination accepted rfl
  obtain ⟨_, _, _, to_file, _⟩ := conversions_reach_one_destination named rfl
  obtain ⟨_, written⟩ := converts none
  obtain ⟨_, _, shown, _⟩ := to_stream _ _ written rfl
  obtain ⟨_, saved⟩ := converts (some (.tidy (text "d/b")))
  obtain ⟨_, _, bytes, encoded, received⟩ := to_file _ _ _ saved rfl writable
  obtain rfl : [0x79] = bytes := Except.ok.inj encoded
  refine ⟨?_, received⟩
  rw [shown]
  decide +kernel

/-- A reset of the terminal's colours in the output is lost on standard output. -/
theorem styled_output_is_cut :
    ¬ ∀ output host,
      Converts (worldWriting [0x61, 27, 91, 48, 109]) (orderToHlsl none) output host →
      (run wordsToHlsl (worldWriting [0x61, 27, 91, 48, 109])).stdout = output := by
  intro whole
  obtain ⟨host, converts⟩ := worldWriting_converts [0x61, 27, 91, 48, 109]
    [0x61, 27, 91, 48, 109] (by decide +kernel) none
  have cut : (run wordsToHlsl (worldWriting [0x61, 27, 91, 48, 109])).stdout = [0x61] := by
    decide +kernel
  have same := whole _ _ converts
  rw [cut] at same
  exact absurd same (by decide)

end CrossShader.CommandLine
