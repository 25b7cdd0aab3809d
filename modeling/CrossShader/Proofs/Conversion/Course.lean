import CrossShader.Conversion

/-!
The course of a conversion: which calls the library receives, which of them is the last, and what
the conversion makes of it. A course says nothing of adapters; a conversion with any library has
one, and its answer is settled by the place where the course ends.
-/
namespace CrossShader

structure Library.RaisesOnly {S M I : Type} (library : Library S M I) (allowed : Fault → Prop) :
    Prop where
  parse : ∀ source dialect stage defines s f,
    (library.parse source dialect stage defines s).1 = .error f → allowed f
  validate : ∀ m s f, (library.validate m s).1 = .error f → allowed f
  generate : ∀ m i target pipeline s f,
    (library.generate m i target pipeline s).1 = .error f → allowed f

namespace Conversion
variable {S M I : Type}

inductive Place where
  | parse
  | validate
  | generate (dialect : TargetDialect)
  deriving DecidableEq, Repr

/-- How the calls of a conversion end. -/
inductive Halt where
  | raised (place : Place) (fault : Fault)
  | unknownTarget
  | generated (output : Text)
  deriving DecidableEq, Repr

def targetNames : List Text := [text "hlsl", text "wgsl", text "msl", text "glsl"]

def reportedText (r : Request) : Place → ConversionFault → Text
  | _, .unavailable d => text "IR library unavailable: " ++ d
  | .parse, .library d =>
    match SourceDialect.resolve r.source with
    | .wgsl => text "WGSL Parse Error: " ++ d
    | .glsl => text "GLSL Parse Error: " ++ d ++ text "\n\nNormalized source:\n" ++ r.prepared
  | .validate, .library d => text "Validation Error: " ++ d
  | .generate dialect, .library d => dialect.label ++ text " Generation Error: " ++ d
  | _, fault => fault.message

def Halt.answer (r : Request) : Halt → Except Fault Outcome
  | .generated output => .ok (.converted output)
  | .unknownTarget => .ok (.failed (text "Unknown target format: " ++ r.target))
  | .raised place fault =>
    match fault.cause with
    | .conversion c => .ok (.failed (reportedText r place c))
    | _ => .error fault

def parseCall (r : Request) : Call M I :=
  .parse r.prepared (SourceDialect.resolve r.source) (Stage.resolve r.stage).name []

section
variable (library : Library S M I) (r : Request)

def parseReply (s : S) : Except Fault M × S :=
  library.parse r.prepared (SourceDialect.resolve r.source) (Stage.resolve r.stage).name []
    (library.note (startEntry r) s)

def validateReply (m : M) (s : S) : Except Fault I × S :=
  library.validate m (library.note (entry .debug (text "parsed module")) s)

def validatedState (s : S) : S := library.note (entry .debug (text "validated module")) s

/-- The calls made, how they end and the state in which they leave the library. -/
inductive Course (s : S) : List (Call M I) → Halt → S → Prop where
  | parseRaises {f s₁} (parsed : parseReply library r s = (.error f, s₁)) :
      Course s [parseCall r] (.raised .parse f) s₁
  | validateRaises {m s₁ f s₂} (parsed : parseReply library r s = (.ok m, s₁))
      (validated : validateReply library m s₁ = (.error f, s₂)) :
      Course s [parseCall r, .validate m] (.raised .validate f) s₂
  | targetUnknown {m s₁ i s₂} (parsed : parseReply library r s = (.ok m, s₁))
      (validated : validateReply library m s₁ = (.ok i, s₂))
      (unknown : r.target ∉ targetNames) :
      Course s [parseCall r, .validate m] .unknownTarget (validatedState library s₂)
  | generateRaises {m s₁ i s₂ target pipeline f s₃}
      (parsed : parseReply library r s = (.ok m, s₁))
      (validated : validateReply library m s₁ = (.ok i, s₂))
      (known : targetConfiguration r.target (Stage.resolve r.stage).name = .ok (target, pipeline))
      (generated : library.generate m i target pipeline (validatedState library s₂) =
        (.error f, s₃)) :
      Course s [parseCall r, .validate m, .generate m i target pipeline]
        (.raised (.generate target.dialect) f) s₃
  | completes {m s₁ i s₂ target pipeline t s₃}
      (parsed : parseReply library r s = (.ok m, s₁))
      (validated : validateReply library m s₁ = (.ok i, s₂))
      (known : targetConfiguration r.target (Stage.resolve r.stage).name = .ok (target, pipeline))
      (generated : library.generate m i target pipeline (validatedState library s₂) =
        (.ok t, s₃)) :
      Course s [parseCall r, .validate m, .generate m i target pipeline] (.generated t) s₃

end

def wrapAt (r : Request) : Place → Text → ConversionFault
  | .parse => parseFailure (SourceDialect.resolve r.source) r.prepared
  | .validate => validationFailure
  | .generate dialect => generationFailure dialect

theorem errorText_wrapAt (r : Request) (place : Place) (d : Text) :
    errorText (wrapAt r place d) = reportedText r place (.library d) := by
  have marker : text "\n\nNormalized source:\n" =
      text "\n\n" ++ (normalizedSourceMarker ++ text "\n") := by decide
  cases place with
  | parse =>
    cases dialect : SourceDialect.resolve r.source with
    | wgsl => simp [wrapAt, parseFailure, errorText, ConversionFault.message, reportedText, dialect]
    | glsl =>
      simp only [wrapAt, parseFailure, errorText, ConversionFault.message, reportedText, dialect,
        marker, List.append_assoc]
  | validate => rfl
  | generate dialect => rfl

/-- The library after the entry with which a conversion closes its log; one that is left by a fault
writes none. -/
def Halt.close (note : LogEntry → S → S) (r : Request) : Halt → S → S
  | .generated _, s => note (entry .debug (text "generated " ++ r.target ++ text " output")) s
  | .unknownTarget, s => note (failureEntry (.unsupportedTarget r.target)) s
  | .raised place fault, s =>
    match (fault.wrapComplaint (wrapAt r place)).cause with
    | .conversion c => note (failureEntry c) s
    | _ => s

theorem conclude_raised (note : LogEntry → S → S) (r : Request) (place : Place) (f : Fault)
    (s : S) :
    conclude note r (.error (f.wrapComplaint (wrapAt r place)), s) =
      ((Halt.raised place f).answer r, (Halt.raised place f).close note r s) := by
  obtain ⟨cause, status⟩ := f
  cases cause with
  | conversion c =>
    cases c with
    | library d =>
      simp only [Fault.wrapComplaint, Fault.ofConversion, Fault.ofCause, conclude, Halt.answer,
        Halt.close, errorText_wrapAt]
    | _ => cases place <;> rfl
  | _ => rfl

theorem name_mem_targetNames (dialect : TargetDialect) : dialect.name ∈ targetNames := by
  cases dialect <;> simp [TargetDialect.name, targetNames]

theorem targetConfiguration_unknown {selector : Text} (stage : Text)
    (unknown : selector ∉ targetNames) :
    targetConfiguration selector stage = .error (.unsupportedTarget selector) := by
  have absent : TargetDialect.ofName? selector = none := by
    apply List.find?_eq_none.mpr
    intro dialect _ same
    have eq : dialect.name = selector := by simpa using same
    rw [← eq] at unknown
    exact unknown (name_mem_targetNames dialect)
  rw [targetConfiguration, absent]

theorem targetConfiguration_known {selector : Text} (stage : Text)
    (known : selector ∈ targetNames) :
    ∃ dialect : TargetDialect, dialect.name = selector ∧
      targetConfiguration selector stage = .ok (.ofDialect dialect, .ofDialect stage dialect) := by
  have named : ∃ dialect : TargetDialect, dialect.name = selector := by
    simp only [targetNames, List.mem_cons, List.not_mem_nil, or_false] at known
    rcases known with eq | eq | eq | eq
    · exact ⟨.hlsl, eq.symm⟩
    · exact ⟨.wgsl, eq.symm⟩
    · exact ⟨.msl, eq.symm⟩
    · exact ⟨.glsl, eq.symm⟩
  obtain ⟨dialect, rfl⟩ := named
  refine ⟨dialect, rfl, ?_⟩
  cases dialect <;> rfl

section
variable {library : Library S M I} {r : Request} {s s' : S} {made : List (Call M I)} {halt : Halt}

theorem course_exists (library : Library S M I) (r : Request) (s : S) :
    ∃ made halt s', Course library r s made halt s' := by
  rcases parsed : parseReply library r s with ⟨f | m, s₁⟩
  · exact ⟨_, _, _, .parseRaises parsed⟩
  · rcases validated : validateReply library m s₁ with ⟨f | i, s₂⟩
    · exact ⟨_, _, _, .validateRaises parsed validated⟩
    · by_cases listed : r.target ∈ targetNames
      · obtain ⟨dialect, _, known⟩ :=
          targetConfiguration_known (Stage.resolve r.stage).name listed
        rcases generated : library.generate m i (.ofDialect dialect)
            (.ofDialect (Stage.resolve r.stage).name dialect) (validatedState library s₂)
          with ⟨f | t, s₃⟩
        · exact ⟨_, _, _, .generateRaises parsed validated known generated⟩
        · exact ⟨_, _, _, .completes parsed validated known generated⟩
      · exact ⟨_, _, _, .targetUnknown parsed validated listed⟩

theorem parseSource_of_reply {reply : Except Fault M}
    (parsed : parseReply library r s = (reply, s')) :
    library.parseSource r.prepared r.source (Stage.resolve r.stage).name []
        (library.note (startEntry r) s) =
      (reply.mapError (Fault.wrapComplaint (wrapAt r .parse)), s') := by
  change wrapComplaint (wrapAt r .parse) (parseReply library r s) = _
  rw [parsed]
  rfl

theorem validateModule_of_reply {m : M} {reply : Except Fault I}
    (validated : validateReply library m s = (reply, s')) :
    library.validateModule m (library.note (entry .debug (text "parsed module")) s) =
      (reply.mapError (Fault.wrapComplaint validationFailure), s') := by
  change wrapComplaint validationFailure (validateReply library m s) = _
  rw [validated]
  rfl

theorem generateTarget_of_reply {m : M} {i : I} {target : TargetOptions}
    {pipeline : PipelineOptions} {reply : Except Fault Text}
    (known : targetConfiguration r.target (Stage.resolve r.stage).name = .ok (target, pipeline))
    (generated : library.generate m i target pipeline (validatedState library s) = (reply, s')) :
    library.generateTarget m i r.target (Stage.resolve r.stage).name (validatedState library s) =
      (reply.mapError (Fault.wrapComplaint (wrapAt r (.generate target.dialect))), s') := by
  rw [Library.generateTarget, known]
  change wrapComplaint (wrapAt r (.generate target.dialect)) (library.generate m i target pipeline
    (validatedState library s)) = _
  rw [generated]
  rfl

theorem carryOut_of_validated {m : M} {i : I} {s₁ s₂ : S}
    (parsed : parseReply library r s = (.ok m, s₁))
    (validated : validateReply library m s₁ = (.ok i, s₂)) :
    carryOut library r (library.note (startEntry r) s) =
      library.generateTarget m i r.target (Stage.resolve r.stage).name
        (validatedState library s₂) := by
  rw [carryOut, parseSource_of_reply parsed]
  dsimp only [Except.mapError]
  rw [validateModule_of_reply validated]
  rfl

theorem convert_of_course (course : Course library r s made halt s') :
    convert library r s = (halt.answer r, halt.close library.note r s') := by
  rw [convert]
  cases course with
  | parseRaises parsed =>
    rw [carryOut, parseSource_of_reply parsed]
    exact conclude_raised library.note r .parse _ s'
  | validateRaises parsed validated =>
    rw [carryOut, parseSource_of_reply parsed]
    dsimp only [Except.mapError]
    rw [validateModule_of_reply validated]
    exact conclude_raised library.note r .validate _ s'
  | targetUnknown parsed validated unknown =>
    rw [carryOut_of_validated parsed validated, Library.generateTarget,
      targetConfiguration_unknown _ unknown]
    rfl
  | generateRaises parsed validated known generated =>
    rw [carryOut_of_validated parsed validated, generateTarget_of_reply known generated]
    exact conclude_raised library.note r _ _ s'
  | completes parsed validated known generated =>
    rw [carryOut_of_validated parsed validated, generateTarget_of_reply known generated]
    rfl

theorem parseReply_recorded (library : Library S M I) (r : Request) (s : S)
    (before : List (Call M I)) :
    parseReply library.recorded r (s, before) =
      Library.keep before (parseCall r) (parseReply library r s) := rfl

theorem validateReply_recorded (library : Library S M I) (m : M) (s : S)
    (before : List (Call M I)) :
    validateReply library.recorded m (s, before) =
      Library.keep before (.validate m) (validateReply library m s) := rfl

theorem generate_recorded (library : Library S M I) (m : M) (i : I) (target : TargetOptions)
    (pipeline : PipelineOptions) (s : S) (before : List (Call M I)) :
    library.recorded.generate m i target pipeline (validatedState library.recorded (s, before)) =
      Library.keep before (.generate m i target pipeline)
        (library.generate m i target pipeline (validatedState library s)) := rfl

theorem course_recorded (course : Course library r s made halt s') (before : List (Call M I)) :
    Course library.recorded r (s, before) made halt (s', before ++ made) := by
  have parse_kept {reply : Except Fault M} {s₁ : S}
      (parsed : parseReply library r s = (reply, s₁)) :
      parseReply library.recorded r (s, before) = (reply, s₁, before ++ [parseCall r]) := by
    rw [parseReply_recorded, parsed]
    rfl
  have validate_kept {m : M} {reply : Except Fault I} {s₁ s₂ : S}
      (validated : validateReply library m s₁ = (reply, s₂)) :
      validateReply library.recorded m (s₁, before ++ [parseCall r]) =
        (reply, s₂, before ++ [parseCall r, .validate m]) := by
    rw [validateReply_recorded, validated, Library.keep, List.append_assoc]
    rfl
  have generate_kept {m : M} {i : I} {target : TargetOptions} {pipeline : PipelineOptions}
      {reply : Except Fault Text} {s₂ s₃ : S}
      (generated : library.generate m i target pipeline (validatedState library s₂) =
        (reply, s₃)) :
      library.recorded.generate m i target pipeline
          (validatedState library.recorded (s₂, before ++ [parseCall r, .validate m])) =
        (reply, s₃, before ++ [parseCall r, .validate m, .generate m i target pipeline]) := by
    rw [generate_recorded, generated, Library.keep, List.append_assoc]
    rfl
  cases course with
  | parseRaises parsed => exact .parseRaises (parse_kept parsed)
  | validateRaises parsed validated =>
    exact .validateRaises (parse_kept parsed) (validate_kept validated)
  | targetUnknown parsed validated unknown =>
    exact .targetUnknown (parse_kept parsed) (validate_kept validated) unknown
  | generateRaises parsed validated known generated =>
    exact .generateRaises (parse_kept parsed) (validate_kept validated) known
      (generate_kept generated)
  | completes parsed validated known generated =>
    exact .completes (parse_kept parsed) (validate_kept validated) known (generate_kept generated)

theorem close_recorded (library : Library S M I) (r : Request) (halt : Halt) (s : S)
    (calls : List (Call M I)) :
    halt.close library.recorded.note r (s, calls) = (halt.close library.note r s, calls) := by
  cases halt with
  | raised place fault =>
    rw [Halt.close, Halt.close]
    split <;> rfl
  | _ => rfl

theorem success_iff_generated (course : Course library r s made halt s') (t : Text) :
    (∃ o, (convert library r s).1 = .ok o ∧ o.success = true ∧ o.output = t ∧ o.error = []) ↔
      halt = .generated t := by
  rw [convert_of_course course]
  constructor
  · rintro ⟨o, answer, success, output, _⟩
    cases o with
    | failed e => simp [Outcome.success] at success
    | converted u =>
      cases course with
      | completes parsed validated known generated =>
        simp only [Halt.answer, Except.ok.injEq, Outcome.converted.injEq] at answer
        rw [answer]
        exact congrArg Halt.generated output
      | targetUnknown parsed validated unknown => simp [Halt.answer] at answer
      | _ =>
        simp only [Halt.answer] at answer
        split at answer <;> simp at answer
  · rintro rfl
    exact ⟨.converted t, rfl, rfl, rfl, rfl⟩

theorem raised_allowed {allowed : Fault → Prop} (only : library.RaisesOnly allowed) {place : Place}
    {f : Fault} (course : Course library r s made (.raised place f) s') : allowed f := by
  cases course with
  | parseRaises parsed => exact only.parse _ _ _ _ _ f (congrArg Prod.fst parsed)
  | validateRaises _ validated => exact only.validate _ _ f (congrArg Prod.fst validated)
  | generateRaises _ _ _ generated =>
    exact only.generate _ _ _ _ _ f (congrArg Prod.fst generated)

theorem generator_spared (course : Course library r s made halt s')
    (unknown : r.target ∉ targetNames) :
    ∀ m i target pipeline, Call.generate m i target pipeline ∉ made := by
  have refused := targetConfiguration_unknown (Stage.resolve r.stage).name unknown
  intro m i target pipeline
  cases course with
  | generateRaises parsed validated known generated => simp [refused] at known
  | completes parsed validated known generated => simp [refused] at known
  | _ => simp [parseCall]

end

/-- The calls, the answer and what it takes to succeed, for every library and every request. -/
theorem conversion_takes_its_course (library : Library S M I) (r : Request) (s : S)
    (before : List (Call M I)) :
    ∃ made halt s',
      Course library r s made halt s' ∧
      (convert library.recorded r (s, before)).2.2 = before ++ made ∧
      (convert library.recorded r (s, before)).1 = halt.answer r ∧
      (convert library r s).1 = halt.answer r ∧
      (∀ t, (∃ o, (convert library r s).1 = .ok o ∧ o.success = true ∧ o.output = t ∧
        o.error = []) ↔ halt = .generated t) ∧
      (r.target ∉ targetNames →
        ∀ m i target pipeline, Call.generate m i target pipeline ∉ made) := by
  obtain ⟨made, halt, s', course⟩ := course_exists library r s
  have kept := convert_of_course (course_recorded course before)
  rw [close_recorded] at kept
  refine ⟨made, halt, s', course, ?_, ?_, ?_, success_iff_generated course,
    generator_spared course⟩
  · rw [kept]
  · rw [kept]
  · rw [convert_of_course course]

end Conversion
end CrossShader
