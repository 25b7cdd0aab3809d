import CrossShader.Library.Scripted
import CrossShader.Proofs.Conversion.Course
import Mathlib.Algebra.GroupWithZero.Nat
import Mathlib.Data.List.InsertIdx

/-!
Conversions that share a library. The library numbers modules and validation records as they come
into being, so a conversion in a row calls it as it would on its own, with every number moved on by
what the conversions before it have made. Its answer does not depend on them.
-/
namespace CrossShader

def Call.shift (m n : Nat) : Call Nat Nat → Call Nat Nat
  | .parse source dialect stage defines => .parse source dialect stage defines
  | .validate module => .validate (module + m)
  | .generate module info target pipeline => .generate (module + m) (info + n) target pipeline

def Call.isParse : Call Nat Nat → Bool
  | .parse _ _ _ _ => true
  | _ => false

def Call.isValidation : Call Nat Nat → Bool
  | .validate _ => true
  | _ => false

def Trace.shift (m n : Nat) (t : Trace) : Trace := { t with calls := t.calls.map (Call.shift m n) }

namespace Stand
open Conversion

/-- What a turn gives on a library that nobody has used. -/
def alone (t : Turn) : Trace := (turn t opening).1

/-- The parses of a turn that gave a module: all of them or none, as its script has it. -/
def parsed (t : Turn) (trace : Trace) : Nat :=
  if t.script.parse.isNone then trace.calls.countP Call.isParse else 0

def validated (t : Turn) (trace : Trace) : Nat :=
  if t.script.validate.isNone then trace.calls.countP Call.isValidation else 0

def modulesMade (history : List (Turn × Trace)) : Nat :=
  (history.map fun (t, trace) => parsed t trace).sum

def infosMade (history : List (Turn × Trace)) : Nat :=
  (history.map fun (t, trace) => validated t trace).sum

def ahead (m n : Nat) (s : Stand) : Stand :=
  { s with modules := s.modules + m, infos := s.infos + n }

theorem parseReply_ahead (m n : Nat) (r : Request) (s : Stand) :
    parseReply library r (s.ahead m n) =
      ((parseReply library r s).1.map (· + m), (parseReply library r s).2.ahead m n) := by
  cases scripted : s.script.parse <;>
    simp [parseReply, library, parse, ahead, scripted, Except.map, Nat.add_right_comm]

theorem validateReply_ahead (m n module : Nat) (s : Stand) :
    validateReply library (module + m) (s.ahead m n) =
      ((validateReply library module s).1.map (· + n),
        (validateReply library module s).2.ahead m n) := by
  cases scripted : s.script.validate <;>
    simp [validateReply, library, validate, ahead, scripted, Except.map, Nat.add_right_comm]

theorem generate_ahead (m n module info : Nat) (target : TargetOptions)
    (pipeline : PipelineOptions) (s : Stand) :
    library.generate (module + m) (info + n) target pipeline (s.ahead m n) =
      ((library.generate module info target pipeline s).1,
        (library.generate module info target pipeline s).2.ahead m n) := by
  cases scripted : s.script.generate <;> simp [library, generate, ahead, scripted]

section
variable {r : Request} {s s' : Stand} {made : List (Call Nat Nat)} {halt : Halt}

theorem course_ahead (course : Course library r s made halt s') (m n : Nat) :
    Course library r (s.ahead m n) (made.map (Call.shift m n)) halt (s'.ahead m n) := by
  have parse_ahead {reply : Except Fault Nat} {s₁ : Stand}
      (parsed : parseReply library r s = (reply, s₁)) :
      parseReply library r (s.ahead m n) = (reply.map (· + m), s₁.ahead m n) := by
    rw [parseReply_ahead, parsed]
  have validate_ahead {module : Nat} {reply : Except Fault Nat} {s₁ s₂ : Stand}
      (validated : validateReply library module s₁ = (reply, s₂)) :
      validateReply library (module + m) (s₁.ahead m n) = (reply.map (· + n), s₂.ahead m n) := by
    rw [validateReply_ahead, validated]
  have generated_ahead {module info : Nat} {target : TargetOptions} {pipeline : PipelineOptions}
      {reply : Except Fault Text} {s₂ s₃ : Stand}
      (generated : library.generate module info target pipeline (validatedState library s₂) =
        (reply, s₃)) :
      library.generate (module + m) (info + n) target pipeline
          (validatedState library (s₂.ahead m n)) = (reply, s₃.ahead m n) := by
    change library.generate _ _ _ _ ((validatedState library s₂).ahead m n) = _
    rw [generate_ahead, generated]
  cases course with
  | parseRaises parsed => exact .parseRaises (parse_ahead parsed)
  | validateRaises parsed validated =>
    exact .validateRaises (parse_ahead parsed) (validate_ahead validated)
  | targetUnknown parsed validated unknown =>
    exact .targetUnknown (parse_ahead parsed) (validate_ahead validated) unknown
  | generateRaises parsed validated known generated =>
    exact .generateRaises (parse_ahead parsed) (validate_ahead validated) known
      (generated_ahead generated)
  | completes parsed validated known generated =>
    exact .completes (parse_ahead parsed) (validate_ahead validated) known
      (generated_ahead generated)

end

structure Grows (s : Stand) (m n : Nat) (s' : Stand) : Prop where
  script : s'.script = s.script
  modules : s'.modules = s.modules + m
  infos : s'.infos = s.infos + n

theorem Grows.note {s s' : Stand} {m n : Nat} (grows : Grows s m n s') (entry : LogEntry) :
    Grows s m n (library.note entry s') := ⟨grows.script, grows.modules, grows.infos⟩

theorem Grows.trans {s₁ s₂ s₃ : Stand} {m₁ n₁ m₂ n₂ : Nat} (first : Grows s₁ m₁ n₁ s₂)
    (second : Grows s₂ m₂ n₂ s₃) : Grows s₁ (m₁ + m₂) (n₁ + n₂) s₃ := by
  refine ⟨second.script.trans first.script, ?_, ?_⟩
  · rw [second.modules, first.modules, Nat.add_assoc]
  · rw [second.infos, first.infos, Nat.add_assoc]

section
variable {r : Request} {s s' : Stand}

theorem parse_made {module : Nat} (parsed : parseReply library r s = (.ok module, s')) :
    s.script.parse = none ∧ module = s.modules ∧ Grows s 1 0 s' := by
  cases scripted : s.script.parse with
  | some f => simp [parseReply, library, parse, scripted] at parsed
  | none =>
    simp only [parseReply, library, parse, scripted, Prod.mk.injEq, Except.ok.injEq] at parsed
    obtain ⟨rfl, rfl⟩ := parsed
    exact ⟨rfl, rfl, rfl, rfl, rfl⟩

theorem parse_made_nothing {f : Fault} (parsed : parseReply library r s = (.error f, s')) :
    s.script.parse = some f ∧ Grows s 0 0 s' := by
  cases scripted : s.script.parse with
  | none => simp [parseReply, library, parse, scripted] at parsed
  | some f' =>
    simp only [parseReply, library, parse, scripted, Prod.mk.injEq, Except.error.injEq] at parsed
    obtain ⟨rfl, rfl⟩ := parsed
    exact ⟨rfl, rfl, rfl, rfl⟩

theorem validate_made {module info : Nat}
    (validated : validateReply library module s = (.ok info, s')) :
    s.script.validate = none ∧ info = s.infos ∧ Grows s 0 1 s' := by
  cases scripted : s.script.validate with
  | some f => simp [validateReply, library, validate, scripted] at validated
  | none =>
    simp only [validateReply, library, validate, scripted, Prod.mk.injEq,
      Except.ok.injEq] at validated
    obtain ⟨rfl, rfl⟩ := validated
    exact ⟨rfl, rfl, rfl, rfl, rfl⟩

theorem validate_made_nothing {module : Nat} {f : Fault}
    (validated : validateReply library module s = (.error f, s')) :
    s.script.validate = some f ∧ Grows s 0 0 s' := by
  cases scripted : s.script.validate with
  | none => simp [validateReply, library, validate, scripted] at validated
  | some f' =>
    simp only [validateReply, library, validate, scripted, Prod.mk.injEq,
      Except.error.injEq] at validated
    obtain ⟨rfl, rfl⟩ := validated
    exact ⟨rfl, rfl, rfl, rfl⟩

theorem generate_made_nothing {module info : Nat} {target : TargetOptions}
    {pipeline : PipelineOptions} {reply : Except Fault Text}
    (generated : library.generate module info target pipeline s = (reply, s')) :
    Grows s 0 0 s' := by
  have same : s' = s := by
    cases scripted : s.script.generate <;>
      simp only [library, generate, scripted, Prod.mk.injEq] at generated <;>
      exact generated.2.symm
  rw [same]
  exact ⟨rfl, rfl, rfl⟩

/-- The calls of a turn when the library has made `m` modules and `n` records before it. What they
name has been made by the call just before in the same turn, so it has the next number. -/
inductive OwnCalls (script : Script) (m n : Nat) : List (Call Nat Nat) → Prop where
  | nothing : OwnCalls script m n []
  | parse (source : Text) (dialect : SourceDialect) (stage : Text) :
      OwnCalls script m n [.parse source dialect stage []]
  | validate (source : Text) (dialect : SourceDialect) (stage : Text)
      (parsed : script.parse = none) :
      OwnCalls script m n [.parse source dialect stage [], .validate m]
  | generate (source : Text) (dialect : SourceDialect) (stage : Text) (target : TargetOptions)
      (pipeline : PipelineOptions) (parsed : script.parse = none)
      (validated : script.validate = none) :
      OwnCalls script m n
        [.parse source dialect stage [], .validate m, .generate m n target pipeline]

theorem course_numbers {made : List (Call Nat Nat)} {halt : Halt}
    (course : Course library r s made halt s') :
    OwnCalls s.script s.modules s.infos made ∧
      Grows s (if s.script.parse.isNone then made.countP Call.isParse else 0)
        (if s.script.validate.isNone then made.countP Call.isValidation else 0) s' := by
  have validated_after {s₁ s₂ : Stand} (grows : Grows s 1 0 s₁) {module : Nat}
      {reply : Except Fault Nat} (validated : validateReply library module s₁ = (reply, s₂)) :
      ∀ info, reply = .ok info →
        s.script.validate = none ∧ info = s.infos ∧ Grows s 1 1 s₂ := by
    rintro info rfl
    obtain ⟨recorded, numbered, more⟩ := validate_made validated
    exact ⟨grows.script ▸ recorded, numbered.trans grows.infos, grows.trans more⟩
  cases course with
  | parseRaises parsed =>
    obtain ⟨raised, grows⟩ := parse_made_nothing parsed
    refine ⟨.parse _ _ _, ?_⟩
    rw [raised]
    simpa [parseCall, Call.isValidation] using grows
  | validateRaises parsed validated =>
    obtain ⟨made, rfl, grows⟩ := parse_made parsed
    obtain ⟨raised, more⟩ := validate_made_nothing validated
    refine ⟨.validate _ _ _ made, ?_⟩
    rw [grows.script] at raised
    rw [made, raised]
    exact grows.trans more
  | targetUnknown parsed validated unknown =>
    obtain ⟨made, rfl, grows⟩ := parse_made parsed
    obtain ⟨recorded, rfl, more⟩ := validated_after grows validated _ rfl
    refine ⟨.validate _ _ _ made, ?_⟩
    rw [made, recorded]
    exact more.note _
  | generateRaises parsed validated known generated =>
    obtain ⟨made, rfl, grows⟩ := parse_made parsed
    obtain ⟨recorded, rfl, more⟩ := validated_after grows validated _ rfl
    refine ⟨.generate _ _ _ _ _ made recorded, ?_⟩
    rw [made, recorded]
    exact (more.note _).trans (generate_made_nothing generated)
  | completes parsed validated known generated =>
    obtain ⟨made, rfl, grows⟩ := parse_made parsed
    obtain ⟨recorded, rfl, more⟩ := validated_after grows validated _ rfl
    refine ⟨.generate _ _ _ _ _ made recorded, ?_⟩
    rw [made, recorded]
    exact (more.note _).trans (generate_made_nothing generated)

theorem close_ahead (halt : Halt) (r : Request) (m n : Nat) (s : Stand) :
    halt.close library.note r (s.ahead m n) = (halt.close library.note r s).ahead m n := by
  cases halt with
  | raised place fault =>
    rw [Halt.close, Halt.close]
    split <;> rfl
  | _ => rfl

theorem Grows.close {m n : Nat} (grows : Grows s m n s') (halt : Halt) (r : Request) :
    Grows s m n (halt.close library.note r s') := by
  cases halt with
  | raised place fault =>
    rw [Halt.close]
    split
    · exact grows.note _
    · exact grows
  | _ => exact grows.note _

end

section
variable {t : Turn} {s : Stand}

theorem turn_of_no_request {f : Fault} (refused : t.entry.request t.given = .error f) :
    turn t s = (⟨.error f, [], []⟩, s.rewind t.script) := by
  simp only [turn, Entry.run, refused, begin, rewind]

theorem turn_of_course {r : Request} (asked : t.entry.request t.given = .ok r)
    {made : List (Call Nat Nat)} {halt : Halt} {s' : Stand}
    (course : Course library r (s.rewind t.script) made halt s') :
    turn t s = (⟨(halt.answer r).bind (t.entry.answer r), made,
      (halt.close library.note r s').log⟩, halt.close library.note r s') := by
  have converted := convert_of_course (course_recorded course [])
  rw [close_recorded, List.nil_append] at converted
  simp only [turn, Entry.run, asked, begin, tracked, converted]
  cases halt.answer r <;> rfl

theorem turn_ahead (t : Turn) (s : Stand) (m n : Nat) :
    turn t (s.ahead m n) = ((turn t s).1.shift m n, (turn t s).2.ahead m n) := by
  cases asked : t.entry.request t.given with
  | error f =>
    rw [turn_of_no_request asked, turn_of_no_request asked]
    rfl
  | ok r =>
    obtain ⟨made, halt, s', course⟩ := course_exists library r (s.rewind t.script)
    have moved : Course library r ((s.ahead m n).rewind t.script) _ halt _ :=
      course_ahead course m n
    rw [turn_of_course asked course, turn_of_course asked moved, close_ahead]
    rfl

theorem turn_eq_alone (t : Turn) (s : Stand) :
    (turn t s).1 = (alone t).shift s.modules s.infos := by
  -- A turn begins with its own script and an empty log, so stands differ in the two numbers alone.
  have same : turn t s = turn t (opening.ahead s.modules s.infos) := by
    simp [turn, begin, rewind, ahead, opening]
  rw [same, turn_ahead]
  rfl

theorem turn_numbers (t : Turn) (s : Stand) :
    OwnCalls t.script s.modules s.infos (turn t s).1.calls ∧
      (turn t s).2.modules = s.modules + parsed t (turn t s).1 ∧
      (turn t s).2.infos = s.infos + validated t (turn t s).1 := by
  cases asked : t.entry.request t.given with
  | error f =>
    rw [turn_of_no_request asked]
    exact ⟨.nothing, by simp [rewind, parsed], by simp [rewind, validated]⟩
  | ok r =>
    obtain ⟨made, halt, s', course⟩ := course_exists library r (s.rewind t.script)
    obtain ⟨own, grows⟩ := course_numbers course
    rw [turn_of_course asked course]
    exact ⟨own, (grows.close halt r).modules, (grows.close halt r).infos⟩

end

def history (turns : List Turn) (s : Stand) : List (Turn × Trace) := turns.zip (play turns s)

theorem play_alone (turns : List Turn) (s : Stand) :
    ∀ i : Nat, (play turns s)[i]? = turns[i]?.map fun t =>
      (alone t).shift (s.modules + modulesMade ((history turns s).take i))
        (s.infos + infosMade ((history turns s).take i)) := by
  -- The stand after the first turn is ahead by what that turn has made, the first summand.
  induction turns generalizing s with
  | nil => simp [play]
  | cons t rest ih =>
    obtain ⟨_, modules, infos⟩ := turn_numbers t s
    intro i
    cases i with
    | zero => simp [play, turn_eq_alone, modulesMade, infosMade]
    | succ i =>
      have later := ih (turn t s).2 i
      rw [modules, infos] at later
      simpa [play, history, modulesMade, infosMade, Nat.add_assoc] using later

theorem play_ownCalls (turns : List Turn) (s : Stand) :
    ∀ (i : Nat) (step : Turn × Trace), (history turns s)[i]? = some step →
      OwnCalls step.1.script (s.modules + modulesMade ((history turns s).take i))
        (s.infos + infosMade ((history turns s).take i)) step.2.calls := by
  induction turns generalizing s with
  | nil => simp [history]
  | cons t rest ih =>
    obtain ⟨own, modules, infos⟩ := turn_numbers t s
    intro i step found
    cases i with
    | zero =>
      simp only [history, play, List.zip_cons_cons, List.getElem?_cons_zero,
        Option.some.injEq] at found
      rw [← found]
      exact own
    | succ i =>
      have later := ih (turn t s).2 i step (by simpa [history, play] using found)
      rw [modules, infos] at later
      simpa [play, history, modulesMade, infosMade, Nat.add_assoc] using later

theorem answers_alone (turns : List Turn) (s : Stand) :
    (play turns s).map (·.answer) = turns.map fun t => (alone t).answer := by
  apply List.ext_getElem?
  intro i
  rw [List.getElem?_map, List.getElem?_map, play_alone, Option.map_map]
  rfl

/-- Turns that share a library from its first use on. Each gives the answer that it would give on
its own and makes the same calls with the numbers moved on; what its calls name it has made itself;
and leaving out a turn, whatever became of it, changes no other answer. -/
theorem shared_turns_are_alone (turns : List Turn) :
    (∀ i : Nat, (play turns opening)[i]? = turns[i]?.map fun t =>
        (alone t).shift (modulesMade ((history turns opening).take i))
          (infosMade ((history turns opening).take i))) ∧
      (∀ (i : Nat) (step : Turn × Trace), (history turns opening)[i]? = some step →
        OwnCalls step.1.script (modulesMade ((history turns opening).take i))
          (infosMade ((history turns opening).take i)) step.2.calls) ∧
      (play turns opening).map (·.answer) = (turns.map fun t => (alone t).answer) ∧
      ∀ i : Nat, (play (turns.eraseIdx i) opening).map (·.answer) =
        ((play turns opening).map (·.answer)).eraseIdx i := by
  have numbered := play_alone turns opening
  have own := play_ownCalls turns opening
  have start : opening.modules = 0 ∧ opening.infos = 0 := ⟨rfl, rfl⟩
  simp only [start.1, start.2, Nat.zero_add] at numbered own
  refine ⟨numbered, own, answers_alone turns opening, ?_⟩
  intro i
  rw [answers_alone, answers_alone, List.eraseIdx_map]

end Stand
end CrossShader
