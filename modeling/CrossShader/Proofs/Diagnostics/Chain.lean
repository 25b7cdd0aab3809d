import CrossShader.Diagnostics

/-!
The chain of hooks. However often the hooks are installed, and whatever faults come in between, the
original hook of either kind stands behind at most one that logs. So a fault reaches the original
hook once, and it is logged once, before that, if anything was installed before it and it is one to
be reported. Nothing is said of hooks that somebody else replaces after an installation.
-/
namespace CrossShader.Diagnostics

def Step.isReplacement : Step → Bool
  | .replace _ => true
  | _ => false

/-- The fault is one that an installed hook has to log. -/
structure Event.Reported (e : Event) : Prop where
  noInterrupt : e.cause.isInterrupt = false
  valued : e.place = .thread → e.hasValue = true

theorem Event.isReported_iff (e : Event) : e.isReported = true ↔ e.Reported := by
  have apart : e.place = .main ∨ e.hasValue = true ↔ (e.place = .thread → e.hasValue = true) := by
    cases e.place <;> simp
  simp only [isReported, Bool.and_eq_true, Bool.not_eq_true', Bool.or_eq_true, beq_iff_eq, apart]
  exact ⟨fun ⟨kind, value⟩ => ⟨kind, value⟩, fun reported => ⟨reported.1, reported.2⟩⟩

inductive Event.Names (e : Event) : Text → Prop where
  | main (main : e.place = .main) : e.Names (text "main thread")
  | thread {name} (worker : e.place = .thread) (named : e.thread = some name) : e.Names name
  | unnamed (worker : e.place = .thread) (nameless : e.thread = none) : e.Names (text "thread")

theorem Event.names_site (e : Event) : e.Names e.site := by
  rw [site]
  cases place : e.place with
  | main => exact .main place
  | thread =>
    cases named : e.thread with
    | none => exact .unnamed place named
    | some name => exact .thread place named

namespace Hooks

/-- The hooks over the original ones, after an installation or before any. -/
def stacked (main thread : Hook) (installed : Bool) : Hooks :=
  if installed then ⟨true, .logging main, .logging thread⟩ else ⟨false, main, thread⟩

def reach (steps : List Step) (h : Hooks) : Hooks := steps.foldl (fun h s => (h.step s).1) h

theorem step_stacked (main thread : Hook) (installed : Bool) {s : Step}
    (unreplaced : s.isReplacement = false) :
    ((stacked main thread installed).step s).1 =
      stacked main thread (installed || s == .install) := by
  cases s with
  | install => cases installed <;> rfl
  | replace tag => contradiction
  | uncaught e =>
    have other : (Step.uncaught e == .install) = false := by simp
    rw [other, Bool.or_false]
    rfl

theorem step_changes (main thread : Hook) (before : List Step) {s : Step}
    (unreplaced : s.isReplacement = false) :
    ((stacked main thread (before.contains .install)).step s).2.1 = true ↔
      s = .install ∧ .install ∉ before := by
  cases s with
  | install =>
    by_cases installed : .install ∈ before <;> simp [installed, stacked, step]
  | replace tag => contradiction
  | uncaught e => simp [step]

theorem reach_stacked (main thread : Hook) (installed : Bool) {steps : List Step}
    (unreplaced : ∀ s ∈ steps, s.isReplacement = false) :
    reach steps (stacked main thread installed) =
      stacked main thread (installed || steps.contains .install) := by
  induction steps generalizing installed with
  | nil => simp [reach]
  | cons s rest ih =>
    obtain ⟨first, later⟩ := List.forall_mem_cons.mp unreplaced
    have onward := ih (installed || s == .install) later
    rw [reach, List.foldl_cons, step_stacked main thread installed first, ← reach, onward,
      List.contains_cons, Bool.or_assoc, Bool.beq_comm]

theorem play_length (steps : List Step) (h : Hooks) : (play steps h).length = steps.length := by
  induction steps generalizing h with
  | nil => rfl
  | cons s rest ih => rw [play, List.length_cons, List.length_cons, ih]

theorem play_getElem (before after : List Step) (s : Step) (h : Hooks) :
    (play (before ++ s :: after) h)[before.length]? = some ((reach before h).step s).2 := by
  induction before generalizing h with
  | nil => rfl
  | cons first rest ih => exact ih (h.step first).1

theorem run_stacked (main thread : Hook) (installed : Bool) (e : Event) :
    ((stacked main thread installed).hook e.place).run e =
      (if installed && e.isReported then [.logged e.entry] else []) ++
        ((stacked main thread false).hook e.place).run e := by
  cases installed with
  | false => rfl
  | true =>
    rw [Bool.true_and]
    cases place : e.place <;> rfl

/-- Any number of installations and faults in any order over any original hooks. Only the first
installation changes the hooks, no installation brings anything about, and a fault reaches the
original hook of its kind once, after one log entry if an installation came before it and it is to
be reported. -/
theorem faults_are_told_and_handed_on (main thread : Text) (steps : List Step)
    (unreplaced : ∀ s ∈ steps, s.isReplacement = false) :
    (play steps ⟨false, .recorder main, .recorder thread⟩).length = steps.length ∧
      ∀ before s after, steps = before ++ s :: after →
        ∃ changed effects,
          (play steps ⟨false, .recorder main, .recorder thread⟩)[before.length]? =
            some (changed, effects) ∧
          (changed = true ↔ s = .install ∧ .install ∉ before) ∧
          (s = .install → effects = []) ∧
          ∀ e, s = .uncaught e → ∃ told site, e.Names site ∧
            effects = told ++ [.reached (if e.place = .main then main else thread) e.place
              e.cause.className (if e.hasValue then some e.cause.message else none)] ∧
            (.install ∈ before ∧ e.Reported → told = [.logged ⟨.critical, logger,
              text "uncaught " ++ e.cause.className ++ text " in " ++ site⟩]) ∧
            (¬ (.install ∈ before ∧ e.Reported) → told = []) := by
  refine ⟨play_length steps _, ?_⟩
  rintro before s after rfl
  obtain ⟨earlier, here, _⟩ := List.forall_mem_append.mp unreplaced |>.imp_right
    List.forall_mem_cons.mp
  have found := play_getElem before after s (stacked (.recorder main) (.recorder thread) false)
  rw [reach_stacked _ _ false earlier, Bool.false_or] at found
  refine ⟨_, _, found, step_changes _ _ _ here, ?_, ?_⟩
  · rintro rfl
    rfl
  · rintro e rfl
    refine ⟨if before.contains .install && e.isReported then [.logged e.entry] else [], e.site,
      e.names_site, ?_, ?_, ?_⟩
    · have reached : ((stacked (.recorder main) (.recorder thread) false).hook e.place).run e =
          [.reached (if e.place = .main then main else thread) e.place e.cause.className
            (if e.hasValue then some e.cause.message else none)] := by
        cases place : e.place <;> simp [stacked, hook, Hook.run, place]
      rw [← reached]
      exact run_stacked (.recorder main) (.recorder thread) (before.contains .install) e
    · rintro ⟨installed, reported⟩
      rw [List.contains_iff_mem.mpr installed, e.isReported_iff.mpr reported]
      rfl
    · intro silent
      rw [if_neg]
      simpa only [Bool.and_eq_true, List.contains_iff_mem, e.isReported_iff] using silent

/-- A fault that comes before any installation and again after two of them. -/
theorem worker_fault_is_told_once :
    let e : Event := ⟨.thread, some (text "converter-1"), .value (text "boom"), true⟩
    let steps : List Step := [.uncaught e, .install, .install, .uncaught e]
    let reached : Effect :=
      .reached (text "worker") .thread (text "ValueError") (some (text "boom"))
    let turns := play steps ⟨false, .recorder (text "main"), .recorder (text "worker")⟩
    (∀ s ∈ steps, s.isReplacement = false) ∧ turns[0]? = some (false, [reached]) ∧
      turns[3]? = some (false, [.logged ⟨.critical, logger,
        text "uncaught ValueError in converter-1"⟩, reached]) := by
  intro e steps reached turns
  have unreplaced : ∀ s ∈ steps, s.isReplacement = false := by decide
  obtain ⟨_, turn⟩ :=
    faults_are_told_and_handed_on (text "main") (text "worker") steps unreplaced
  have reported : e.Reported := ⟨rfl, fun _ => rfl⟩
  refine ⟨unreplaced, ?_, ?_⟩
  · obtain ⟨changed, effects, found, change, _, uncaught⟩ := turn [] _ _ rfl
    obtain ⟨told, site, _, eq, _, silent⟩ := uncaught e rfl
    rw [silent (by simp)] at eq
    have unchanged : changed = false := by simpa using change
    rw [unchanged, eq] at found
    exact found
  · obtain ⟨changed, effects, found, change, _, uncaught⟩ :=
      turn [.uncaught e, .install, .install] _ _ rfl
    obtain ⟨told, site, names, eq, logged, _⟩ := uncaught e rfl
    have named : site = text "converter-1" := by
      cases names with
      | thread _ named => exact (Option.some.inj named).symm
      | main main => contradiction
      | unnamed _ nameless => contradiction
    rw [logged ⟨by simp, reported⟩, named] at eq
    have unchanged : changed = false := by simpa using change
    rw [unchanged, eq] at found
    exact found

end Hooks
end CrossShader.Diagnostics
