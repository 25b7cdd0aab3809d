import CrossShader.Files
import Mathlib.Data.List.Basic

/-!
What writing does to a tree of files. Making directories adds those that were missing and no more,
and a file that is written stands afterwards where its path leads, with all else as it was.
-/
namespace CrossShader.Files
open Text

/-- Nothing is changed but that some places that were free are directories now. -/
def Grown (fs fs' : Files) : Prop :=
  ∀ place, fs'.node? place = fs.node? place ∨
    fs.node? place = none ∧ fs'.node? place = some .directory

/-- A file can be written at the place: the path leads to a file there or to its free name. -/
def Takes (fs : Files) (p : Path) (place : List Text) : Prop :=
  fs.locate p = .free place ∨ ∃ old, fs.locate p = .found place (.file old)

/-- A file can be written to the path once the directories above it are made. -/
def Writable (fs : Files) (p : Path) : Prop :=
  ∃ fs₁ place, fs.makeDirectories p.parent = .ok fs₁ ∧ fs₁.Takes p place

/-- The path leads to a file of these bytes now. Nothing else is changed but that some places that
were free are directories. -/
def Received (fs : Files) (p : Path) (bytes : Bytes) (fs' : Files) : Prop :=
  ∃ place, fs'.locate p = .found place (.file bytes) ∧ ∀ other, other ≠ place →
    fs'.node? other = fs.node? other ∨
      fs.node? other = none ∧ fs'.node? other = some .directory

/-- The path leads to a directory or below a file. -/
inductive Misplaced (fs : Files) (p : Path) : Prop where
  | directory {place} (leads : fs.locate p = .found place .directory)
  | underFile {place content} (leads : fs.locate p.parent = .found place (.file content))
  | pastFile (leads : fs.locate p.parent = .blocked)

section
variable {place other : List Text}

theorem lookup_filter_ne (differs : other ≠ place) (nodes : List (List Text × Node)) :
    (nodes.filter fun n => n.1 != place).lookup other = nodes.lookup other := by
  induction nodes with
  | nil => rfl
  | cons n rest ih =>
    obtain ⟨key, node⟩ := n
    by_cases replaced : key = place
    · have apart : (other == key) = false := beq_eq_false_iff_ne.mpr (replaced ▸ differs)
      rw [List.filter_cons_of_neg (by simp [replaced]), List.lookup_cons, apart, ih]
    · rw [List.filter_cons_of_pos (by simp [replaced]), List.lookup_cons, List.lookup_cons, ih]

theorem lookup_filter_self (nodes : List (List Text × Node)) :
    (nodes.filter fun n => n.1 != place).lookup place = none := by
  rw [List.lookup_eq_none_iff]
  intro n listed
  obtain ⟨_, kept⟩ := List.mem_filter.mp listed
  rw [bne_iff_ne] at kept
  simpa using Ne.symm kept

theorem node?_put (fs : Files) (below : place ≠ []) (node : Node) (other : List Text) :
    (fs.put place node).node? other = if other = place then some node else fs.node? other := by
  by_cases root : other = []
  · subst root
    rw [if_neg (Ne.symm below)]
    rfl
  · have named : ¬ other.isEmpty = true := by simpa using root
    rw [node?, if_neg named, node?, if_neg named, put, List.lookup_append]
    by_cases same : other = place
    · subst same
      rw [lookup_filter_self, if_pos rfl]
      simp
    · have apart : (other == place) = false := beq_eq_false_iff_ne.mpr same
      rw [lookup_filter_ne same, if_neg same, List.lookup_cons, apart, List.lookup_nil,
        Option.or_none]

end

section
variable {fs fs₁ fs₂ fs' : Files} {p : Path} {place t : List Text} {node : Node} {bytes : Bytes}

theorem Grown.refl (fs : Files) : fs.Grown fs := fun _ => .inl rfl

theorem Grown.trans (first : fs.Grown fs₁) (second : fs₁.Grown fs₂) : fs.Grown fs₂ := by
  intro place
  rcases second place with same | ⟨free, made⟩
  · rw [same]
    exact first place
  · rcases first place with same | ⟨_, taken⟩
    · exact .inr ⟨same ▸ free, made⟩
    · simp [taken] at free

def enter (fs : Files) (place : List Text) (rest : List Text) : Target :=
  match fs.node? place with
  | some node => fs.follow place node rest
  | none => if rest.isEmpty then .free place else .missing

/-- What one step from a directory does: whether it stays among the places on the way, is refused or
names the next place depends on the step alone. -/
theorem follow_cons (place : List Text) (step : Text) (rest : List Text) :
    (∃ above, ∀ fs : Files, fs.follow place .directory (step :: rest) =
        fs.follow above .directory rest) ∨
      (∀ fs : Files, fs.follow place .directory (step :: rest) = .tooLong) ∨
      ∀ fs : Files, fs.follow place .directory (step :: rest) =
        fs.enter (place ++ [step]) rest := by
  by_cases idle : Path.isIdle step = true
  · exact .inl ⟨place, fun fs => by simp [follow, idle]⟩
  · by_cases up : step = Path.up
    · exact .inl ⟨place.dropLast, fun fs => by
        rw [follow, if_neg (not_not_intro rfl), if_neg idle, if_pos up]⟩
    · by_cases long : Path.longestName < Path.nameLength step
      · exact .inr (.inl fun fs => by simp [follow, idle, up, long])
      · refine .inr (.inr fun fs => ?_)
        cases there : fs.node? (place ++ [step]) <;> simp [follow, idle, up, long, enter, there]

theorem follow_file (content : Bytes) (rest : List Text) :
    fs.follow place (.file content) rest =
      if rest.isEmpty then .found place (.file content) else .blocked := by
  cases rest <;> simp [follow]

def Target.Agrees (fs : Files) : Target → Prop
  | found place (.file content) => fs.node? place = some (.file content)
  | free place => place ≠ [] ∧ fs.node? place = none
  | _ => True

theorem follow_agrees (fs : Files) (place steps : List Text) :
    (fs.follow place .directory steps).Agrees fs := by
  induction steps generalizing place with
  | nil => trivial
  | cons step rest ih =>
    rcases follow_cons place step rest with ⟨above, moves⟩ | long | enters
    · rw [moves]
      exact ih above
    · rw [long]
      trivial
    · rw [enters, enter]
      cases there : fs.node? (place ++ [step]) with
      | none =>
        dsimp only
        split
        · exact ⟨by simp, there⟩
        · trivial
      | some node =>
        cases node with
        | directory => exact ih (place ++ [step])
        | file content =>
          dsimp only
          rw [follow_file]
          split
          · exact there
          · trivial

theorem locate_agrees (fs : Files) (p : Path) : (fs.locate p).Agrees fs := by
  rw [locate]
  split
  · trivial
  · exact fs.follow_agrees _ p.steps

theorem locate_free (leads : fs.locate p = .free place) :
    place ≠ [] ∧ fs.node? place = none := by
  have agrees := fs.locate_agrees p
  rwa [leads] at agrees

theorem locate_file {old : Bytes} (leads : fs.locate p = .found place (.file old)) :
    fs.node? place = some (.file old) := by
  have agrees := fs.locate_agrees p
  rwa [leads] at agrees

theorem Takes.below (takes : fs.Takes p place) : place ≠ [] := by
  rcases takes with leads | ⟨old, leads⟩
  · exact (locate_free leads).1
  · rintro rfl
    simpa [node?] using locate_file leads

theorem grown_put (below : place ≠ []) (free : fs.node? place = none) :
    fs.Grown (fs.put place .directory) := by
  intro other
  rw [node?_put fs below]
  by_cases same : other = place
  · rw [if_pos same]
    exact .inr ⟨same ▸ free, rfl⟩
  · rw [if_neg same]
    exact .inl rfl

theorem makeOne_grown (made : fs.makeOne p = .ok fs') : fs.Grown fs' := by
  rw [makeOne] at made
  split at made
  case h_1 =>
    obtain rfl := Except.ok.inj made
    exact Grown.refl fs
  case h_3 place leads =>
    obtain rfl := Except.ok.inj made
    obtain ⟨below, free⟩ := locate_free leads
    exact grown_put below free
  all_goals simp at made

theorem makeSteps_grown {absolute : Bool} {steps : List Text} {count : Nat}
    (made : makeSteps absolute steps count fs = .ok fs') : fs.Grown fs' := by
  induction count generalizing fs' with
  | zero => exact makeOne_grown made
  | succ count ih =>
    rw [makeSteps] at made
    split at made
    · cases above : makeSteps absolute steps count fs with
      | error e => simp [above, bind, Except.bind] at made
      | ok fs₁ =>
        rw [above] at made
        exact (ih above).trans (makeOne_grown made)
    · exact makeOne_grown made

theorem makeDirectories_grown (made : fs.makeDirectories p = .ok fs') : fs.Grown fs' :=
  makeSteps_grown made

theorem follow_put {steps : List Text} (bytes : Bytes) (below : t ≠ [])
    (leads : fs.follow place .directory steps = .free t ∨
      ∃ old, fs.follow place .directory steps = .found t (.file old)) :
    (fs.put t (.file bytes)).follow place .directory steps = .found t (.file bytes) := by
  induction steps generalizing place with
  | nil => simp [follow] at leads
  | cons step rest ih =>
    rcases follow_cons place step rest with ⟨above, moves⟩ | long | enters
    · rw [moves] at leads ⊢
      exact ih leads
    · simp [long] at leads
    · rw [enters, enter] at leads ⊢
      rw [node?_put fs below]
      cases there : fs.node? (place ++ [step]) with
      | none =>
        have last : rest.isEmpty = true ∧ place ++ [step] = t := by
          rw [there] at leads
          dsimp only at leads
          split at leads <;> simp_all
        rw [if_pos last.2]
        dsimp only
        rw [follow_file, if_pos last.1, last.2]
      | some node =>
        rw [there] at leads
        dsimp only at leads
        cases node with
        | file content =>
          have last : rest.isEmpty = true ∧ place ++ [step] = t := by
            rw [follow_file] at leads
            split at leads <;> simp_all
          rw [if_pos last.2]
          dsimp only
          rw [follow_file, if_pos last.1, last.2]
        | directory =>
          -- The steps go on from here, so they lead to some other place.
          have elsewhere : place ++ [step] ≠ t := by
            rintro rfl
            have agrees := fs.follow_agrees (place ++ [step]) rest
            rcases leads with leads | ⟨old, leads⟩ <;> rw [leads] at agrees
            · simp [agrees.2] at there
            · have found : fs.node? (place ++ [step]) = some (.file old) := agrees
              simp [found] at there
          rw [if_neg elsewhere]
          exact ih leads

theorem locate_put (takes : fs.Takes p place) (bytes : Bytes) :
    (fs.put place (.file bytes)).locate p = .found place (.file bytes) := by
  have below := takes.below
  rw [Takes, locate] at takes
  rw [locate]
  split at takes
  · simp at takes
  · rename_i short
    rw [if_neg short]
    exact follow_put bytes below takes

theorem write_eq_ok {bytes : Bytes} :
    fs.write p bytes = .ok fs' ↔ ∃ place, fs.Takes p place ∧ fs' = fs.put place (.file bytes) := by
  rw [write]
  constructor
  · intro written
    split at written
    case h_1 place old leads => exact ⟨place, .inr ⟨old, leads⟩, (Except.ok.inj written).symm⟩
    case h_3 place leads => exact ⟨place, .inl leads, (Except.ok.inj written).symm⟩
    all_goals simp at written
  · rintro ⟨place, leads | ⟨old, leads⟩, rfl⟩ <;> rw [leads]

theorem received_of_takes (grown : fs.Grown fs₁) (takes : fs₁.Takes p place) (bytes : Bytes) :
    fs.Received p bytes (fs₁.put place (.file bytes)) := by
  refine ⟨place, locate_put takes bytes, fun other apart => ?_⟩
  rw [node?_put fs₁ takes.below, if_neg apart]
  exact grown other

theorem follow_grown {steps : List Text} (grown : fs.Grown fs₁)
    (leads : fs.follow place .directory steps = .found t node) :
    fs₁.follow place .directory steps = .found t node := by
  induction steps generalizing place with
  | nil => exact leads
  | cons step rest ih =>
    rcases follow_cons place step rest with ⟨above, moves⟩ | long | enters
    · rw [moves] at leads ⊢
      exact ih leads
    · simp [long] at leads
    · rw [enters, enter] at leads ⊢
      cases there : fs.node? (place ++ [step]) with
      | none =>
        rw [there] at leads
        dsimp only at leads
        split at leads <;> simp at leads
      | some next =>
        have kept : fs₁.node? (place ++ [step]) = some next := by
          rcases grown (place ++ [step]) with same | ⟨free, _⟩
          · exact same.trans there
          · simp [there] at free
        rw [there] at leads
        rw [kept]
        dsimp only at leads ⊢
        cases next with
        | file content =>
          rw [follow_file] at leads ⊢
          exact leads
        | directory => exact ih leads

theorem not_writable_of_directory (leads : fs.locate p = .found place .directory) :
    ¬ fs.Writable p := by
  rintro ⟨fs₁, taker, made, takes⟩
  have grown := makeDirectories_grown made
  have still : fs₁.locate p = .found place .directory := by
    rw [locate] at leads ⊢
    split at leads
    · simp at leads
    · rename_i short
      rw [if_neg short]
      exact follow_grown grown leads
  rcases takes with free | ⟨old, file⟩
  · simp [still] at free
  · simp [still] at file

theorem not_writable_below_file
    (leads : (∃ place content, fs.locate p.parent = .found place (.file content)) ∨
      fs.locate p.parent = .blocked) : ¬ fs.Writable p := by
  have refused : ∃ e, fs.makeOne p.parent = .error e := by
    rw [makeOne]
    rcases leads with ⟨place, content, leads⟩ | leads <;> rw [leads] <;> exact ⟨_, rfl⟩
  rintro ⟨fs₁, taker, made, _⟩
  have whole : fs.makeDirectories p.parent = fs.makeOne p.parent := by
    rw [makeDirectories]
    cases size : p.parent.steps.length with
    | zero => rw [makeSteps, ← List.length_eq_zero_iff.mp size]
    | succ count =>
      rw [makeSteps, ← size, List.take_length]
      rcases leads with ⟨place, content, leads⟩ | leads <;> simp only [leads]
  obtain ⟨e, failed⟩ := refused
  rw [whole, failed] at made
  simp at made

theorem not_writable_of_misplaced (misplaced : fs.Misplaced p) : ¬ fs.Writable p := by
  cases misplaced with
  | directory leads => exact not_writable_of_directory leads
  | underFile leads => exact not_writable_below_file (.inl ⟨_, _, leads⟩)
  | pastFile leads => exact not_writable_below_file (.inr leads)

end
end CrossShader.Files
