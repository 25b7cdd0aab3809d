import CrossShader.Arguments.Clustered
import CrossShader.Proofs.Arguments.Basic

/-!
The options of a command line as they are read. Every choice is of an option that is offered, more
options may be offered without a change to words that were read before, and reading that stops at a
word does so whatever follows it. Words that are refused are left out.
-/
namespace CrossShader.Arguments
open Text

/-- How words are read when nothing is wrong with them: the choices, and the words that are left. -/
inductive Reads (switches : List Switch) (mixed : Bool) :
    List Text → List Choice → List Text → Prop where
  | nil : Reads switches mixed [] [] []
  | stop (rest : List Text) : Reads switches mixed ([dash, dash] :: rest) [] rest
  | chosen {word rest made choices left} (proceeds : word ≠ [dash, dash])
      (option : isOption word = true) (chose : choose switches word = .ok (made, none))
      (later : Reads switches mixed rest choices left) :
      Reads switches mixed (word :: rest) (made ++ choices) left
  | valued {word value rest made s name choices left} (proceeds : word ≠ [dash, dash])
      (option : isOption word = true) (chose : choose switches word = .ok (made, some (s, name)))
      (later : Reads switches mixed rest choices left) :
      Reads switches mixed (word :: value :: rest) (made ++ ⟨s, some value⟩ :: choices) left
  | passed {word rest choices left} (plain : isOption word = false) (mixes : mixed = true)
      (later : Reads switches mixed rest choices left) :
      Reads switches mixed (word :: rest) choices (word :: left)
  | halted {word rest} (plain : isOption word = false) (halts : mixed = false) :
      Reads switches mixed (word :: rest) [] (word :: rest)

/-- Every name of the one offer means the same option in the other. -/
def Widens (small large : List Switch) : Prop :=
  ∀ name s, named? small name = some s → named? large name = some s

theorem ne_of_plain {word : Text} (plain : isOption word = false) : word ≠ [dash, dash] := by
  rintro rfl
  simp [isOption] at plain

section
variable {switches small large : List Switch} {mixed : Bool} {words left : List Text}
  {choices : List Choice} {made : Made}

theorem scan_of_reads (reads : Reads switches mixed words choices left) :
    scan switches mixed words = .ok (choices, left) := by
  induction reads with
  | nil => rfl
  | stop rest => rw [scan, if_pos rfl]
  | chosen proceeds option chose _ ih =>
    rw [scan, if_neg proceeds, if_pos option, chose]
    dsimp only
    rw [ih]
    rfl
  | valued proceeds option chose _ ih =>
    rw [scan.eq_def]
    dsimp only
    rw [if_neg proceeds, if_pos option, chose]
    dsimp only
    rw [ih]
    rfl
  | passed plain mixes _ ih =>
    rw [scan, if_neg (ne_of_plain plain), if_neg (by simp [plain]), if_pos mixes, ih]
    rfl
  | halted plain halts =>
    rw [scan, if_neg (ne_of_plain plain), if_neg (by simp [plain]), if_neg (by simp [halts])]

theorem reads_of_scan (read : scan switches mixed words = .ok (choices, left)) :
    Reads switches mixed words choices left := by
  induction words using scan.induct switches mixed generalizing choices left with
  | case1 =>
    obtain ⟨rfl, rfl⟩ := Prod.mk.inj (Except.ok.inj read)
    exact .nil
  | case2 rest =>
    rw [scan, if_pos rfl] at read
    obtain ⟨rfl, rfl⟩ := Prod.mk.inj (Except.ok.inj read)
    exact .stop rest
  | case3 word rest proceeds option fault refused =>
    rw [scan, if_neg proceeds, if_pos option, refused] at read
    simp at read
  | case4 word rest proceeds option made chose ih =>
    rw [scan, if_neg proceeds, if_pos option, chose] at read
    obtain ⟨⟨more, words⟩, later, eq⟩ := bind_eq_ok.mp read
    obtain ⟨rfl, rfl⟩ := Prod.mk.inj (Except.ok.inj eq)
    exact .chosen proceeds option chose (ih later)
  | case5 word proceeds option made s name chose =>
    rw [scan.eq_def] at read
    dsimp only at read
    rw [if_neg proceeds, if_pos option, chose] at read
    simp at read
  | case6 word proceeds option made s name chose value rest ih =>
    rw [scan.eq_def] at read
    dsimp only at read
    rw [if_neg proceeds, if_pos option, chose] at read
    obtain ⟨⟨more, words⟩, later, eq⟩ := bind_eq_ok.mp read
    obtain ⟨rfl, rfl⟩ := Prod.mk.inj (Except.ok.inj eq)
    exact .valued proceeds option chose (ih later)
  | case7 word rest proceeds plain mixes ih =>
    rw [scan, if_neg proceeds, if_neg plain, if_pos mixes] at read
    obtain ⟨⟨more, words⟩, later, eq⟩ := bind_eq_ok.mp read
    obtain ⟨rfl, rfl⟩ := Prod.mk.inj (Except.ok.inj eq)
    exact .passed (by simpa using plain) mixes (ih later)
  | case8 word rest proceeds plain halts =>
    rw [scan, if_neg proceeds, if_neg plain, if_neg halts] at read
    obtain ⟨rfl, rfl⟩ := Prod.mk.inj (Except.ok.inj read)
    exact .halted (by simpa using plain) (by simpa using halts)

theorem chooseLetters_widened (wider : Widens small large) {letters : Text}
    (chose : chooseLetters small letters = .ok made) : chooseLetters large letters = .ok made := by
  induction letters generalizing made with
  | nil => exact chose
  | cons c rest ih =>
    rw [chooseLetters] at chose ⊢
    cases found : named? small [dash, c] with
    | none => simp [found] at chose
    | some s =>
      rw [found] at chose
      rw [wider _ s found]
      dsimp only at chose ⊢
      split at chose
      case isTrue valued => rwa [if_pos valued]
      case isFalse single =>
        rw [if_neg single]
        obtain ⟨more, later, eq⟩ := bind_eq_ok.mp chose
        exact bind_eq_ok.mpr ⟨more, ih later, eq⟩

theorem choose_widened (wider : Widens small large) {word : Text}
    (chose : choose small word = .ok made) : choose large word = .ok made := by
  rw [choose] at chose ⊢
  dsimp only at chose ⊢
  by_cases long : isLong (splitValue word).1 = true
  · rw [if_pos long] at chose ⊢
    cases found : named? small (splitValue word).1 with
    | none => simp [found, isLong_of_name long] at chose
    | some s =>
      rw [found] at chose
      rw [wider _ s found]
      exact chose
  · -- The word has no long name, so letters are all that it can give.
    rw [if_neg long] at chose ⊢
    dsimp only at chose ⊢
    split at chose
    case isTrue => simp at chose
    case isFalse short =>
      rw [if_neg short]
      exact chooseLetters_widened wider chose

theorem Reads.widened (wider : Widens small large) (reads : Reads small mixed words choices left) :
    Reads large mixed words choices left := by
  induction reads with
  | nil => exact .nil
  | stop rest => exact .stop rest
  | chosen proceeds option chose _ ih =>
    exact .chosen proceeds option (choose_widened wider chose) ih
  | valued proceeds option chose _ ih =>
    exact .valued proceeds option (choose_widened wider chose) ih
  | passed plain mixes _ ih => exact .passed plain mixes ih
  | halted plain halts => exact .halted plain halts

def Made.From (switches : List Switch) (made : Made) : Prop :=
  (∀ c ∈ made.1, c.switch ∈ switches) ∧ ∀ s name, made.2 = some (s, name) → s ∈ switches

theorem mem_of_named {name : Text} {s : Switch} (found : named? switches name = some s) :
    s ∈ switches := List.mem_of_find?_eq_some found

theorem chooseLetters_from {letters : Text} (chose : chooseLetters switches letters = .ok made) :
    Made.From switches made := by
  induction letters generalizing made with
  | nil =>
    obtain rfl := Except.ok.inj chose
    simp [Made.From]
  | cons c rest ih =>
    rw [chooseLetters] at chose
    cases found : named? switches [dash, c] with
    | none => simp [found] at chose
    | some s =>
      have offered := mem_of_named found
      rw [found] at chose
      dsimp only at chose
      split at chose
      · obtain rfl := Except.ok.inj chose
        split <;> simp [Made.From, offered]
      · obtain ⟨more, later, eq⟩ := bind_eq_ok.mp chose
        obtain rfl := Except.ok.inj eq
        obtain ⟨each, pending⟩ := ih later
        exact ⟨List.forall_mem_cons.mpr ⟨offered, each⟩, pending⟩

theorem chooseLong_from {s : Switch} {name : Text} {value : Option Text} (offered : s ∈ switches)
    (chose : chooseLong s name value = .ok made) : Made.From switches made := by
  cases value with
  | none =>
    obtain rfl := Except.ok.inj chose
    split <;> simp [Made.From, offered]
  | some value =>
    rw [chooseLong] at chose
    split at chose
    · obtain rfl := Except.ok.inj chose
      simp [Made.From, offered]
    · simp at chose

theorem choose_from {word : Text} (chose : choose switches word = .ok made) :
    Made.From switches made := by
  rw [choose] at chose
  dsimp only at chose
  split at chose
  case h_1 s found =>
    split at found
    · exact chooseLong_from (mem_of_named found) chose
    · simp at found
  case h_2 =>
    split at chose
    · simp at chose
    · exact chooseLetters_from chose

theorem Reads.offered (reads : Reads switches mixed words choices left) :
    ∀ c ∈ choices, c.switch ∈ switches := by
  induction reads with
  | nil => simp
  | stop rest => simp
  | chosen _ _ chose _ ih => exact List.forall_mem_append.mpr ⟨(choose_from chose).1, ih⟩
  | valued _ _ chose _ ih =>
    obtain ⟨each, pending⟩ := choose_from chose
    exact List.forall_mem_append.mpr
      ⟨each, List.forall_mem_cons.mpr ⟨pending _ _ rfl, ih⟩⟩
  | passed _ _ _ ih => exact ih
  | halted => simp

theorem Reads.stops (reads : Reads switches false words choices left) :
    ∃ before, words = before ++ left ∧ ∀ word rest, isOption word = false →
      Reads switches false (before ++ word :: rest) choices (word :: rest) := by
  induction reads with
  | nil => exact ⟨[], rfl, fun word rest plain => .halted plain rfl⟩
  | stop rest => exact ⟨[[dash, dash]], rfl, fun word rest _ => .stop _⟩
  | @chosen word _ _ _ _ proceeds option chose _ ih =>
    obtain ⟨before, rfl, stops⟩ := ih
    exact ⟨word :: before, rfl, fun next rest plain =>
      .chosen proceeds option chose (stops next rest plain)⟩
  | @valued word value _ _ _ _ _ _ proceeds option chose _ ih =>
    obtain ⟨before, rfl, stops⟩ := ih
    exact ⟨word :: value :: before, rfl, fun next rest plain =>
      .valued proceeds option chose (stops next rest plain)⟩
  | passed _ mixes => simp at mixes
  | halted => exact ⟨[], rfl, fun word rest plain => .halted plain rfl⟩

end

section
variable {s : Switch} {choices : List Choice}

theorem lastValue?_cons_other {c : Choice} (other : c.switch ≠ s) :
    lastValue? s (c :: choices) = lastValue? s choices := by
  rw [lastValue?, List.filter_cons_of_neg (by simpa using other), lastValue?]

theorem lastValue?_absent (absent : ∀ c ∈ choices, c.switch ≠ s) :
    lastValue? s choices = none := by
  have none_chosen : choices.filter (·.switch == s) = [] :=
    List.filter_eq_nil_iff.mpr fun c listed => by simpa using absent c listed
  rw [lastValue?, none_chosen]
  rfl

theorem lastValue?_alone (absent : ∀ c ∈ choices, c.switch ≠ s) (value : Option Text) :
    lastValue? s (⟨s, value⟩ :: choices) = value := by
  have none_chosen : choices.filter (·.switch == s) = [] :=
    List.filter_eq_nil_iff.mpr fun c listed => by simpa using absent c listed
  rw [lastValue?, List.filter_cons_of_pos (by simp), none_chosen]
  rfl

end
end CrossShader.Arguments
