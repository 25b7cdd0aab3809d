import CrossShader.Proofs.Text.WholeWord
import Mathlib.Data.List.SplitBy

/-!
Words as runs. A text falls in one way into maximal runs of word characters and of other characters.
A whole occurrence of a word is a run that equals it, and renaming acts on such runs alone; so a
renamed text has the same runs but for those, and none of them is left.
-/
namespace CrossShader.Text

def sameKind (a b : CodePoint) : Bool := isWordChar a == isWordChar b

def runs (t : Text) : List Text := t.splitBy sameKind

def renamedRun (word new r : Text) : Text := if r = word then new else r

def IsRun (kind : Bool) (r : Text) : Prop := r ≠ [] ∧ ∀ c ∈ r, isWordChar c = kind

/-- Runs whose kinds alternate, the first of them of the given kind. -/
inductive Alternating : Bool → List Text → Prop where
  | nil (kind : Bool) : Alternating kind []
  | cons {kind : Bool} {r : Text} {rest : List Text} (run : IsRun kind r)
      (later : Alternating (!kind) rest) : Alternating kind (r :: rest)

theorem isRun_of_isWord {word : Text} (isWord : IsWord word) : IsRun true word := isWord

theorem IsRun.cons {kind : Bool} {c : CodePoint} {r : Text} (same : isWordChar c = kind)
    (run : IsRun kind r) : IsRun kind (c :: r) := by
  refine ⟨List.cons_ne_nil c r, ?_⟩
  intro x member
  rcases List.mem_cons.mp member with rfl | later
  · exact same
  · exact run.2 x later

theorem exists_alternating (t : Text) : ∃ kind rs, Alternating kind rs ∧ rs.flatten = t := by
  induction t with
  | nil => exact ⟨true, [], .nil true, rfl⟩
  | cons c rest ih =>
    have single : IsRun (isWordChar c) [c] := by simp [IsRun]
    obtain ⟨kind, rs, alternating, rfl⟩ := ih
    cases alternating with
    | nil => exact ⟨isWordChar c, [[c]], .cons single (.nil _), rfl⟩
    | @cons _ r later run alternating =>
      by_cases same : isWordChar c = kind
      · exact ⟨kind, (c :: r) :: later, .cons (run.cons same) alternating, rfl⟩
      · have other : kind = !isWordChar c := by
          cases kind <;> simpa using same
        exact ⟨isWordChar c, [c] :: r :: later,
          .cons single (other ▸ .cons run alternating), rfl⟩

theorem IsRun.isChain {kind : Bool} {r : Text} (run : IsRun kind r) :
    r.IsChain fun a b => sameKind a b = true := by
  apply List.Pairwise.isChain
  apply List.pairwise_of_forall_mem_list
  intro a first b second
  simp [sameKind, run.2 a first, run.2 b second]

theorem Alternating.isRun {kind : Bool} {rs : List Text} (alternating : Alternating kind rs) :
    ∀ r ∈ rs, ∃ k, IsRun k r := by
  induction alternating with
  | nil => simp
  | cons run _ ih =>
    intro r member
    rcases List.mem_cons.mp member with rfl | later
    · exact ⟨_, run⟩
    · exact ih r later

theorem Alternating.isChain {kind : Bool} {rs : List Text} (alternating : Alternating kind rs) :
    rs.IsChain fun a b => ∃ ha hb, sameKind (a.getLast ha) (b.head hb) = false := by
  induction alternating with
  | nil => exact List.isChain_nil
  | @cons kind r rest run later ih =>
    cases later with
    | nil => exact List.isChain_singleton r
    | cons next _ =>
      refine List.isChain_cons_cons.mpr ⟨⟨run.1, next.1, ?_⟩, ih⟩
      simp [sameKind, run.2 _ (List.getLast_mem run.1), next.2 _ (List.head_mem next.1)]

theorem runs_flatten {kind : Bool} {rs : List Text} (alternating : Alternating kind rs) :
    runs rs.flatten = rs := by
  have nonempty : [] ∉ rs := by
    intro member
    obtain ⟨_, run⟩ := alternating.isRun [] member
    exact run.1 rfl
  refine List.splitBy_flatten nonempty ?_ alternating.isChain
  intro r member
  obtain ⟨_, run⟩ := alternating.isRun r member
  exact run.isChain

theorem flatten_runs (t : Text) : (runs t).flatten = t := List.flatten_splitBy sameKind t

theorem runs_alternating (t : Text) : ∃ kind, Alternating kind (runs t) := by
  obtain ⟨kind, rs, alternating, rfl⟩ := exists_alternating t
  rw [runs_flatten alternating]
  exact ⟨kind, alternating⟩

theorem not_startsWithWordChar_flatten {rs : List Text} (alternating : Alternating false rs) :
    startsWithWordChar rs.flatten = false := by
  cases alternating with
  | nil => rfl
  | @cons _ r rest run _ =>
    obtain ⟨nonempty, chars⟩ := run
    cases r with
    | nil => contradiction
    | cons c r => exact chars c List.mem_cons_self

theorem leadsWhole_run {rest : Text} (ends : startsWithWordChar rest = false) :
    ∀ word r : Text, (∀ c ∈ word, isWordChar c = true) → (∀ c ∈ r, isWordChar c = true) →
      leadsWhole word (r ++ rest) = decide (r = word) := by
  intro word
  induction word with
  | nil =>
    intro r _ chars
    cases r with
    | nil => simp [leadsWhole_nil, ends]
    | cons c r => simp [leadsWhole_nil, startsWithWordChar, chars c List.mem_cons_self]
  | cons w ws ih =>
    intro r letters chars
    cases r with
    | nil =>
      cases rest with
      | nil => rfl
      | cons c rest =>
        have isWord : IsWord (w :: ws) := ⟨List.cons_ne_nil w ws, letters⟩
        simpa using not_leadsWhole_of_outside isWord ends rest
    | cons c r =>
      have tail := ih r (fun x member => letters x (List.mem_cons_of_mem w member))
        (fun x member => chars x (List.mem_cons_of_mem c member))
      rw [List.cons_append, leadsWhole_cons_cons, tail]
      by_cases same : w = c
      · simp [same]
      · simp [same, Ne.symm same]

section
variable {word : Text} (isWord : IsWord word)

theorem hasWordFrom_inside (word : Text) {r : Text} (chars : ∀ c ∈ r, isWordChar c = true)
    (rest : Text) : hasWordFrom word true (r ++ rest) = hasWordFrom word true rest := by
  induction r with
  | nil => rfl
  | cons c r ih =>
    have later := ih fun x member => chars x (List.mem_cons_of_mem c member)
    rw [List.cons_append, hasWordFrom, chars c List.mem_cons_self, later]
    rfl

theorem renameWordFrom_inside (word new : Text) {r : Text}
    (chars : ∀ c ∈ r, isWordChar c = true) (rest : Text) :
    renameWordFrom word new true (r ++ rest) = r ++ renameWordFrom word new true rest := by
  induction r with
  | nil => rfl
  | cons c r ih =>
    have later := ih fun x member => chars x (List.mem_cons_of_mem c member)
    rw [List.cons_append, renameWordFrom, chars c List.mem_cons_self, later]
    rfl

theorem hasWordFrom_wordRun (letters : ∀ c ∈ word, isWordChar c = true) {r rest : Text}
    (run : IsRun true r) (ends : startsWithWordChar rest = false) :
    hasWordFrom word false (r ++ rest) = (decide (r = word) || hasWordFrom word true rest) := by
  obtain ⟨nonempty, chars⟩ := run
  have leads := leadsWhole_run ends word r letters chars
  cases r with
  | nil => contradiction
  | cons c r =>
    have later := hasWordFrom_inside word (fun x member => chars x (List.mem_cons_of_mem c member))
      rest
    rw [List.cons_append] at leads ⊢
    rw [hasWordFrom, leads, chars c List.mem_cons_self, later]
    rfl

theorem renameWordFrom_wordRun (letters : ∀ c ∈ word, isWordChar c = true) (new : Text)
    {r rest : Text} (run : IsRun true r) (ends : startsWithWordChar rest = false) :
    renameWordFrom word new false (r ++ rest) =
      renamedRun word new r ++ renameWordFrom word new true rest := by
  obtain ⟨nonempty, chars⟩ := run
  have leads := leadsWhole_run ends word r letters chars
  cases r with
  | nil => contradiction
  | cons c r =>
    rw [List.cons_append] at leads ⊢
    rw [renameWordFrom, leads, renamedRun]
    by_cases same : c :: r = word
    · subst same
      simp
    · have later := renameWordFrom_inside word new
        (fun x member => chars x (List.mem_cons_of_mem c member)) rest
      simp [same, chars c List.mem_cons_self, later]

include isWord

theorem IsRun.ne_word {r : Text} (run : IsRun false r) : r ≠ word := by
  rintro rfl
  obtain ⟨c, member⟩ := List.exists_mem_of_ne_nil r run.1
  simpa [isWord.2 c member] using run.2 c member

theorem renameWordFrom_wordless_append (new : Text) {a : Text} (wordless : Wordless a)
    (t : Text) : renameWordFrom word new false (a ++ t) = a ++ renameWordFrom word new false t := by
  induction a with
  | nil => rfl
  | cons c a ih =>
    have outside := wordless c List.mem_cons_self
    have later := ih fun x member => wordless x (List.mem_cons_of_mem c member)
    rw [List.cons_append, renameWordFrom, not_leadsWhole_of_outside isWord outside, outside, later]
    simp

theorem hasWordFrom_otherRun {r : Text} (run : IsRun false r) (inWord : Bool) (rest : Text) :
    hasWordFrom word inWord (r ++ rest) = hasWordFrom word false rest := by
  obtain ⟨nonempty, chars⟩ := run
  cases r with
  | nil => contradiction
  | cons c r =>
    have outside := chars c List.mem_cons_self
    have later := hasWord_wordless_append isWord
      (fun x member => chars x (List.mem_cons_of_mem c member)) rest
    rw [hasWord, hasWord] at later
    rw [List.cons_append, hasWordFrom, not_leadsWhole_of_outside isWord outside, outside, later]
    simp

theorem renameWordFrom_otherRun (new : Text) {r : Text} (run : IsRun false r) (inWord : Bool)
    (rest : Text) :
    renameWordFrom word new inWord (r ++ rest) = r ++ renameWordFrom word new false rest := by
  obtain ⟨nonempty, chars⟩ := run
  cases r with
  | nil => contradiction
  | cons c r =>
    have outside := chars c List.mem_cons_self
    have later := renameWordFrom_wordless_append isWord new
      (fun x member => chars x (List.mem_cons_of_mem c member)) rest
    rw [List.cons_append, renameWordFrom, not_leadsWhole_of_outside isWord outside, outside, later]
    simp

/-- A scan that is not inside a word finds a word if and only if it is one of the runs. -/
theorem hasWordFrom_flatten {kind : Bool} {rs : List Text} (alternating : Alternating kind rs)
    (inWord : Bool) (fits : kind = true → inWord = false) :
    hasWordFrom word inWord rs.flatten = decide (word ∈ rs) := by
  -- After a run of word characters the scan is inside a word, but the next run is of other kind.
  induction alternating generalizing inWord with
  | nil => simp [hasWordFrom]
  | @cons kind r rest run later ih =>
    rw [List.flatten_cons]
    cases kind with
    | true =>
      have ends := not_startsWithWordChar_flatten later
      rw [fits rfl, hasWordFrom_wordRun isWord.2 run ends, ih true (by simp)]
      simp [eq_comm]
    | false =>
      have differ := run.ne_word isWord
      rw [hasWordFrom_otherRun isWord run, ih false (fun _ => rfl)]
      simp [Ne.symm differ]

theorem renameWordFrom_flatten (new : Text) {kind : Bool} {rs : List Text}
    (alternating : Alternating kind rs) (inWord : Bool) (fits : kind = true → inWord = false) :
    renameWordFrom word new inWord rs.flatten = (rs.map (renamedRun word new)).flatten := by
  induction alternating generalizing inWord with
  | nil => simp [renameWordFrom]
  | @cons kind r rest run later ih =>
    rw [List.flatten_cons, List.map_cons, List.flatten_cons]
    cases kind with
    | true =>
      have ends := not_startsWithWordChar_flatten later
      rw [fits rfl, renameWordFrom_wordRun isWord.2 new run ends, ih true (by simp)]
    | false =>
      rw [renameWordFrom_otherRun isWord new run, ih false (fun _ => rfl), renamedRun,
        if_neg (run.ne_word isWord)]

theorem hasWord_iff_mem_runs (t : Text) : hasWord word t = true ↔ word ∈ runs t := by
  obtain ⟨kind, alternating⟩ := runs_alternating t
  have found := hasWordFrom_flatten isWord alternating false (fun _ => rfl)
  rw [flatten_runs] at found
  rw [hasWord, found, decide_eq_true_eq]

theorem renameWord_eq_flatten (new t : Text) :
    renameWord word new t = ((runs t).map (renamedRun word new)).flatten := by
  obtain ⟨kind, alternating⟩ := runs_alternating t
  have renamed := renameWordFrom_flatten isWord new alternating false (fun _ => rfl)
  rwa [flatten_runs] at renamed

theorem Alternating.renamed {new : Text} (isNew : IsWord new) {kind : Bool} {rs : List Text}
    (alternating : Alternating kind rs) : Alternating kind (rs.map (renamedRun word new)) := by
  induction alternating with
  | nil kind => exact .nil kind
  | @cons kind r rest run later ih =>
    refine .cons ?_ ih
    rw [renamedRun]
    split
    case isFalse => exact run
    case isTrue same =>
      obtain ⟨c, member⟩ := List.exists_mem_of_ne_nil r run.1
      have kinds : kind = true := by
        rw [← run.2 c member, isWord.2 c (same ▸ member)]
      rw [kinds]
      exact isRun_of_isWord isNew

theorem runs_renameWord {new : Text} (isNew : IsWord new) (t : Text) :
    runs (renameWord word new t) = (runs t).map (renamedRun word new) := by
  obtain ⟨kind, alternating⟩ := runs_alternating t
  rw [renameWord_eq_flatten isWord, runs_flatten (alternating.renamed isWord isNew)]

theorem hasWord_renameWord_new {new : Text} (isNew : IsWord new) {t : Text}
    (found : hasWord word t = true) : hasWord new (renameWord word new t) = true := by
  rw [hasWord_iff_mem_runs isWord] at found
  rw [hasWord_iff_mem_runs isNew, runs_renameWord isWord isNew]
  exact List.mem_map.mpr ⟨word, found, if_pos rfl⟩

theorem not_hasWord_renameWord {new : Text} (isNew : IsWord new) (differ : new ≠ word) (t : Text) :
    hasWord word (renameWord word new t) = false := by
  rw [← Bool.not_eq_true, hasWord_iff_mem_runs isWord, runs_renameWord isWord isNew]
  intro member
  obtain ⟨r, _, eq⟩ := List.mem_map.mp member
  rw [renamedRun] at eq
  split at eq
  · exact differ eq
  · contradiction

end
end CrossShader.Text
