import CrossShader.Proofs.Text.Blank
import CrossShader.Text.Word

/-!
Whole words and what stands around them. Characters that belong to no word neither make nor break a
whole occurrence, so blanks at the ends of a line are immaterial; without an occurrence nothing is
renamed.
-/
namespace CrossShader.Text

def IsWord (word : Text) : Prop := word ≠ [] ∧ ∀ c ∈ word, isWordChar c = true

def Wordless (t : Text) : Prop := ∀ c ∈ t, isWordChar c = false

theorem wordless_of_blank {t : Text} (blank : Blank t) : Wordless t := by
  intro c member
  exact no_word_char_of_blank (blank c member)

theorem not_startsWithWordChar_of_wordless {t : Text} (wordless : Wordless t) :
    startsWithWordChar t = false := by
  cases t with
  | nil => rfl
  | cons c rest => exact wordless c List.mem_cons_self

theorem leadsWhole_nil (t : Text) : leadsWhole [] t = !startsWithWordChar t := by
  simp [leadsWhole]

theorem leadsWhole_cons_cons (w c : CodePoint) (ws t : Text) :
    leadsWhole (w :: ws) (c :: t) = (w == c && leadsWhole ws t) := by
  simp only [leadsWhole, List.isPrefixOf, List.length_cons, List.drop_succ_cons, Bool.and_assoc]

theorem not_leadsWhole_of_outside {word : Text} (isWord : IsWord word) {c : CodePoint}
    (outside : isWordChar c = false) (rest : Text) : leadsWhole word (c :: rest) = false := by
  obtain ⟨nonempty, chars⟩ := isWord
  cases word with
  | nil => contradiction
  | cons w ws =>
    have differ : w ≠ c := by
      intro same
      rw [← same, chars w List.mem_cons_self] at outside
      contradiction
    simp [leadsWhole_cons_cons, differ]

theorem not_leadsWhole_of_ends {word t : Text} (isWord : IsWord word)
    (ends : startsWithWordChar t = false) : leadsWhole word t = false := by
  cases t with
  | nil =>
    cases word with
    | nil => exact absurd rfl isWord.1
    | cons w ws => rfl
  | cons c rest => exact not_leadsWhole_of_outside isWord ends rest

/-- What begins with no word character adds nothing to the words before it. -/
theorem leadsWhole_append {t b : Text} (ends : startsWithWordChar b = false) :
    ∀ word : Text, (∀ c ∈ word, isWordChar c = true) →
      leadsWhole word (t ++ b) = leadsWhole word t := by
  -- The word gets shorter along with the text, so the induction is for every word.
  induction t with
  | nil =>
    intro word chars
    cases word with
    | nil =>
      rw [List.nil_append, leadsWhole_nil, leadsWhole_nil, ends]
      rfl
    | cons w ws =>
      exact not_leadsWhole_of_ends ⟨List.cons_ne_nil w ws, chars⟩ ends
  | cons c rest ih =>
    intro word chars
    cases word with
    | nil => simp [leadsWhole_nil, startsWithWordChar]
    | cons w ws =>
      have tail := ih ws fun x member => chars x (List.mem_cons_of_mem w member)
      rw [List.cons_append, leadsWhole_cons_cons, leadsWhole_cons_cons, tail]

theorem not_hasWordFrom_of_absent {word t : Text} {c : CodePoint} (inside : c ∈ word)
    (absent : c ∉ t) (inWord : Bool) : hasWordFrom word inWord t = false := by
  induction t generalizing inWord with
  | nil => rfl
  | cons d rest ih =>
    have elsewhere : ¬ word <+: d :: rest := fun begins => absent (begins.mem inside)
    have here : leadsWhole word (d :: rest) = false := by
      rw [leadsWhole, Bool.eq_false_iff.mpr (mt List.isPrefixOf_iff_prefix.mp elsewhere)]
      rfl
    rw [hasWordFrom, here, ih fun later => absent (List.mem_cons_of_mem d later)]
    simp

theorem not_hasWord_of_absent {word t : Text} {c : CodePoint} (inside : c ∈ word)
    (absent : c ∉ t) : hasWord word t = false :=
  not_hasWordFrom_of_absent inside absent false

section
variable {word : Text} (isWord : IsWord word)
include isWord

theorem not_hasWordFrom_of_wordless {t : Text} (wordless : Wordless t) (inWord : Bool) :
    hasWordFrom word inWord t = false := by
  induction t generalizing inWord with
  | nil => rfl
  | cons c rest ih =>
    have later : Wordless rest := fun x member => wordless x (List.mem_cons_of_mem c member)
    have ends := not_startsWithWordChar_of_wordless wordless
    rw [hasWordFrom, not_leadsWhole_of_ends isWord ends, ih later]
    simp

theorem hasWordFrom_append_wordless (t : Text) {b : Text} (wordless : Wordless b)
    (inWord : Bool) : hasWordFrom word inWord (t ++ b) = hasWordFrom word inWord t := by
  induction t generalizing inWord with
  | nil => exact not_hasWordFrom_of_wordless isWord wordless inWord
  | cons c rest ih =>
    have ends := not_startsWithWordChar_of_wordless wordless
    have here := leadsWhole_append (t := c :: rest) ends word isWord.2
    rw [List.cons_append] at here
    rw [List.cons_append, hasWordFrom, hasWordFrom, here, ih]

theorem hasWord_wordless_append {a : Text} (wordless : Wordless a) (t : Text) :
    hasWord word (a ++ t) = hasWord word t := by
  unfold hasWord
  induction a with
  | nil => rfl
  | cons c rest ih =>
    have later : Wordless rest := fun x member => wordless x (List.mem_cons_of_mem c member)
    have outside := wordless c List.mem_cons_self
    rw [List.cons_append, hasWordFrom, not_leadsWhole_of_outside isWord outside, outside, ih later]
    rfl

theorem hasWord_between_wordless {a b : Text} (before : Wordless a) (after : Wordless b)
    (t : Text) : hasWord word (a ++ t ++ b) = hasWord word t := by
  rw [hasWord, hasWordFrom_append_wordless isWord (a ++ t) after, ← hasWord,
    hasWord_wordless_append isWord before]

theorem hasWord_strip (t : Text) : hasWord word (strip t) = hasWord word t := by
  obtain ⟨tail, blank, eq⟩ := indent_append_strip t
  conv => rhs; rw [← eq]
  exact (hasWord_between_wordless isWord (wordless_of_blank (blank_indent t))
    (wordless_of_blank blank) (strip t)).symm

end

theorem renameWordFrom_of_not_hasWordFrom (word new t : Text) (inWord : Bool)
    (absent : hasWordFrom word inWord t = false) : renameWordFrom word new inWord t = t := by
  induction t generalizing inWord with
  | nil => rw [renameWordFrom]
  | cons c rest ih =>
    rw [hasWordFrom, Bool.or_eq_false_iff] at absent
    rw [renameWordFrom, absent.1, ih _ absent.2]
    rfl

theorem renameWord_of_not_hasWord {word t : Text} (new : Text) (absent : hasWord word t = false) :
    renameWord word new t = t :=
  renameWordFrom_of_not_hasWordFrom word new t false absent

end CrossShader.Text
