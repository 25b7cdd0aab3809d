import CrossShader.Boundaries
import CrossShader.Proofs.Files.Writing
import CrossShader.Proofs.Text.Lines
import CrossShader.Proofs.Text.Order
import CrossShader.Text.Lines

/-!
What a passing check of the boundaries rules out. It looks for phrases anywhere in a file, so that
no line of a checked file imports what is banned there in a form that has its phrase. One form has
none: names that are imported out of the module that starts processes.
-/
namespace CrossShader

theorem Text.occurs_iff {pattern t : Text} : occurs pattern t = true ↔ pattern <:+: t := by
  induction t with
  | nil => simp [occurs]
  | cons c rest ih =>
    rw [occurs, Bool.or_eq_true, List.isPrefixOf_iff_prefix, ih, List.infix_cons_iff]

namespace Files
open Text
variable {fs : Files}

theorem follow_named {place found steps : List Text} {node last : Node}
    (named : ∀ step ∈ steps, Path.isIdle step = false ∧ step ≠ Path.up)
    (leads : fs.follow place node steps = .found found last) : found = place ++ steps := by
  induction steps generalizing place node with
  | nil =>
    rw [follow, Target.found.injEq] at leads
    rw [List.append_nil, leads.1]
  | cons step rest ih =>
    obtain ⟨busy, below⟩ := named step List.mem_cons_self
    have later : ∀ next ∈ rest, Path.isIdle next = false ∧ next ≠ Path.up :=
      fun next listed => named next (List.mem_cons_of_mem step listed)
    simp only [follow, busy, Bool.false_eq_true, if_false, if_neg below] at leads
    split at leads
    · simp at leads
    · split at leads
      · simp at leads
      · split at leads
        · rw [ih later leads, List.append_assoc, List.singleton_append]
        · split at leads <;> simp at leads

/-- What a reader finds in a file below the working directory: the text of its bytes, which are
strict UTF-8, with unified line ends. -/
def HasText (fs : Files) (place : List Text) (t : Text) : Prop :=
  ∃ content raw, fs.node? (home ++ place) = some (.file content) ∧
    Utf8.decode content = .ok raw ∧ t = unifyLineEnds raw

theorem hasText_of_readText {place : List Text} {t : Text}
    (named : ∀ step ∈ place, Path.isIdle step = false ∧ step ≠ Path.up)
    (reads : fs.readText ⟨false, place⟩ = .ok t) : fs.HasText place t := by
  rw [readText] at reads
  split at reads
  case h_1 => simp at reads
  case h_2 content given =>
    split at reads
    case h_1 => simp at reads
    case h_2 raw decoded =>
      refine ⟨content, raw, ?_, decoded, (Except.ok.inj reads).symm⟩
      rw [read] at given
      split at given
      case h_1 found _ leads =>
        obtain rfl := Except.ok.inj given
        have there := locate_file leads
        rw [locate] at leads
        split at leads
        · simp at leads
        · rwa [follow_named named leads] at there
      all_goals simp at given

theorem HasText.unique {place : List Text} {t u : Text} (first : fs.HasText place t)
    (second : fs.HasText place u) : t = u := by
  obtain ⟨content, raw, there, decoded, rfl⟩ := first
  obtain ⟨content', raw', there', decoded', rfl⟩ := second
  obtain rfl : content = content' := by simpa using there.symm.trans there'
  rw [Except.ok.inj (decoded.symm.trans decoded')]

theorem mem_names {steps : List Text} {name : Text} {node : Node}
    (there : fs.node? (home ++ (steps ++ [name])) = some node) : name ∈ fs.names steps := by
  have below : ¬ (home ++ (steps ++ [name])).isEmpty = true := by simp
  rw [node?, if_neg below] at there
  obtain ⟨front, rest, eq, _⟩ := List.lookup_eq_some_iff.mp there
  rw [names, mem_sorted, List.mem_filterMap]
  refine ⟨(home ++ (steps ++ [name]), node), by simp [eq], ?_⟩
  dsimp only
  rw [← List.append_assoc, List.dropLast_concat, if_pos rfl, List.getLast?_concat]

end Files

namespace Boundaries
open Text Files

theorem forM_eq_ok {ε α : Type} {act : α → Except ε Unit} {xs : List α} :
    xs.forM act = .ok () ↔ ∀ x ∈ xs, act x = .ok () := by
  induction xs with
  | nil => simp [List.forM, pure, Except.pure]
  | cons x rest ih =>
    change (act x >>= fun _ => rest.forM act) = _ ↔ _
    rw [List.forall_mem_cons, ← ih]
    cases act x <;> simp [bind, Except.bind]

/-- The sources that neither talk to the outside nor start processes. -/
def IsCore (place : List Text) : Prop :=
  place = [text "src", text "shader_converter", text "normalize.py"] ∨
    ∃ directory ∈ [text "application", text "adapters"], ∃ name, text ".py" <:+ name ∧
      place = [text "src", text "shader_converter", directory, name]

/-- The file must not import the module. -/
inductive Bans : List Text → Text → Prop where
  | core {place : List Text} {module : Text} (isCore : IsCore place)
      (listed : module ∈ [text "typer", text "fastapi", text "subprocess"]) : Bans place module
  | command : Bans [text "src", text "shader_converter", text "cli", text "cli.py"] (text "fastapi")

/-- The line imports the module by its name, or names out of it. -/
def Imports (module line : Text) : Prop :=
  text "import " ++ module <+: stripLeft line ∨
    text "from " ++ module ++ text " import" <+: stripLeft line

theorem checkFile_eq_ok {fs : Files} {place phrases : List Text} :
    checkFile fs place phrases = .ok () ↔ ∃ t, fs.readText ⟨false, place⟩ = .ok t ∧
      ∀ phrase ∈ phrases, ¬ phrase <:+: t := by
  rw [checkFile]
  cases fs.readText ⟨false, place⟩ with
  | error cause => simp
  | ok t =>
    have silent : (phrases.find? fun phrase => occurs phrase t) = none ↔
        ∀ phrase ∈ phrases, ¬ phrase <:+: t := by
      simp only [List.find?_eq_none, occurs_iff]
    simp only [Except.ok.injEq, exists_eq_left', ← silent]
    split <;> simp_all

theorem named_of_suffix {name : Text} (source : text ".py" <:+ name) :
    Path.isIdle name = false ∧ name ≠ Path.up := by
  obtain ⟨front, rfl⟩ := source
  have long : 3 ≤ (front ++ text ".py").length := by simp [text]
  constructor
  · rw [Path.isIdle, Bool.or_eq_false_iff, List.isEmpty_eq_false_iff, beq_eq_false_iff_ne]
    constructor
    · intro empty
      simp [empty] at long
    · intro stays
      rw [stays] at long
      exact absurd long (by decide)
  · intro up
    rw [up] at long
    exact absurd long (by decide)

theorem Bans.named {place : List Text} {module : Text} (bans : Bans place module) :
    ∀ step ∈ place, Path.isIdle step = false ∧ step ≠ Path.up := by
  cases bans with
  | core isCore =>
    rcases isCore with rfl | ⟨directory, inside, name, source, rfl⟩
    · decide
    · have directories : ∀ step ∈ [text "application", text "adapters"],
          Path.isIdle step = false ∧ step ≠ Path.up := by decide
      simp only [List.forall_mem_cons]
      exact ⟨by decide, by decide, directories directory inside, named_of_suffix source, by simp⟩
  | command => decide

theorem core_mem_rules {fs : Files} {place : List Text} {node : Node} (isCore : IsCore place)
    (there : fs.node? (home ++ place) = some node) : (place, corePhrases) ∈ rules fs := by
  have listed : place ∈ (package ++ [text "normalize.py"]) ::
      (modulesIn fs (text "application") ++ modulesIn fs (text "adapters")) := by
    rcases isCore with rfl | ⟨directory, inside, name, source, rfl⟩
    · exact List.mem_cons_self
    · have among : [text "src", text "shader_converter", directory, name] ∈
          modulesIn fs directory := by
        refine List.mem_map.mpr ⟨name, List.mem_filter.mpr ⟨mem_names there, ?_⟩, rfl⟩
        exact List.isSuffixOf_iff_suffix.mpr source
      simp only [List.mem_cons, List.not_mem_nil, or_false] at inside
      rcases inside with rfl | rfl
      · exact List.mem_cons_of_mem _ (List.mem_append_left _ among)
      · exact List.mem_cons_of_mem _ (List.mem_append_right _ among)
  exact List.mem_append_left _ (List.mem_map_of_mem listed)

theorem Bans.mem_rules {fs : Files} {place : List Text} {module : Text} {node : Node}
    (bans : Bans place module) (there : fs.node? (home ++ place) = some node) :
    ∃ phrases, (place, phrases) ∈ rules fs ∧ text "import " ++ module ∈ phrases ∧
      (module = text "subprocess" ∨ text "from " ++ module ∈ phrases) := by
  cases bans with
  | core isCore listed =>
    refine ⟨corePhrases, core_mem_rules isCore there, ?_⟩
    revert module
    decide
  | command =>
    exact ⟨commandPhrases, List.mem_append_right _ (List.mem_singleton.mpr rfl), by decide,
      by decide⟩

section
variable {fs : Files} (passes : check fs = .ok ()) {place : List Text} {module : Text}
  (bans : Bans place module)
include passes bans

theorem hasText_of_passing {content : Bytes}
    (there : fs.node? (home ++ place) = some (.file content)) : ∃ t, fs.HasText place t := by
  obtain ⟨phrases, rule, _⟩ := bans.mem_rules there
  obtain ⟨t, reads, _⟩ := checkFile_eq_ok.mp (forM_eq_ok.mp passes _ rule)
  exact ⟨t, hasText_of_readText bans.named reads⟩

theorem import_of_passing {t line : Text} (given : fs.HasText place t) (listed : line ∈ lines t)
    (imports : Imports module line) :
    module = text "subprocess" ∧ text "from subprocess import" <+: stripLeft line := by
  have ⟨_, _, there, _⟩ := given
  obtain ⟨phrases, rule, direct, outOf⟩ := bans.mem_rules there
  obtain ⟨u, reads, silent⟩ := checkFile_eq_ok.mp (forM_eq_ok.mp passes _ rule)
  obtain rfl := given.unique (hasText_of_readText bans.named reads)
  have inside : stripLeft line <:+: t :=
    (List.dropWhile_suffix isBlank).isInfix.trans (infix_of_mem_lines listed)
  rcases imports with byName | names
  · exact absurd (byName.isInfix.trans inside) (silent _ direct)
  · rcases outOf with rfl | phrase
    · exact ⟨rfl, names⟩
    · have begins := (List.prefix_append _ _).trans names
      exact absurd (begins.isInfix.trans inside) (silent _ phrase)

end

/-- After a check that passes every checked file is text, and none of its lines imports what is
banned there but in one form. So the bans hold exactly if no core source has a line of that form. -/
theorem passing_check_bans_iff (fs : Files) (passes : check fs = .ok ()) :
    (∀ place module content, Bans place module →
        fs.node? (home ++ place) = some (.file content) → ∃ t, fs.HasText place t) ∧
      (∀ place module t, Bans place module → fs.HasText place t → ∀ line ∈ lines t,
        Imports module line →
          module = text "subprocess" ∧ text "from subprocess import" <+: stripLeft line) ∧
      ((∀ place module t, Bans place module → fs.HasText place t → ∀ line ∈ lines t,
          ¬ Imports module line) ↔
        ∀ place t, IsCore place → fs.HasText place t → ∀ line ∈ lines t,
          ¬ text "from subprocess import" <+: stripLeft line) := by
  refine ⟨fun _ _ _ bans there => hasText_of_passing passes bans there,
    fun _ _ _ bans given _ listed => import_of_passing passes bans given listed, ?_⟩
  constructor
  · intro clean place t isCore given line listed names
    exact clean place (text "subprocess") t (.core isCore (by simp)) given line listed (.inr names)
  · intro clean place module t bans given line listed imports
    obtain ⟨rfl, names⟩ := import_of_passing passes bans given listed imports
    cases bans with
    | core isCore => exact clean place t isCore given line listed names

def treeOf (core command : String) : Files :=
  let bytes (s : String) : Bytes := (text s).flatMap Utf8.encodeChar
  .ofList [(text "src/shader_converter/normalize.py", some (bytes core)),
    (text "src/shader_converter/cli/cli.py", some (bytes command))]

theorem commands_import_their_transport :
    let fs := treeOf "\timport re\r\n" "import typer\n"
    let core := [text "src", text "shader_converter", text "normalize.py"]
    check fs = .ok () ∧ fs.HasText core (text "\timport re\n") ∧ Bans core (text "typer") ∧
      ∀ line ∈ lines (text "\timport re\n"), ¬ Imports (text "typer") line := by
  intro fs core
  have passes : check fs = .ok () := by decide +kernel
  have bans : Bans core (text "typer") := .core (.inl rfl) (by simp)
  have given : fs.HasText core (text "\timport re\n") :=
    ⟨(text "\timport re\r\n").flatMap Utf8.encodeChar, text "\timport re\r\n",
      by decide, by decide +kernel, by decide⟩
  refine ⟨passes, given, bans, ?_⟩
  intro line listed imports
  have missed := (passing_check_bans_iff fs passes).2.1 core _ _ bans given line listed imports
  exact absurd missed.1 (by decide)

/-- A core source may take what starts processes out of its module: no phrase stands for that form. -/
theorem process_import_is_missed :
    let fs := treeOf "from subprocess import run\n" "import typer\n"
    check fs = .ok () ∧ ∃ place t line, Bans place (text "subprocess") ∧ fs.HasText place t ∧
      line ∈ lines t ∧ Imports (text "subprocess") line := by
  intro fs
  refine ⟨by decide +kernel, [text "src", text "shader_converter", text "normalize.py"],
    text "from subprocess import run\n", text "from subprocess import run",
    .core (.inl rfl) (by simp), ?_, by decide, .inr (by decide)⟩
  exact ⟨(text "from subprocess import run\n").flatMap Utf8.encodeChar,
    text "from subprocess import run\n", by decide, by decide +kernel, by decide⟩

end Boundaries
end CrossShader
