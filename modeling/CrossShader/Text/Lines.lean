import CrossShader.Text.Basic

/-!
Cutting a text into lines. Shader sources are cut at line feeds alone, so that joining the lines
gives the source back; requirement lists are cut at every boundary that Unicode knows. Blanks are
white space as Unicode counts it and the four information separators U+001C to U+001F, but not the
zero width space, the byte order mark and the Mongolian vowel separator.
-/
namespace CrossShader.Text

/-- The pieces between the code points that satisfy `p`; one more than there are of those. -/
def splitWhere (p : CodePoint → Bool) : Text → List Text
  | [] => [[]]
  | c :: rest =>
    if p c then [] :: splitWhere p rest
    else match splitWhere p rest with
      | [] => [[c]]
      | piece :: pieces => (c :: piece) :: pieces

def lines (t : Text) : List Text := splitWhere (· == newline) t

def unlines (ls : List Text) : Text := join [newline] ls

def unifyLineEnds : Text → Text
  | [] => []
  | 13 :: 10 :: rest => 10 :: unifyLineEnds rest
  | c :: rest => (if c = 13 then 10 else c) :: unifyLineEnds rest

/-- Line feed, the tabulators and separators that end a line, next line, and the line and paragraph
separators. A carriage return is one as well; texts come here with unified line ends. -/
def endsLine (c : CodePoint) : Bool :=
  (10 ≤ c && c ≤ 13) || (28 ≤ c && c ≤ 30) || c == 0x85 || c == 0x2028 || c == 0x2029

/-- Lines in the wide sense, without an empty one after the last boundary. -/
def wideLines (t : Text) : List Text :=
  let pieces := splitWhere endsLine t
  if pieces.getLast? = some [] then pieces.dropLast else pieces

theorem splitWhere_ne_nil (p : CodePoint → Bool) (t : Text) : splitWhere p t ≠ [] := by
  induction t with
  | nil => simp [splitWhere]
  | cons c rest ih =>
    rw [splitWhere]
    split
    · simp
    · split <;> simp

theorem unlines_lines (t : Text) : unlines (lines t) = t := by
  induction t with
  | nil => rfl
  | cons c rest ih =>
    unfold lines at ih ⊢
    rw [splitWhere]
    split
    case isTrue h =>
      have hc : c = newline := by simpa using h
      cases hs : splitWhere (· == newline) rest with
      | nil => exact absurd hs (splitWhere_ne_nil _ _)
      | cons piece pieces =>
        rw [hs] at ih
        rw [← ih, hc]
        rfl
    case isFalse h =>
      cases hs : splitWhere (· == newline) rest with
      | nil => exact absurd hs (splitWhere_ne_nil _ _)
      | cons piece pieces =>
        rw [hs] at ih
        cases pieces <;> simp_all [unlines, join]

def blanks : CharSet := [
  (9, 13), (28, 32), (133, 133), (160, 160), (5760, 5760), (8192, 8202), (8232, 8233),
  (8239, 8239), (8287, 8287), (12288, 12288)]

def isBlank (c : CodePoint) : Bool := blanks.has c

def indent (t : Text) : Text := t.takeWhile isBlank

def stripLeft (t : Text) : Text := t.dropWhile isBlank

def stripRight (t : Text) : Text := (t.reverse.dropWhile isBlank).reverse

def strip (t : Text) : Text := stripRight (stripLeft t)

theorem indent_append_stripLeft (t : Text) : indent t ++ stripLeft t = t :=
  List.takeWhile_append_dropWhile

end CrossShader.Text
