import CrossShader.Text.Printable

/-!
Texts with escapes. Between quotes on one line a text has single quotes unless it holds one and no
double quote; without quotes only what a stream cannot take or must not see is escaped.
-/
namespace CrossShader.Text

def singleQuote : CodePoint := 39
def doubleQuote : CodePoint := 34
def backslash : CodePoint := 92

/-- The shortest of the three numeric escapes that has room. -/
def numericEscape (c : CodePoint) : Text :=
  if c < 0x100 then text "\\x" ++ hex 2 c
  else if c < 0x10000 then text "\\u" ++ hex 4 c
  else text "\\U" ++ hex 8 c

def quotedChar (quote c : CodePoint) : Text :=
  if c = quote || c = backslash then [backslash, c]
  else if c = 10 then text "\\n"
  else if c = 13 then text "\\r"
  else if c = 9 then text "\\t"
  else if isPrintable c then [c]
  else numericEscape c

def quoted (t : Text) : Text :=
  let quote := if t.contains singleQuote && !t.contains doubleQuote then doubleQuote
    else singleQuote
  quote :: t.flatMap (quotedChar quote) ++ [quote]

def isControl (c : CodePoint) : Bool := c < 32 || (127 ≤ c && c < 160)

def spellControls (t : Text) : Text :=
  t.flatMap fun c => if isControl c then numericEscape c else [c]

def spellSurrogates (t : Text) : Text :=
  t.flatMap fun c => if isScalar c then [c] else numericEscape c

end CrossShader.Text
