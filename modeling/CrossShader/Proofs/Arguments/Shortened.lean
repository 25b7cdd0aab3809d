import CrossShader.Arguments.Shortened
import CrossShader.Proofs.Arguments.Basic
import CrossShader.Text.Table

/-!
Command lines that are read to the end with no word left over. Each word of such a line is a flag,
or the value of the flag before it, and a value that is attached to a long name makes no difference
to the flag that the name means.
-/
namespace CrossShader.Arguments
open Text

section
variable {flags : List Flag} {words : List Text} {uses : List Use}

end
end CrossShader.Arguments
