/-! Blank characters of Unicode text.

A line is blank when it holds nothing but these characters. The set is the
characters of the separator categories together with the control characters
that act as separators, so it is larger than the ASCII one.
-/

set_option autoImplicit false

namespace PageRoutes.Text

/-- A character that separates words: ASCII white space, the information separators,
and the space, line and paragraph separators of Unicode. -/
def isBlank (c : Char) : Bool :=
  let code := c.val
  (0x09 ≤ code && code ≤ 0x0d) || (0x1c ≤ code && code ≤ 0x20) || code = 0x85 || code = 0xa0 ||
    code = 0x1680 || (0x2000 ≤ code && code ≤ 0x200a) || code = 0x2028 || code = 0x2029 ||
    code = 0x202f || code = 0x205f || code = 0x3000

theorem isBlank_space : isBlank ' ' = true := by decide

theorem isBlank_newline : isBlank '\n' = true := by decide

theorem isBlank_of_isWhitespace (c : Char) (white : c.isWhitespace = true) : isBlank c = true := by
  have cases : c = ' ' ∨ c = '\t' ∨ c = '\r' ∨ c = '\n' := by
    simpa [Char.isWhitespace, or_assoc] using white
  rcases cases with rfl | rfl | rfl | rfl <;> decide

end PageRoutes.Text
