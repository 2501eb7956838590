import PageRoutes.Text.Blank

/-! Lines of a text and their indentation.

A line ends at any of the Unicode line boundaries, not only at a line feed, and
keeps its boundary; a carriage return and the line feed after it are one boundary.
Indenting puts a margin in front of every line that is not blank.
-/

set_option autoImplicit false

namespace PageRoutes.Text

def isLineBoundary (c : Char) : Bool :=
  let code := c.val
  (0x0a ≤ code && code ≤ 0x0d) || (0x1c ≤ code && code ≤ 0x1e) || code = 0x85 ||
    code = 0x2028 || code = 0x2029

/-- The lines of a text, each with the boundary that ends it. -/
def lines : List Char → List (List Char)
  | [] => []
  | '\r' :: '\n' :: rest => ['\r', '\n'] :: lines rest
  | c :: rest =>
    if isLineBoundary c then [c] :: lines rest
    else
      match lines rest with
      | [] => [[c]]
      | first :: others => (c :: first) :: others

theorem flatten_lines (text : List Char) : (lines text).flatten = text := by
  fun_induction lines text with
  | case1 => rfl
  | case2 rest ih => simp [ih]
  | case3 c rest _ _ ih => simp [ih]
  | case4 c rest _ _ empty ih => rw [empty] at ih; simp [← ih]
  | case5 c rest _ _ first others found ih => rw [found] at ih; simp [← ih]

/-- A line without a character that is not blank takes no margin. -/
def indentLine (margin line : List Char) : List Char :=
  if line.all isBlank then line else margin ++ line

def indentChars (margin text : List Char) : List Char :=
  ((lines text).map (indentLine margin)).flatten

def indent (width : Nat) (text : String) : String :=
  String.ofList (indentChars (List.replicate width ' ') text.toList)

theorem lines_of_no_boundary (text : List Char) (nonempty : text ≠ [])
    (free : ∀ c ∈ text, isLineBoundary c = false) : lines text = [text] := by
  induction text with
  | nil => exact absurd rfl nonempty
  | cons c rest ih =>
    have head : isLineBoundary c = false := free c (by simp)
    have notReturn : c ≠ '\r' := by rintro rfl; simp [isLineBoundary] at head
    cases rest with
    | nil => simp [lines, head]
    | cons d others =>
      have tail : lines (d :: others) = [d :: others] :=
        ih (by simp) (fun e member => free e (List.mem_cons_of_mem _ member))
      rw [lines, if_neg (by simp [head]), tail]
      exact fun _ isReturn => absurd isReturn notReturn

theorem indentChars_nil (text : List Char) : indentChars [] text = text := by
  have same : indentLine [] = id := by
    funext line
    simp [indentLine]
  simp [indentChars, same, flatten_lines]

end PageRoutes.Text
