import Mathlib.Data.List.TakeWhile
import PageRoutes.Text.Lines

/-! Texts that are put together from lines.

As long as no line holds a boundary of its own and none is blank, the lines come out of the
text as they went in.
-/

set_option autoImplicit false

namespace PageRoutes.Text

def joinLines (parts : List (List Char)) : List Char := ['\n'].intercalate parts

/-- A line of its own: it has something in it, and nothing that would end it. -/
structure IsLine (line : List Char) : Prop where
  visible : line.all isBlank = false
  whole : ∀ c ∈ line, isLineBoundary c = false

theorem IsLine.nonempty {line : List Char} (plain : IsLine line) : line ≠ [] := by
  rintro rfl
  cases plain.visible

theorem IsLine.append {line : List Char} (plain : IsLine line) {front : List Char}
    (whole : ∀ c ∈ front, isLineBoundary c = false) : IsLine (front ++ line) := by
  constructor
  · rw [List.all_append, plain.visible, Bool.and_false]
  · intro c member
    rcases List.mem_append.1 member with before | inside
    · exact whole c before
    · exact plain.whole c inside

theorem isLineBoundary_newline : isLineBoundary '\n' = true := by decide

theorem joinLines_cons_cons (first second : List Char) (rest : List (List Char)) :
    joinLines (first :: second :: rest) = first ++ '\n' :: joinLines (second :: rest) := by
  rw [joinLines, List.intercalate_cons_cons, List.append_assoc]
  rfl

theorem joinLines_append {first rest : List (List Char)} (filled : first ≠ []) (more : rest ≠ []) :
    joinLines (first ++ rest) = joinLines first ++ '\n' :: joinLines rest := by
  induction first with
  | nil => exact absurd rfl filled
  | cons line others ih =>
    cases others with
    | nil =>
      obtain ⟨next, tail, rfl⟩ := List.exists_cons_of_ne_nil more
      rw [List.singleton_append, joinLines_cons_cons]
      simp [joinLines]
    | cons second lines =>
      have below := ih (List.cons_ne_nil second lines)
      rw [List.cons_append] at below
      rw [List.cons_append, List.cons_append, joinLines_cons_cons, below, joinLines_cons_cons,
        List.append_assoc, List.cons_append]

theorem lines_append_newline {line : List Char} (whole : ∀ c ∈ line, isLineBoundary c = false)
    (rest : List Char) : lines (line ++ '\n' :: rest) = (line ++ ['\n']) :: lines rest := by
  induction line with
  | nil =>
    rw [List.nil_append, lines, if_pos isLineBoundary_newline]
    · rfl
    · intro _ isReturn
      cases isReturn
  | cons c others ih =>
    have head : isLineBoundary c = false := whole c List.mem_cons_self
    have notReturn : c ≠ '\r' := by rintro rfl; simp [isLineBoundary] at head
    have tail := ih fun d member => whole d (List.mem_cons_of_mem _ member)
    rw [List.cons_append, lines, if_neg (by simp [head]), tail]
    · rfl
    · exact fun _ isReturn => absurd isReturn notReturn

theorem lines_joinLines {parts : List (List Char)} (plain : ∀ line ∈ parts, IsLine line) :
    (lines (joinLines parts)).map (fun line => line.takeWhile fun c => !isLineBoundary c) =
      parts := by
  induction parts with
  | nil => rfl
  | cons first rest ih =>
    have head := plain first List.mem_cons_self
    have open' : ∀ c ∈ first, (!isLineBoundary c) = true := fun c member => by
      rw [head.whole c member, Bool.not_false]
    cases rest with
    | nil =>
      rw [joinLines, List.intercalate_singleton, lines_of_no_boundary first head.nonempty head.whole,
        List.map_singleton, List.takeWhile_eq_self_iff.2 open']
    | cons second others =>
      have below := ih fun line member => plain line (List.mem_cons_of_mem _ member)
      rw [joinLines_cons_cons, lines_append_newline head.whole, List.map_cons, below,
        List.takeWhile_append_of_pos open',
        List.takeWhile_cons_of_neg (by simp [isLineBoundary_newline]), List.append_nil]

theorem indentLine_of_visible {line : List Char} (visible : line.all isBlank = false)
    (margin rest : List Char) : indentLine margin (line ++ rest) = margin ++ (line ++ rest) := by
  rw [indentLine, List.all_append, visible, Bool.false_and]
  rfl

theorem joinLines_flatten {groups : List (List (List Char))} (filled : ∀ group ∈ groups, group ≠ []) :
    joinLines (groups.map joinLines) = joinLines groups.flatten := by
  induction groups with
  | nil => rfl
  | cons group rest ih =>
    have below := ih fun other member => filled other (List.mem_cons_of_mem _ member)
    cases rest with
    | nil => simp [joinLines]
    | cons next others =>
      have more : (next :: others).flatten ≠ [] := by
        rw [List.flatten_cons]
        exact List.append_ne_nil_of_left_ne_nil (filled next (by simp)) _
      rw [List.map_cons] at below
      rw [List.map_cons, List.map_cons, joinLines_cons_cons, below,
        ← joinLines_append (filled group (by simp)) more]
      rfl

end PageRoutes.Text
