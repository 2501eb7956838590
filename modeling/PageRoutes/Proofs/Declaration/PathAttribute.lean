import PageRoutes.Proofs.Declaration.Placed
import PageRoutes.Proofs.Declaration.Written

/-! The path attributes of an indented text.

A path stands between the beginning of its element and a double quote. What is read from there
up to the next double quote is the path exactly if the path has no double quote and no boundary
in it: a double quote ends the attribute too early, and behind a boundary there is a margin that
does not belong to the path.
-/

set_option autoImplicit false

namespace PageRoutes.Declaration

def Line.path? : Line → Option String
  | .page path _ => some path
  | .opening path _ => some path
  | _ => none

def pathOpening : List Char := "<Route path=\"".toList

theorem exists_write_of_path {line : Line} {path : String} (named : line.path? = some path)
    (words : ∀ component ∈ line.component?, IsWord component) :
    ∃ behind, line.write.toList = pathOpening ++ (path.toList ++ '"' :: behind) ∧
      Text.Unbroken ('"' :: behind) := by
  have quote : "\"".toList = ['"'] := by decide
  have start : pathOpening = "<Route ".toList ++ "path=\"".toList := by decide
  have closes : ∀ {component ending : String}, IsWord component → IsWhole ending →
      Text.Unbroken ('"' :: (" ".toList ++ ((element component).toList ++ ending.toList))) := by
    intro component ending word whole
    refine List.forall_mem_cons.2 ⟨by decide, Text.unbroken_append_iff.2 ⟨by decide, ?_⟩⟩
    exact Text.unbroken_append_iff.2 ⟨whole_element word, whole⟩
  cases line with
  | index component => cases named
  | closing => cases named
  | page other component =>
    cases named
    refine ⟨_, ?_, closes (words component rfl) (show IsWhole " />" by decide)⟩
    simp only [start, Line.write, pathAttribute, quote, String.toList_append,
      List.append_assoc, List.cons_append, List.nil_append]
  | opening other layout =>
    cases named
    cases layout with
    | none =>
      refine ⟨">".toList, ?_, by decide⟩
      simp only [start, Line.write, pathAttribute, quote, String.toList_append,
        List.append_assoc, List.cons_append, List.nil_append]
    | some component =>
      refine ⟨_, ?_, closes (words component rfl) (show IsWhole ">" by decide)⟩
      simp only [start, Line.write, pathAttribute, quote, String.toList_append,
        List.append_assoc, List.cons_append, List.nil_append]

/-- Behind its margin an indented line with a path has the beginning of its element, what is
shown of the path, and the rest. -/
theorem exists_block_of_path {line : Line} {path : String} (named : line.path? = some path)
    (words : ∀ component ∈ line.component?, IsWord component) {margin depth : Nat}
    (inside : 0 < margin + indentWidth * depth) :
    ∃ shown behind, line.write.toList = pathOpening ++ (path.toList ++ '"' :: behind) ∧
      block margin (depth, line) = List.replicate (margin + indentWidth * depth) ' ' ++
        (pathOpening ++ (shown ++ '"' :: behind)) ∧
      (shown = path.toList ↔ Text.Unbroken path.toList) ∧
      ('"' ∈ shown ↔ '"' ∈ path.toList) := by
  obtain ⟨behind, written, whole⟩ := exists_write_of_path named words
  have filled : List.replicate (margin + indentWidth * depth) ' ' ≠ [] := by
    rw [Ne, List.replicate_eq_nil_iff]
    omega
  obtain ⟨shown, shape, same, kept⟩ := Text.exists_indentChars_inside filled
    (show Text.Unbroken pathOpening by decide) (by decide) whole (by rfl) path.toList
  refine ⟨shown, behind, written, ?_, same, kept '"' fun member => ?_⟩
  · rw [block, written]
    exact shape
  · cases (List.mem_replicate.1 member).2

/-- Behind a margin a line comes out unchanged exactly if no boundary is in its path. -/
theorem block_unchanged_iff {line : Line} (words : ∀ component ∈ line.component?, IsWord component)
    {margin depth : Nat} (inside : 0 < margin + indentWidth * depth) :
    block margin (depth, line) =
        List.replicate (margin + indentWidth * depth) ' ' ++ line.write.toList ↔
      ∀ path ∈ line.path?, Text.Unbroken path.toList := by
  cases named : line.path? with
  | some path =>
    obtain ⟨shown, behind, own, shape, same, _⟩ := exists_block_of_path named words inside
    -- Everything around the shown path is the same on both sides.
    rw [shape, own, List.append_cancel_left_eq, List.append_cancel_left_eq,
      List.append_cancel_right_eq, same]
    simp
  | none =>
    have whole : Text.Unbroken line.write.toList := by
      cases line with
      | index component => exact (isPlain_index (words component rfl)).written.whole
      | closing => exact isPlain_closing.written.whole
      | page path component => cases named
      | opening path layout => cases named
    exact iff_of_true (block_of_unbroken whole margin depth) (by simp)

/-- Read up to the next double quote, the attribute has the path in it exactly if the path is
quotable. -/
theorem takeWhile_shown_iff {shown : List Char} {path : String} (behind : List Char)
    (same : shown = path.toList ↔ Text.Unbroken path.toList)
    (kept : '"' ∈ shown ↔ '"' ∈ path.toList) :
    (shown ++ '"' :: behind).takeWhile (· ≠ '"') = path.toList ↔ IsQuotable path := by
  constructor
  · intro read
    have free : '"' ∉ path.toList := by
      intro inside
      rw [← read] at inside
      simpa using List.mem_takeWhile_imp inside
    rw [(cut_before behind (mt kept.1 free)).1] at read
    exact fun c inside => ⟨fun quote => free (quote ▸ inside), same.1 read c inside⟩
  · intro quotable
    have whole : shown = path.toList := same.2 fun c inside => (quotable c inside).2
    rw [whole]
    exact (cut_before behind quotable.no_quote).1

end PageRoutes.Declaration
