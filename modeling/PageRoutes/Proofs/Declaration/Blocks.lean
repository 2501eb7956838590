import PageRoutes.Proofs.RouteTree.Structure
import PageRoutes.Proofs.Text.Indentation

/-! The text of declarations, whatever their paths hold.

Enclosed declarations are written first and indented afterwards, once for every group around
them. Since margins add up, what comes out is one block for each line of the outline: the written
line, indented by two spaces for each open group. A path with a boundary in it makes a block of
several lines.
-/

set_option autoImplicit false

namespace PageRoutes.Declaration

theorem outline_ne_nil (declaration : Declaration) (depth : Nat) :
    declaration.outline depth ≠ [] := by
  cases declaration <;> simp [outline]

theorem outline_succ (declaration : Declaration) (depth : Nat) :
    declaration.outline (depth + 1) =
      (declaration.outline depth).map fun entry => (entry.1 + 1, entry.2) := by
  induction declaration using innerFirst generalizing depth with
  | index component => rfl
  | page path component => rfl
  | group path layout inner ih =>
    have below : outlineAll (depth + 2) inner =
        (outlineAll (depth + 1) inner).map fun entry => (entry.1 + 1, entry.2) := by
      rw [outlineAll_eq, outlineAll_eq, List.map_flatMap]
      exact List.flatMap_congr fun declaration member => ih declaration member (depth + 1)
    simp only [outline, below, List.map_cons, List.map_append, List.cons_append, List.map_nil]

/-- A line of an outline as it comes out of a text that is indented so far. -/
def block (margin : Nat) (entry : Nat × Line) : List Char :=
  Text.indentChars (List.replicate (margin + indentWidth * entry.1) ' ') entry.2.write.toList

theorem indent_block (outer margin : Nat) (entry : Nat × Line) :
    Text.indentChars (List.replicate outer ' ') (block margin entry) =
      block (outer + margin) entry := by
  rw [block, Text.indentChars_indentChars (Text.unbroken_replicate_space _), block,
    ← List.replicate_add, Nat.add_assoc]

theorem block_zero (line : Line) : block 0 (0, line) = line.write.toList :=
  Text.indentChars_nil _

theorem exists_write_eq (line : Line) : ∃ rest, line.write.toList = '<' :: rest := by
  cases line with
  | opening path layout => cases layout <;> exact ⟨_, by simp [Line.write]; rfl⟩
  | _ => exact ⟨_, by simp [Line.write]; rfl⟩

theorem exists_block (margin : Nat) (entry : Nat × Line) :
    ∃ shown, block margin entry =
      List.replicate (margin + indentWidth * entry.1) ' ' ++ '<' :: shown := by
  obtain ⟨rest, shape⟩ := exists_write_eq entry.2
  rw [block, shape]
  exact Text.exists_indentChars_opening (show Text.Unbroken ['<'] by decide) (by decide) _ rest

theorem block_of_unbroken {line : Line} (whole : Text.Unbroken line.write.toList)
    (margin depth : Nat) :
    block margin (depth, line) =
      List.replicate (margin + indentWidth * depth) ' ' ++ line.write.toList := by
  obtain ⟨rest, shape⟩ := exists_write_eq line
  have visible : ['<'].all Text.isBlank = false := by decide
  rw [block, Text.indentChars_of_unbroken _ whole, shape]
  exact Text.indentLine_of_visible visible _ rest

theorem block_outline_one (declaration : Declaration) :
    (declaration.outline 1).map (block 0) = (declaration.outline 0).map (block indentWidth) := by
  rw [outline_succ, List.map_map]
  apply List.map_congr_left
  intro entry _
  rw [Function.comp_apply, block, block, Nat.zero_add, Nat.mul_succ, Nat.add_comm]

theorem indent_blocks (outer margin : Nat) (entries : List (Nat × Line)) :
    Text.indentChars (List.replicate outer ' ') (Text.joinLines (entries.map (block margin))) =
      Text.joinLines (entries.map (block (outer + margin))) := by
  rw [Text.indentChars_joinLines, List.map_map]
  congr 2
  funext entry
  exact indent_block outer margin entry

/-- The text of a declaration is made of one block for each line of its outline. -/
theorem toList_render_eq_blocks (declaration : Declaration) :
    declaration.render.toList = Text.joinLines ((declaration.outline 0).map (block 0)) := by
  induction declaration using innerFirst with
  | index component => simp [render, outline, block_zero, Text.joinLines]
  | page path component => simp [render, outline, block_zero, Text.joinLines]
  | group path layout inner ih =>
    have indented : (renderInner inner).map String.toList =
        (inner.map fun declaration => (declaration.outline 1).map (block 0)).map
          Text.joinLines := by
      rw [renderInner_eq, List.map_map, List.map_map]
      apply List.map_congr_left
      intro declaration member
      simp only [Function.comp_apply, Text.indent, String.toList_ofList, ih declaration member,
        indent_blocks, block_outline_one, Nat.add_zero]
    have filled : ∀ group ∈ [[(Line.opening path layout).write.toList]] ++
        (inner.map fun declaration => (declaration.outline 1).map (block 0)) ++
        [[Line.closing.write.toList]], group ≠ [] := by
      intro group member
      simp only [List.mem_append, List.mem_singleton, List.mem_map] at member
      rcases member with (rfl | ⟨declaration, _, rfl⟩) | rfl
      · exact List.cons_ne_nil _ _
      · simpa using outline_ne_nil declaration 1
      · exact List.cons_ne_nil _ _
    have joined := Text.joinLines_flatten filled
    -- The blocks of a group: its first line, those of the declarations inside, its last line.
    have whole : ((Declaration.group path layout inner).outline 0).map (block 0) =
        ([[(Line.opening path layout).write.toList]] ++
          (inner.map fun declaration => (declaration.outline 1).map (block 0)) ++
          [[Line.closing.write.toList]]).flatten := by
      simp [outline, outlineAll_eq, List.flatMap_def, block_zero, Function.comp_def]
    rw [whole, ← joined, render, String.toList_intercalate]
    simp [indented, Text.joinLines]

theorem toList_intercalate_render_eq_blocks (declarations : List Declaration) :
    ("\n".intercalate (declarations.map render)).toList =
      Text.joinLines ((outlineAll 0 declarations).map (block 0)) := by
  have texts : (declarations.map render).map String.toList =
      (declarations.map fun declaration => (declaration.outline 0).map (block 0)).map
        Text.joinLines := by
    rw [List.map_map, List.map_map]
    exact List.map_congr_left fun declaration _ => toList_render_eq_blocks declaration
  have filled : ∀ group ∈ declarations.map fun declaration =>
      (declaration.outline 0).map (block 0), group ≠ [] := by
    intro group member
    obtain ⟨declaration, _, rfl⟩ := List.mem_map.1 member
    simpa using outline_ne_nil declaration 0
  have joined := Text.joinLines_flatten filled
  rw [String.toList_intercalate, texts, outlineAll_eq, List.map_flatMap, List.flatMap_def]
  exact joined

end PageRoutes.Declaration
