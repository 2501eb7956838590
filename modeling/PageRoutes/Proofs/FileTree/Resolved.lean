import PageRoutes.FileTree.Resolve
import PageRoutes.Proofs.FileTree.LinkFree
import PageRoutes.Proofs.FileTree.Refusals

/-! Paths made absolute.

Only a character that no path may hold, or links that lead into themselves, keep a path from that.
In a tree without links the outcome is told by the text of the path.
-/

set_option autoImplicit false

namespace PageRoutes

namespace Path

variable {names : List Name} {path : Path}

theorem mem_of_mem_foldl_descend {name : Name} {reached : List Name}
    (member : name ∈ names.foldl descend reached) : name ∈ reached ∨ name ∈ names := by
  induction names generalizing reached with
  | nil => exact .inl member
  | cons first rest ih =>
    rcases ih member with before | behind
    · unfold descend at before
      split at before
      · exact .inl (List.dropLast_subset _ before)
      · rcases List.mem_append.1 before with old | new
        · exact .inl old
        · exact .inr (by simp [List.mem_singleton.1 new])
    · exact .inr (List.mem_cons_of_mem _ behind)

/-- The directory above a relative path is where a double dot leads from its end. -/
theorem foldl_descend_above (relative : path.anchor = .relative) (base : List Name) :
    path.above.names.foldl descend base = descend (path.names.foldl descend base) Name.up := by
  unfold above
  split
  · simp [List.foldl_append]
  · rename_i inside
    obtain ⟨anchor, names⟩ := path
    rcases List.eq_nil_or_concat names with rfl | ⟨before, last, rfl⟩
    · exact absurd (.inl (by simpa using relative)) inside
    · have plain : last ≠ Name.up := by simpa [lastName?] using inside
      simp [parent, List.foldl_append, descend, plain]

theorem above_anchor (path : Path) : path.above.anchor = path.anchor := by
  unfold above
  split <;> rfl

theorem resolve_ofLocation {start : Location} (relative : path.anchor = .relative) :
    resolve (ofLocation start) path = ⟨.root, path.names.foldl descend (collapse start)⟩ := by
  rw [resolve, absoluteNames, join, if_pos relative, collapse_append]
  rfl

end Path

namespace FileTree

variable {tree : FileTree} {start here : Location} {followLast : Bool} {names : List Name}
  {path : Path} {ends : LinkEnds} {error : FileError}

def IsUnresolvable (error : FileError) : Prop := error = .nulCharacter ∨ error = .linkLoop

theorem hasNul_of_locate (failed : tree.locate start followLast path = .error error)
    (refused : ¬ error.isRefusal = true) : hasNul path = true := by
  simpa [isRefusal_of_locate failed] using refused

theorem linkAt?_eq_error (failed : tree.linkAt? start path = .error error) :
    error = .nulCharacter := by
  unfold linkAt? at failed
  split at failed
  · rename_i cause located
    split at failed
    · cases failed
    · rename_i refused
      cases failed
      rw [locate_of_hasNul _ _ _ (hasNul_of_locate located refused)] at located
      exact (Except.error.inj located).symm
  · cases failed
  · split at failed <;> cases failed

theorem unresolvable_of_rewrite
    {onTarget : Path → LinkEnds → List Name → Except FileError Rewritten}
    (onwards : ∀ path ends names error, onTarget path ends names = .error error →
      IsUnresolvable error)
    (failed : rewrite tree start onTarget path ends names = .error error) :
    IsUnresolvable error := by
  -- Along the names. A link hands its target on, and the names behind it are left to the induction.
  induction names generalizing path ends with
  | nil => cases failed
  | cons name rest ih =>
    rw [rewrite] at failed
    split at failed
    · exact ih failed
    · simp only at failed
      split at failed
      · rename_i looked
        cases failed
        exact .inl (linkAt?_eq_error looked)
      · exact ih failed
      · split at failed
        · exact ih failed
        · cases failed
        · split at failed
          · rename_i entered
            cases failed
            exact onwards _ _ _ _ entered
          · split at failed
            · exact ih failed
            · cases failed

theorem unresolvable_of_rewriteLinks {links : Nat}
    (failed : rewriteLinks tree start links path ends names = .error error) :
    IsUnresolvable error := by
  induction links generalizing path ends names error with
  | zero =>
    refine unresolvable_of_rewrite (fun _ _ _ _ refused => ?_) failed
    cases refused
    exact .inr rfl
  | succ links ih => exact unresolvable_of_rewrite (fun _ _ _ _ refused => ih refused) failed

theorem unresolvable_of_resolve (failed : tree.resolve start path = .error error) :
    IsUnresolvable error := by
  unfold resolve at failed
  simp only at failed
  split at failed
  · rename_i refused
    cases failed
    exact unresolvable_of_rewriteLinks refused
  · split at failed <;> cases failed
    · exact .inr rfl
    · exact .inl rfl

theorem LinkFree.linkAt?_eq (free : LinkFree tree) (clean : hasNul path = false) :
    tree.linkAt? start path = .ok none := by
  unfold linkAt?
  split
  · rename_i failed
    rw [isRefusal_of_locate failed, clean]
    rfl
  · rfl
  · split
    · rename_i stands
      exact absurd stands (free _ _)
    · rfl

theorem hasNul_above (clean : hasNul path = false) : hasNul path.above = false := by
  have upClean : Name.up.text.toList.contains '\x00' = false := by decide
  unfold Path.above
  split
  · rw [hasNul, Path.names_child, List.any_append, Bool.or_eq_false_iff]
    exact ⟨clean, by simp only [List.any_cons, List.any_nil, upClean, Bool.or_self]⟩
  · rw [hasNul, List.any_eq_false] at clean ⊢
    exact fun name member => clean name (List.dropLast_subset _ member)

theorem LinkFree.rewrite_eq (free : LinkFree tree) (start : Location)
    (onTarget : Path → LinkEnds → List Name → Except FileError Rewritten) (path : Path)
    (ends : LinkEnds) (names : List Name) (relative : path.anchor = .relative)
    (clean : hasNul path = false)
    (cleanNames : hasNul ⟨.relative, names⟩ = false) :
    ∃ written, rewrite tree start onTarget path ends names = .ok ⟨written, ends, true⟩ ∧
      written.anchor = .relative ∧ hasNul written = false ∧
      ∀ base, written.names.foldl Path.descend base =
        names.foldl Path.descend (path.names.foldl Path.descend base) := by
  -- What is written leads, from every base, where the path so far and the names to come lead, and
  -- no link is ever met to change that.
  induction names generalizing path with
  | nil => exact ⟨path, rfl, relative, clean, fun _ => rfl⟩
  | cons name rest ih =>
    rw [hasNul, List.any_cons, Bool.or_eq_false_iff] at cleanNames
    rw [rewrite]
    split
    · rename_i isUp
      obtain ⟨written, same, anchored, cleanly, leads⟩ :=
        ih path.above ((Path.above_anchor path).trans relative) (hasNul_above clean) cleanNames.2
      refine ⟨written, same, anchored, cleanly, fun base => ?_⟩
      rw [leads, Path.foldl_descend_above relative, isUp, List.foldl_cons]
    · have childClean : hasNul (path.child name) = false := by
        rw [hasNul, Path.names_child, List.any_append, Bool.or_eq_false_iff]
        exact ⟨clean, by simp only [List.any_cons, List.any_nil, cleanNames.1, Bool.or_self]⟩
      obtain ⟨written, same, anchored, cleanly, leads⟩ := ih (path.child name) relative childClean
        cleanNames.2
      simp only [free.linkAt?_eq childClean]
      refine ⟨written, same, anchored, cleanly, fun base => ?_⟩
      rw [leads, Path.names_child, List.foldl_append, List.foldl_cons, List.foldl_cons,
        List.foldl_nil]

theorem LinkFree.follow_ne_tooManyLinks (free : LinkFree tree)
    {onLink : Location → LinkTarget → List Name → Except FileError Target} :
    follow tree followLast onLink here names ≠ .error .tooManyLinks := by
  intro winding
  induction names generalizing here with
  | nil => cases winding
  | cons name rest ih =>
    rw [follow] at winding
    split at winding
    · exact ih winding
    · split at winding
      · cases winding
      · split at winding
        · split at winding <;> cases winding
        · exact ih winding
        · split at winding <;> cases winding
        · rename_i target stands
          exact absurd stands (free _ _)

theorem LinkFree.locate_ne_tooManyLinks (free : LinkFree tree) :
    tree.locate start followLast path ≠ .error .tooManyLinks := by
  intro winding
  unfold locate at winding
  split at winding
  · cases winding
  · split at winding
    · cases winding
    · exact free.follow_ne_tooManyLinks winding

/-- Without links a relative path is made absolute from its text alone. -/
theorem LinkFree.resolve_eq (free : LinkFree tree) (relative : path.anchor = .relative)
    (clean : hasNul path = false) (startClean : hasNul (Path.ofLocation start) = false) :
    (tree.resolve start path).map Subtype.val =
      .ok (Path.resolve (Path.ofLocation start) path) := by
  have notAbsolute : ¬ path.IsAbsolute := fun absolute => absolute relative
  obtain ⟨written, rewrites, anchored, cleanly, leads⟩ := free.rewrite_eq start
    (rewriteLinks tree start (nestedLinks - 1)) ⟨.relative, []⟩ [] path.names rfl rfl clean
  -- The rewritten path may be another text, but both collapse to the same place.
  have same : Path.resolve (Path.ofLocation start) written =
      Path.resolve (Path.ofLocation start) path := by
    rw [Path.resolve_ofLocation relative, Path.resolve_ofLocation anchored, leads]
    rfl
  have wholeClean : hasNul (Path.resolve (Path.ofLocation start) path) = false := by
    rw [Path.resolve_ofLocation relative]
    rw [hasNul, List.any_eq_false] at clean startClean ⊢
    intro name member
    rcases Path.mem_of_mem_foldl_descend member with before | behind
    · exact startClean name ((Path.mem_of_mem_foldl_descend before).resolve_left (by simp))
    · exact clean name behind
  have rewritesLinks : rewriteLinks tree start nestedLinks ⟨.relative, []⟩ [] path.names =
      .ok ⟨written, [], true⟩ := rewrites
  rw [resolve, if_neg notAbsolute]
  simp only [rewritesLinks, same]
  split
  · rename_i winding
    exact absurd winding free.locate_ne_tooManyLinks
  · rename_i held
    have refusal := isRefusal_of_locate held
    rw [wholeClean] at refusal
    cases refusal
  · rfl

end FileTree

end PageRoutes
