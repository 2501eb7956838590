import PageRoutes.Proofs.Path.Below
import PageRoutes.Proofs.Path.Written

/-! The directories of a page, as they are written.

A path grows by one written component after another, and its directories are read off the written
form of a relative way. Main statement: components entered below the pages directory come back
untouched, wherever that directory lies, and the directories of any other source lead from the
pages directory to the directory of the source.
-/

set_option autoImplicit false

namespace PageRoutes

namespace Path

def IsComponent (text : String) : Prop :=
  text ≠ "" ∧ text ≠ "." ∧ text ≠ ".." ∧ '/' ∉ text.toList

instance (text : String) : Decidable (IsComponent text) :=
  inferInstanceAs (Decidable (_ ∧ _))

def enter (base : Path) (components : List String) : Path :=
  components.foldl (fun reached component => reached.join (ofString component)) base

theorem ofString_text (name : Name) : ofString name.text = ⟨.relative, [name]⟩ := by
  have written : toString ⟨.relative, [name]⟩ = name.text := by
    rw [toString_of_names (by simp)]
    simp [Anchor.text, joinNames]
  rw [← written, ofString_toString]

theorem join_ofString_text (base : Path) (name : Name) :
    base.join (ofString name.text) = base.child name := by
  rw [ofString_text]
  rfl

theorem enter_texts (base : Path) (names : List Name) :
    base.enter (names.map Name.text) = base.below names := by
  induction names generalizing base with
  | nil => simp [enter, below]
  | cons name rest ih =>
    calc base.enter ((name :: rest).map Name.text)
        = (base.join (ofString name.text)).enter (rest.map Name.text) := rfl
      _ = (base.child name).below rest := by rw [join_ofString_text, ih]
      _ = base.below (name :: rest) := by simp [below, child]

theorem exists_name {text : String} (component : IsComponent text) :
    ∃ name : Name, name.text = text ∧ name ≠ Name.up := by
  obtain ⟨nonempty, notDot, notUp, slashless⟩ := component
  refine ⟨⟨text, nonempty, notDot, slashless⟩, rfl, ?_⟩
  intro same
  exact notUp (congrArg Name.text same)

theorem exists_names {texts : List String} (components : ∀ text ∈ texts, IsComponent text) :
    ∃ names : List Name, names.map Name.text = texts ∧ Name.up ∉ names := by
  induction texts with
  | nil => exact ⟨[], rfl, List.not_mem_nil⟩
  | cons text rest ih =>
    obtain ⟨name, written, down⟩ := exists_name (components text List.mem_cons_self)
    obtain ⟨names, others, free⟩ :=
      ih fun later member => components later (List.mem_cons_of_mem _ member)
    refine ⟨name :: names, by rw [List.map_cons, written, others], ?_⟩
    exact List.not_mem_cons_of_ne_of_not_mem down.symm free

theorem collapse_below_relativeNames (workingDirectory target start : Path) :
    collapse (workingDirectory.join
        (start.below (relativeNames workingDirectory target start))).names =
      collapse (workingDirectory.join target).names := by
  rw [names_join_below]
  exact collapse_relativeNames workingDirectory target start

end Path

namespace Page

/-- Components entered below the pages directory are the directories of the file at their end.
For any source, the directories are what the written way from the pages directory reads as, and
entering them from there leads to the directory of the source: both paths, made absolute,
collapse to the same names. -/
theorem directories_of_source (workingDirectory pagesDirectory : Path) :
    (∀ (components : List String) (name : String),
      (∀ text ∈ components ++ [name], Path.IsComponent text) →
      (directories workingDirectory (pagesDirectory.enter (components ++ [name]))
        pagesDirectory).map Name.text = components) ∧
    ∀ source : Path,
      let listed := directories workingDirectory source pagesDirectory
      Path.ofString (Path.relativeText workingDirectory source.parent pagesDirectory) =
        ⟨.relative, listed⟩ ∧
      Path.collapse (workingDirectory.join
          (pagesDirectory.enter (listed.map Name.text))).names =
        Path.collapse (workingDirectory.join source.parent).names := by
  constructor
  · intro components name valid
    obtain ⟨names, written, free⟩ := Path.exists_names valid
    obtain ⟨above, ended, rfl, rfl, last⟩ := List.map_eq_append_iff.1 written
    obtain ⟨file, rfl, rfl⟩ := List.map_eq_singleton_iff.1 last
    have free : Name.up ∉ above := fun member => free (List.mem_append_left _ member)
    rw [← written, Path.enter_texts, directories_below workingDirectory pagesDirectory free]
  · intro source
    constructor
    · exact Path.ofString_toString _
    · rw [Path.enter_texts]
      exact Path.collapse_below_relativeNames workingDirectory source.parent pagesDirectory

/-- Pages of a directory whose path climbs past the root, and a source beside this directory. -/
theorem directories_of_source_past_root :
    let workingDirectory := Path.ofString "/work"
    let pagesDirectory := Path.ofString "../../../app/../pages"
    let source := Path.ofString "//pages/./../drafts//note.tsx"
    (∀ text ∈ ["blog", "...", "[id]"] ++ ["page.tsx"], Path.IsComponent text) ∧
    (directories workingDirectory
      (pagesDirectory.enter (["blog", "...", "[id]"] ++ ["page.tsx"]))
      pagesDirectory).map Name.text = ["blog", "...", "[id]"] ∧
    (directories workingDirectory source pagesDirectory).map Name.text = ["..", "drafts"] ∧
    Path.collapse (workingDirectory.join (pagesDirectory.enter ["..", "drafts"])).names =
      Path.collapse (workingDirectory.join source.parent).names := by
  intro workingDirectory pagesDirectory source
  obtain ⟨below, anywhere⟩ := directories_of_source workingDirectory pagesDirectory
  have components : ∀ text ∈ ["blog", "...", "[id]"] ++ ["page.tsx"], Path.IsComponent text := by
    decide
  have beside : (directories workingDirectory source pagesDirectory).map Name.text =
      ["..", "drafts"] := by
    decide +kernel
  have leads := (anywhere source).2
  rw [beside] at leads
  exact ⟨components, below _ _ components, beside, leads⟩

end Page

end PageRoutes
