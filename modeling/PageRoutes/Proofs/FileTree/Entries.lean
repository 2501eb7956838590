import Mathlib.Data.List.Nodup
import PageRoutes.FileTree.Change

/-! The entries of a tree and what stands at a location.

A location in the list of entries is one at which something stands, and the other way round but for
the root. The entries below a directory are listed by the rest of the way.
-/

set_option autoImplicit false

namespace PageRoutes.FileTree

variable {tree : FileTree} {location base way : Location} {entry : Entry}
  {entries : List (Location × Entry)}

theorem mem_of_entryIn? (found : entryIn? location entries = some entry) :
    (location, entry) ∈ entries := by
  induction entries with
  | nil => cases found
  | cons first rest ih =>
    obtain ⟨other, old⟩ := first
    rw [entryIn?] at found
    split at found
    · rename_i here
      cases found
      exact here ▸ List.mem_cons_self
    · exact List.mem_cons_of_mem _ (ih found)

theorem isSome_entryIn?_of_mem (member : (location, entry) ∈ entries) :
    (entryIn? location entries).isSome := by
  induction entries with
  | nil => cases member
  | cons first rest ih =>
    obtain ⟨other, old⟩ := first
    rw [entryIn?]
    split
    · rfl
    · rename_i elsewhere
      rcases List.mem_cons.1 member with same | later
      · cases same
        exact absurd rfl elsewhere
      · exact ih later

theorem mem_entries_of_get? (below : location ≠ []) (stands : tree.get? location = some entry) :
    (location, entry) ∈ tree.entries := by
  rw [get?, if_neg below] at stands
  exact mem_of_entryIn? stands

theorem isSome_get?_of_mem (member : (location, entry) ∈ tree.entries) :
    (tree.get? location).isSome := by
  unfold get?
  split
  · rfl
  · exact isSome_entryIn?_of_mem member

theorem mem_below_iff :
    way ∈ (tree.below base).map Prod.fst ↔ way ≠ [] ∧ (tree.get? (base ++ way)).isSome := by
  simp only [below, List.mem_map, List.mem_filterMap]
  constructor
  · rintro ⟨⟨rest, entry⟩, ⟨⟨location, found⟩, member, kept⟩, rfl⟩
    simp only [Option.ite_none_right_eq_some, Bool.and_eq_true, decide_eq_true_eq,
      Option.some.injEq, Prod.mk.injEq] at kept
    obtain ⟨⟨first, longer⟩, rfl, rfl⟩ := kept
    obtain ⟨rest, rfl⟩ := List.isPrefixOf_iff_prefix.1 first
    rw [List.drop_left]
    refine ⟨?_, isSome_get?_of_mem member⟩
    rintro rfl
    simp at longer
  · rintro ⟨nonempty, stands⟩
    obtain ⟨entry, found⟩ := Option.isSome_iff_exists.1 stands
    refine ⟨(way, entry), ⟨(base ++ way, entry), mem_entries_of_get? (by simp [nonempty]) found, ?_⟩,
      rfl⟩
    have longer : base.length < (base ++ way).length := by
      rw [List.length_append]
      exact Nat.lt_add_of_pos_right (List.length_pos_iff.2 nonempty)
    have first : base.isPrefixOf (base ++ way) = true :=
      List.isPrefixOf_iff_prefix.2 (List.prefix_append _ _)
    simp only [first, longer, decide_true, Bool.and_self, if_true, List.drop_left]

theorem nodup_below (tree : FileTree) (base : Location) :
    ((tree.below base).map Prod.fst).Nodup := by
  have ways : (tree.below base).map Prod.fst = (tree.entries.map Prod.fst).filterMap fun other =>
      if base.isPrefixOf other && base.length < other.length then
        some (other.drop base.length)
      else none := by
    rw [below, List.map_filterMap, List.filterMap_map]
    refine List.filterMap_congr fun found _ => ?_
    rw [Function.comp_apply, apply_ite (Option.map Prod.fst)]
    rfl
  rw [ways]
  refine tree.unique.filterMap fun first second rest one two => ?_
  simp only [Option.mem_def, Option.ite_none_right_eq_some, Bool.and_eq_true,
    List.isPrefixOf_iff_prefix, Option.some.injEq] at one two
  obtain ⟨⟨⟨firstRest, rfl⟩, _⟩, rfl⟩ := one
  obtain ⟨⟨⟨secondRest, rfl⟩, _⟩, same⟩ := two
  rw [List.drop_left, List.drop_left] at same
  rw [same]

theorem entryIn?_filter (keeps : Location → Bool) :
    entryIn? location (entries.filter fun found => keeps found.1) =
      if keeps location = true then entryIn? location entries else none := by
  induction entries with
  | nil => simp [entryIn?]
  | cons first rest ih =>
    obtain ⟨other, old⟩ := first
    by_cases here : other = location
    · subst here
      by_cases kept : keeps other = true
      · rw [List.filter_cons_of_pos (by exact kept), if_pos kept]
        simp [entryIn?]
      · rw [List.filter_cons_of_neg (by exact kept), ih, if_neg kept, if_neg kept]
    · rw [List.filter_cons]
      split
      · rw [entryIn?, if_neg here, ih, entryIn?, if_neg here]
      · rw [ih, entryIn?, if_neg here]

theorem get?_restrict (tree : FileTree) (keeps : Location → Bool) (below : location ≠ []) :
    (tree.restrict keeps).get? location =
      if keeps location = true then tree.get? location else none := by
  rw [get?, get?, if_neg below, if_neg below]
  exact entryIn?_filter keeps

end PageRoutes.FileTree
