import PageRoutes.Proofs.RouteTree.StableOrder

/-! Items in the order of two measures.

A lower level comes first, and among items of one level the longer one. Items that agree in both
stay in the order in which they stood. Merge sort makes such an arrangement out of any items.
-/

set_option autoImplicit false

namespace PageRoutes

variable {α : Type} {level length : α → Nat}

/-- The same items once each, by level, the longer first, and full ties as they stood. -/
structure Arranged (level length : α → Nat) (items sorted : List α) : Prop where
  perm : sorted.Perm items
  ordered : sorted.Pairwise fun first second =>
    level first < level second ∨ level first = level second ∧ length second ≤ length first
  stable : ∀ value size,
    (sorted.filter fun item => level item = value ∧ length item = size) =
      items.filter fun item => level item = value ∧ length item = size

theorem arranged_mergeSort {le : α → α → Bool}
    (le_iff : ∀ first second, le first second = true ↔
      level first < level second ∨ level first = level second ∧ length second ≤ length first)
    (items : List α) : Arranged level length items (items.mergeSort le) := by
  have trans : ∀ first second third, le first second = true → le second third = true →
      le first third = true := by
    intro first second third earlier later
    rw [le_iff] at *
    omega
  have total : ∀ first second, (le first second || le second first) = true := by
    intro first second
    rw [Bool.or_eq_true, le_iff, le_iff]
    omega
  refine ⟨List.mergeSort_perm items le, ?_, fun value size => ?_⟩
  · exact (List.pairwise_mergeSort trans total items).imp (le_iff _ _).1
  · rw [filter_mergeSort trans total]
    -- Ties are in order as they stand.
    refine List.mergeSort_of_pairwise (List.pairwise_of_forall_mem_list ?_)
    intro first member second other
    have here := of_decide_eq_true (List.mem_filter.1 member).2
    have there := of_decide_eq_true (List.mem_filter.1 other).2
    rw [le_iff]
    omega

end PageRoutes
