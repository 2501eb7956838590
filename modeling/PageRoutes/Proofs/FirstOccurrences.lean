import Mathlib.Algebra.BigOperators.Group.List.Lemmas
import Mathlib.Algebra.GroupWithZero.Nat
import Mathlib.Data.List.Induction

/-! Lists in which every item is left where it comes first. -/

set_option autoImplicit false

namespace PageRoutes

variable {α : Type}

theorem eraseDupsBy_concat (same : α → α → Bool) (items : List α) (item : α) :
    (items ++ [item]).eraseDupsBy same =
      if (items.eraseDupsBy same).any (same item) then items.eraseDupsBy same
      else items.eraseDupsBy same ++ [item] := by
  suffices general : ∀ kept, List.eraseDupsBy.loop same (items ++ [item]) kept =
      if (List.eraseDupsBy.loop same items kept).any (same item) then
        List.eraseDupsBy.loop same items kept
      else List.eraseDupsBy.loop same items kept ++ [item] from general []
  induction items with
  | nil =>
    intro kept
    rw [List.nil_append, List.eraseDupsBy.loop, List.eraseDupsBy.loop, List.any_reverse]
    split <;> simp_all [List.eraseDupsBy.loop]
  | cons first rest ih =>
    intro kept
    rw [List.cons_append, List.eraseDupsBy.loop, List.eraseDupsBy.loop]
    split <;> exact ih _

theorem pairwise_eraseDupsBy (same : α → α → Bool) (items : List α) :
    (items.eraseDupsBy same).Pairwise fun earlier later => same later earlier = false := by
  induction items using List.reverseRecOn with
  | nil => exact .nil
  | append_singleton items item ih =>
    rw [eraseDupsBy_concat]
    split
    · exact ih
    · rename_i fresh
      rw [List.any_eq_true, not_exists] at fresh
      refine List.pairwise_append.2
        ⟨ih, List.pairwise_singleton _ _, fun earlier kept later last => ?_⟩
      rw [List.mem_singleton.1 last]
      exact Bool.eq_false_iff.2 fun same => fresh earlier ⟨kept, same⟩

variable [DecidableEq α]

theorem eraseDups_concat (items : List α) (item : α) :
    (items ++ [item]).eraseDups =
      if item ∈ items then items.eraseDups else items.eraseDups ++ [item] := by
  rw [List.eraseDups_append]
  by_cases member : item ∈ items <;> simp [List.removeAll, member, List.eraseDups_cons]

theorem eraseDups_filterMap_concat {β : Type} (value? : β → Option α) (items : List β) (item : β) :
    ((items ++ [item]).filterMap value?).eraseDups =
      match value? item with
      | none => (items.filterMap value?).eraseDups
      | some value =>
        if value ∈ (items.filterMap value?).eraseDups then (items.filterMap value?).eraseDups
        else (items.filterMap value?).eraseDups ++ [value] := by
  rw [List.filterMap_append]
  cases found : value? item with
  | none => simp [found]
  | some value => simp [found, eraseDups_concat]

theorem nodup_eraseDups (items : List α) : items.eraseDups.Nodup :=
  (pairwise_eraseDupsBy _ items).imp fun apart => (ne_of_beq_false apart).symm

theorem sum_count_eraseDups (items : List α) :
    (items.eraseDups.map fun item => items.count item).sum = items.length := by
  have same : items.eraseDups.Perm items.dedup :=
    (List.perm_ext_iff_of_nodup (nodup_eraseDups items) items.nodup_dedup).2 fun item => by
      rw [List.mem_eraseDups, List.mem_dedup]
  rw [(same.map _).sum_eq]
  exact List.sum_map_count_dedup_eq_length items

end PageRoutes
