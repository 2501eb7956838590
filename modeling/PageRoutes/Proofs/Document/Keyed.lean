import PageRoutes.Document.Value
import PageRoutes.Proofs.FirstOccurrences

/-! Entries that are put over each other.

Whether two values are one key is not equality: one key may have several written forms, and some
values are no key at all, not even the same as themselves. Main statement: entries that are put
over each other one by one leave each key where it comes first and as it is written there, with
the value that it is given last.
-/

set_option autoImplicit false

namespace PageRoutes.Document

namespace Value

/-- No collection is a key, and what is no number at all is not even the same as itself. -/
def isKey : Value → Bool
  | .real .notNumber | .list _ | .members _ | .mapping _ => false
  | _ => true

def keyForm? (value : Value) : Option Value :=
  match value.asInteger? with
  | some whole => some (.integer whole)
  | none => if value.isKey then some value else none

theorem sameKey_of_fractional {first second : Value} (fractional : first.asInteger? = none)
    (other : second.asInteger? = none) :
    first.sameKey second = true ↔ first.isKey = true ∧ first = second := by
  simp only [sameKey, fractional, other]
  split
  case h_9 =>
    rename_i dateTimes _
    refine iff_of_false Bool.false_ne_true ?_
    rintro ⟨key, rfl⟩
    cases first with
    | real value => cases value <;> simp_all [isKey]
    | boolean value => cases fractional
    | integer value => cases fractional
    | dateTime day time offset => exact dateTimes day time offset day time offset rfl rfl
    | _ => simp_all [isKey]
  all_goals simp [isKey, and_assoc]

theorem keyForm?_of_whole {value : Value} {whole : Int} (stands : value.asInteger? = some whole) :
    value.keyForm? = some (.integer whole) := by
  rw [keyForm?, stands]

theorem keyForm?_ne_integer {value : Value} (fractional : value.asInteger? = none) (whole : Int) :
    value.keyForm? ≠ some (.integer whole) := by
  intro same
  simp only [keyForm?, fractional, Option.ite_none_right_eq_some, Option.some.injEq] at same
  cases same.2
  cases fractional

theorem sameKey_iff (first second : Value) :
    first.sameKey second = true ↔
      ∃ form, first.keyForm? = some form ∧ second.keyForm? = some form := by
  cases whole : first.asInteger? with
  | some whole =>
    cases other : second.asInteger? with
    | some other => simp [sameKey, keyForm?_of_whole, *, eq_comm]
    | none => simp [sameKey, keyForm?_of_whole whole, keyForm?_ne_integer, *]
  | none =>
    cases other : second.asInteger? with
    | some other => simp [sameKey, keyForm?_of_whole other, keyForm?_ne_integer, *]
    | none =>
      rw [sameKey_of_fractional whole other]
      simp only [keyForm?, *, Option.ite_none_right_eq_some, Option.some.injEq]
      constructor
      · rintro ⟨key, rfl⟩
        exact ⟨first, ⟨key, rfl⟩, key, rfl⟩
      · rintro ⟨form, ⟨key, rfl⟩, _, rfl⟩
        exact ⟨key, rfl⟩

theorem sameKey_symm {first second : Value} (same : first.sameKey second = true) :
    second.sameKey first = true := by
  obtain ⟨form, left, right⟩ := (sameKey_iff _ _).1 same
  exact (sameKey_iff _ _).2 ⟨form, right, left⟩

theorem sameKey_comm (first second : Value) : first.sameKey second = second.sameKey first :=
  Bool.eq_iff_iff.2 ⟨sameKey_symm, sameKey_symm⟩

theorem sameKey_trans {first second third : Value} (same : first.sameKey second = true)
    (further : second.sameKey third = true) : first.sameKey third = true := by
  obtain ⟨form, left, middle⟩ := (sameKey_iff _ _).1 same
  obtain ⟨other, middle', right⟩ := (sameKey_iff _ _).1 further
  cases middle.symm.trans middle'
  exact (sameKey_iff _ _).2 ⟨form, left, right⟩

theorem sameKey_congr {first second : Value} (same : first.sameKey second = true) (third : Value) :
    first.sameKey third = second.sameKey third :=
  Bool.eq_iff_iff.2 ⟨sameKey_trans (sameKey_symm same), sameKey_trans same⟩

@[simp] theorem sameKey_text (value : Value) (text : String) :
    value.sameKey (.text text) = true ↔ value = .text text := by
  cases whole : value.asInteger? with
  | some whole =>
    have none : (Value.text text).asInteger? = none := rfl
    refine iff_of_false (by simp [sameKey, whole, none]) ?_
    rintro rfl
    cases whole
  | none =>
    rw [sameKey_of_fractional whole rfl]
    exact and_iff_right_of_imp fun same => same ▸ rfl

end Value

namespace Keyed

variable {α : Type} {key : Value}

def latest? (key : Value) (entries : Keyed α) : Option α := get? key entries.reverse

/-- Each key where it comes first and as it is written there, with the value it is given last. -/
def settled (entries : Keyed α) : Keyed α :=
  (entries.eraseDupsBy fun later earlier => earlier.1.sameKey later.1).map fun entry =>
    (entry.1, (latest? entry.1 entries).getD entry.2)

theorem get?_of_no_key (noKey : ¬ key.sameKey key = true) (entries : Keyed α) :
    get? key entries = none := by
  induction entries with
  | nil => rfl
  | cons entry rest ih =>
    have apart : ¬ entry.1.sameKey key = true := fun same =>
      noKey (Value.sameKey_trans (Value.sameKey_symm same) same)
    rw [get?, if_neg apart, ih]

theorem get?_append (key : Value) (entries more : Keyed α) :
    get? key (entries ++ more) = (get? key entries).or (get? key more) := by
  induction entries with
  | nil => rfl
  | cons entry rest ih =>
    rw [List.cons_append, get?, get?, ih]
    split <;> rfl

theorem latest?_append (key : Value) (entries more : Keyed α) :
    latest? key (entries ++ more) = (latest? key more).or (latest? key entries) := by
  rw [latest?, List.reverse_append, get?_append, latest?, latest?]

theorem latest?_concat (key : Value) (entries : Keyed α) (entry : Value × α) :
    latest? key (entries ++ [entry]) =
      if entry.1.sameKey key then some entry.2 else latest? key entries := by
  rw [latest?, List.reverse_concat, get?, latest?]

theorem get?_put (key other : Value) (value : α) (entries : Keyed α) :
    get? key (put other value entries) =
      if other.sameKey key then some value else get? key entries := by
  induction entries with
  | nil => rfl
  | cons entry rest ih =>
    rw [put]
    split
    · rename_i same
      rw [get?, get?, Value.sameKey_congr same]
      split <;> rfl
    · rename_i apart
      rw [get?, get?, ih]
      by_cases here : entry.1.sameKey key = true
      · have elsewhere : ¬ other.sameKey key = true := fun same =>
          apart (Value.sameKey_trans here (Value.sameKey_symm same))
        simp [here, elsewhere]
      · simp [here]

theorem merge_concat (entries more : Keyed α) (entry : Value × α) :
    merge entries (more ++ [entry]) = put entry.1 entry.2 (merge entries more) := by
  rw [merge, List.foldl_append]
  rfl

theorem merge_merge (entries more most : Keyed α) :
    merge (merge entries more) most = merge entries (more ++ most) := by
  rw [merge, merge, merge, List.foldl_append]

theorem get?_filter {keeps : Value × α → Bool} (key : Value) {entries : Keyed α}
    (kept : ∀ entry ∈ entries, entry.1.sameKey key = true → keeps entry = true) :
    get? key (entries.filter keeps) = get? key entries := by
  induction entries with
  | nil => rfl
  | cons entry rest ih =>
    obtain ⟨here, behind⟩ := List.forall_mem_cons.1 kept
    by_cases same : entry.1.sameKey key = true
    · rw [List.filter_cons_of_pos (here same), get?, get?, if_pos same, if_pos same]
    · rw [get?, if_neg same, ← ih behind]
      by_cases stays : keeps entry = true
      · rw [List.filter_cons_of_pos stays, get?, if_neg same]
      · rw [List.filter_cons_of_neg stays]

theorem get?_merge (key : Value) (entries more : Keyed α) :
    get? key (merge entries more) = (latest? key more).or (get? key entries) := by
  induction more using List.reverseRecOn with
  | nil => rfl
  | append_singleton more entry ih =>
    rw [merge_concat, get?_put, latest?_concat, ih]
    split <;> rfl

theorem put_map (key : Value) (value : α) (given : Value × α → α) {entries : Keyed α}
    (distinct : entries.Pairwise fun earlier later => earlier.1.sameKey later.1 = false) :
    put key value (entries.map fun entry => (entry.1, given entry)) =
      if entries.any fun entry => entry.1.sameKey key then
        entries.map fun entry => (entry.1, if entry.1.sameKey key then value else given entry)
      else (entries.map fun entry => (entry.1, given entry)) ++ [(key, value)] := by
  induction entries with
  | nil => rfl
  | cons first rest ih =>
    obtain ⟨apart, distinct⟩ := List.pairwise_cons.1 distinct
    rw [List.map_cons, put, ih distinct]
    by_cases here : first.1.sameKey key = true
    · have elsewhere : ∀ entry ∈ rest, entry.1.sameKey key = false := fun entry member =>
        Bool.eq_false_iff.2 fun same => Bool.eq_false_iff.1 (apart entry member)
          (Value.sameKey_trans here (Value.sameKey_symm same))
      simp +contextual [here, elsewhere]
    · by_cases behind : (rest.any fun entry => entry.1.sameKey key) = true <;>
        simp [here, behind]

/-- Putting entries over each other, one by one, leaves the settled ones. -/
theorem merge_nil_eq_settled (entries : Keyed α) : merge [] entries = settled entries := by
  induction entries using List.reverseRecOn with
  | nil => rfl
  | append_singleton entries entry ih =>
    have distinct := pairwise_eraseDupsBy (fun later earlier : Value × α =>
      earlier.1.sameKey later.1) entries
    rw [merge_concat, ih, settled, put_map _ _ _ distinct, settled, eraseDupsBy_concat]
    simp only [latest?_concat, Value.sameKey_comm entry.1]
    split
    · refine List.map_congr_left fun other _ => ?_
      split <;> rfl
    · rename_i fresh
      simp only [List.any_eq_true, not_exists, not_and] at fresh
      rw [List.map_append, List.map_singleton]
      congr 1
      · refine List.map_congr_left fun other member => ?_
        rw [if_neg (fresh other member)]
      · by_cases own : entry.1.sameKey entry.1 = true
        · simp [own]
        · have none : latest? entry.1 entries = none := get?_of_no_key own _
          simp [own, none]

end Keyed

end PageRoutes.Document
