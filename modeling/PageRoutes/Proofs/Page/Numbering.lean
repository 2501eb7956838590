import Mathlib.Data.List.Nodup
import PageRoutes.Page

/-! The numbering of a list of files.

Different positions have different identifiers, so a page of a numbered list is known by its
component. Identifiers are made of letters and digits.
-/

set_option autoImplicit false

namespace PageRoutes.Page

theorem toList_identifier (position : Nat) :
    (identifier position).toList = "Page".toList ++ Nat.toDigits 10 position := by
  rw [identifier, String.toList_append, Nat.toString_eq_repr, Nat.toList_repr]

theorem identifier_injective {first second : Nat} (same : identifier first = identifier second) :
    first = second := by
  have digits := congrArg String.toList same
  rw [toList_identifier, toList_identifier] at digits
  have read := congrArg (Nat.ofDigitChars 10 · 0) (List.append_cancel_left digits)
  simpa using read

theorem not_mem_identifier {c : Char} (letters : c ∉ "Page".toList) (digits : c.isDigit = false)
    (position : Nat) : c ∉ (identifier position).toList := by
  rw [toList_identifier, List.mem_append, not_or]
  constructor
  · exact letters
  intro member
  have digit := Nat.isDigit_of_mem_toDigits (by decide) (by decide) member
  rw [digits] at digit
  cases digit

theorem map_source_number (sources : List Path) : (number sources).map source = sources := by
  apply List.ext_getElem
  · simp [number]
  · intro position first second
    simp [number]

theorem map_component_number (sources : List Path) :
    (number sources).map component = (List.range sources.length).map identifier := by
  apply List.ext_getElem
  · simp [number]
  · intro position first second
    simp [number]

theorem nodup_component_number (sources : List Path) :
    ((number sources).map component).Nodup := by
  rw [map_component_number]
  exact List.nodup_range.map fun _ _ same => identifier_injective same

theorem filter_component {pages : List Page} (unique : (pages.map component).Nodup) {page : Page}
    (member : page ∈ pages) :
    pages.filter (fun other => other.component = page.component) = [page] := by
  induction pages with
  | nil => cases member
  | cons first rest ih =>
    rw [List.map_cons, List.nodup_cons] at unique
    obtain ⟨fresh, others⟩ := unique
    rcases List.mem_cons.1 member with rfl | below
    · rw [List.filter_cons_of_pos (by simp)]
      congr 1
      rw [List.filter_eq_nil_iff]
      intro other listed same
      exact fresh ((of_decide_eq_true same) ▸ List.mem_map_of_mem listed)
    · have apart : first.component ≠ page.component := by
        intro same
        exact fresh (same ▸ List.mem_map_of_mem below)
      rw [List.filter_cons_of_neg (by simpa using apart), ih others below]

theorem exists_identifier_of_mem_number {sources : List Path} {page : Page}
    (member : page ∈ number sources) :
    page.source ∈ sources ∧ ∃ position, page.component = identifier position := by
  obtain ⟨position, bound, same⟩ := List.mem_mapIdx.1 member
  exact ⟨same ▸ List.getElem_mem bound, position, same ▸ rfl⟩

end PageRoutes.Page
