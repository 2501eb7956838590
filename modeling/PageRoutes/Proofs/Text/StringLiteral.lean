import Mathlib.Data.List.TakeWhile
import PageRoutes.Text.HexDigit

/-! String literals in single quotes, as the code of a JavaScript module reads them.

A literal ends at the first quote without a backslash in front of it, and has to end in its line.
Its value is made of UTF-16 code units: a character counts for itself, and a backslash escapes what
comes after it. An escape is never shorter than what it stands for, so a text that is read back
unchanged has no backslash. Main statement: a text between quotes is read as itself exactly if it
holds no quote, no backslash and no line break.
-/

set_option autoImplicit false

namespace PageRoutes.Text

/-- The code units of a code point; two of them behind the first 65536. -/
def unitsOf (code : Nat) : List Nat :=
  if code < 0x10000 then [code]
  else [0xd800 + (code - 0x10000) / 0x400, 0xdc00 + (code - 0x10000) % 0x400]

def units (text : List Char) : List Nat := text.flatMap fun c => unitsOf c.toNat

/-- The code units that a character stands for behind a backslash; a line break stands for none. -/
def escapedUnits : Char → List Nat
  | 'b' => [8]
  | 't' => [9]
  | 'n' => [10]
  | 'v' => [11]
  | 'f' => [12]
  | 'r' => [13]
  | '\n' => []
  | '\r' => []
  | '\u2028' => []
  | '\u2029' => []
  | c => unitsOf c.toNat

def unitIn? (count : Nat) (text : List Char) : Option (List Nat × List Char) :=
  if count ≤ text.length then
    (hexNumber? (text.take count)).map fun code => ([code], text.drop count)
  else none

def codePoint? (text : List Char) : Option (List Nat × List Char) :=
  match hexNumber? (text.takeWhile (· ≠ '\x7d')),
      text.dropWhile (· ≠ '\x7d') with
  | some code, _ :: rest => if code ≤ 0x10ffff then some (unitsOf code, rest) else none
  | _, _ => none

/-- The code units of what is escaped at the start of a text, and what follows it. A zero may not
be followed by another digit, and no other digit can be escaped. -/
def escape? : List Char → Option (List Nat × List Char)
  | [] => none
  | '\r' :: '\n' :: rest => some ([], rest)
  | 'x' :: rest => unitIn? 2 rest
  | 'u' :: '\x7b' :: rest => codePoint? rest
  | 'u' :: rest => unitIn? 4 rest
  | '0' :: rest => if rest.head?.any Char.isDigit then none else some ([0], rest)
  | c :: rest => if c.isDigit then none else some (escapedUnits c, rest)

theorem units_append (first second : List Char) :
    units (first ++ second) = units first ++ units second := List.flatMap_append

theorem units_cons (c : Char) (rest : List Char) :
    units (c :: rest) = unitsOf c.toNat ++ units rest := List.flatMap_cons

theorem length_unitsOf (code : Nat) : 1 ≤ (unitsOf code).length ∧ (unitsOf code).length ≤ 2 := by
  unfold unitsOf
  split <;> simp

theorem length_le_units (text : List Char) : text.length ≤ (units text).length := by
  induction text with
  | nil => exact Nat.le_refl 0
  | cons c rest ih =>
    have own := (length_unitsOf c.toNat).1
    rw [units_cons, List.length_append, List.length_cons]
    omega

theorem length_escapedUnits (c : Char) : (escapedUnits c).length ≤ (unitsOf c.toNat).length := by
  have own := (length_unitsOf c.toNat).1
  unfold escapedUnits
  split <;> first | exact own | exact Nat.zero_le _ | exact Nat.le_refl _

theorem split_of_unitIn? {count : Nat} {text : List Char} {value : List Nat} {rest : List Char}
    (found : unitIn? count text = some (value, rest)) :
    ∃ digits, text = digits ++ rest ∧ value.length = 1 := by
  unfold unitIn? at found
  split at found
  · obtain ⟨code, _, same⟩ := Option.map_eq_some_iff.1 found
    cases same
    exact ⟨text.take count, (List.take_append_drop count text).symm, rfl⟩
  · cases found

theorem split_of_codePoint? {text : List Char} {value : List Nat} {rest : List Char}
    (found : codePoint? text = some (value, rest)) :
    ∃ digits c, text = digits ++ c :: rest ∧ value.length ≤ 2 := by
  unfold codePoint? at found
  split at found
  · rename_i code c behind _ stopped
    split at found
    · cases found
      refine ⟨text.takeWhile (· ≠ '\x7d'), c, ?_, (length_unitsOf code).2⟩
      rw [← stopped, List.takeWhile_append_dropWhile]
    · cases found
  · cases found

/-- What an escape takes away from a text is not shorter than what it stands for. -/
theorem split_of_escape? {text : List Char} {value : List Nat} {rest : List Char}
    (found : escape? text = some (value, rest)) :
    ∃ taken, text = taken ++ rest ∧ value.length ≤ (units taken).length := by
  unfold escape? at found
  split at found
  · cases found
  · cases found
    exact ⟨['\r', '\n'], rfl, Nat.zero_le _⟩
  · obtain ⟨digits, rfl, single⟩ := split_of_unitIn? found
    refine ⟨'x' :: digits, rfl, ?_⟩
    have long := length_le_units ('x' :: digits)
    rw [List.length_cons] at long
    omega
  · obtain ⟨digits, c, rfl, short⟩ := split_of_codePoint? found
    refine ⟨'u' :: '\x7b' :: (digits ++ [c]), by simp, ?_⟩
    have long := length_le_units ('u' :: '\x7b' :: (digits ++ [c]))
    rw [List.length_cons, List.length_cons] at long
    omega
  · obtain ⟨digits, rfl, single⟩ := split_of_unitIn? found
    refine ⟨'u' :: digits, rfl, ?_⟩
    have long := length_le_units ('u' :: digits)
    rw [List.length_cons] at long
    omega
  · split at found
    · cases found
    · cases found
      exact ⟨['0'], rfl, by decide⟩
  · rename_i c behind _ _ _ _ _
    split at found
    · cases found
    · cases found
      refine ⟨[c], rfl, ?_⟩
      rw [units, List.flatMap_singleton]
      exact length_escapedUnits c

theorem length_of_escape? {text : List Char} {value : List Nat} {rest : List Char}
    (found : escape? text = some (value, rest)) : rest.length ≤ text.length := by
  obtain ⟨taken, rfl, _⟩ := split_of_escape? found
  simp

/-- Reads a literal behind its opening quote: its value, and what follows the closing quote. -/
def literal? (text : List Char) : Option (List Nat × List Char) :=
  match text with
  | [] => none
  | '\'' :: rest => some ([], rest)
  | '\\' :: escaped =>
    match found : escape? escaped with
    | some (value, behind) =>
      have := length_of_escape? found
      (literal? behind).map fun (following, rest) => (value ++ following, rest)
    | none => none
  | c :: rest =>
    if c = '\n' ∨ c = '\r' then none
    else (literal? rest).map fun (following, behind) => (unitsOf c.toNat ++ following, behind)
termination_by text.length

def IsVerbatim (text : List Char) : Prop :=
  ∀ c ∈ text, c ≠ '\'' ∧ c ≠ '\\' ∧ c ≠ '\n' ∧ c ≠ '\r'

instance : DecidablePred IsVerbatim := fun text =>
  decidable_of_iff (text.all fun c => c ≠ '\'' && c ≠ '\\' && c ≠ '\n' && c ≠ '\r')
    (by simp [IsVerbatim, and_assoc])

theorem length_behind_escape {escaped own behind following rest}
    (escapes : escape? escaped = some (own, behind))
    (shorter : following.length + (units rest).length < (units behind).length) :
    (own ++ following).length + (units rest).length < (units escaped).length := by
  obtain ⟨taken, rfl, short⟩ := split_of_escape? escapes
  rw [units_append, List.length_append, List.length_append]
  omega

theorem length_of_literal? {text : List Char} {value : List Nat} {rest : List Char}
    (found : literal? text = some (value, rest)) :
    value.length + (units rest).length < (units text).length := by
  -- Both sides count code units, since one escape may stand for two of them.
  fun_induction literal? text generalizing value rest with
  | case1 => cases found
  | case2 behind =>
    cases found
    have quote := (length_unitsOf '\''.toNat).1
    rw [units_cons, List.length_append, List.length_nil]
    omega
  | case3 escaped own behind escapes _ ih =>
    obtain ⟨⟨following, _⟩, below, same⟩ := Option.map_eq_some_iff.1 found
    cases same
    have shorter := length_behind_escape escapes (ih below)
    simp only [units_cons, List.length_append] at shorter ⊢
    omega
  | case4 => cases found
  | case5 => cases found
  | case6 c behind _ _ inside ih =>
    obtain ⟨⟨following, _⟩, below, same⟩ := Option.map_eq_some_iff.1 found
    cases same
    have shorter := ih below
    simp only [units_cons, List.length_append] at shorter ⊢
    omega

theorem literal?_quote (rest : List Char) : literal? ('\'' :: rest) = some ([], rest) := by
  rw [literal?]

theorem literal?_plain {c : Char} (plain : c ≠ '\'' ∧ c ≠ '\\' ∧ c ≠ '\n' ∧ c ≠ '\r')
    (rest : List Char) :
    literal? (c :: rest) =
      (literal? rest).map fun (following, behind) => (unitsOf c.toNat ++ following, behind) := by
  rw [literal?, if_neg (by simp [plain.2.2])]
  · exact plain.1
  · exact plain.2.1

theorem literal?_of_verbatim {text : List Char} (verbatim : IsVerbatim text) (rest : List Char) :
    literal? (text ++ '\'' :: rest) = some (units text, rest) := by
  induction text with
  | nil => exact literal?_quote rest
  | cons c others ih =>
    obtain ⟨plain, below⟩ := List.forall_mem_cons.1 verbatim
    rw [List.cons_append, literal?_plain plain, ih below]
    rfl

theorem length_of_literal?_backslash {escaped : List Char} {value : List Nat} {rest : List Char}
    (found : literal? ('\\' :: escaped) = some (value, rest)) :
    value.length + (units rest).length < (units escaped).length := by
  rw [literal?] at found
  split at found
  · rename_i own behind escapes
    obtain ⟨⟨following, _⟩, below, same⟩ := Option.map_eq_some_iff.1 found
    cases same
    exact length_behind_escape escapes (length_of_literal? below)
  · cases found

theorem literal?_break {c : Char} (ends : c = '\n' ∨ c = '\r') (rest : List Char) :
    literal? (c :: rest) = none := by
  rcases ends with rfl | rfl <;> simp [literal?]

theorem verbatim_of_literal? {text rest : List Char}
    (found : literal? (text ++ '\'' :: rest) = some (units text, rest)) : IsVerbatim text := by
  induction text with
  | nil => exact List.forall_mem_nil _
  | cons c others ih =>
    have own := (length_unitsOf c.toNat).1
    rw [List.cons_append] at found
    by_cases quote : c = '\''
    · -- The literal is over before its first character.
      subst quote
      rw [literal?_quote, units_cons] at found
      have empty := List.append_eq_nil_iff.1 (Prod.mk.inj (Option.some.inj found)).1.symm
      rw [empty.1] at own
      cases own
    by_cases backslash : c = '\\'
    · subst backslash
      have shorter := length_of_literal?_backslash found
      simp only [units_cons, units_append, List.length_append] at shorter
      have single : (unitsOf '\''.toNat).length = 1 := by decide
      omega
    by_cases ends : c = '\n' ∨ c = '\r'
    · rw [literal?_break ends] at found
      cases found
    · have plain : c ≠ '\'' ∧ c ≠ '\\' ∧ c ≠ '\n' ∧ c ≠ '\r' :=
        ⟨quote, backslash, not_or.1 ends⟩
      rw [literal?_plain plain] at found
      obtain ⟨⟨following, _⟩, below, same⟩ := Option.map_eq_some_iff.1 found
      obtain ⟨value, rfl⟩ := Prod.mk.inj same
      rw [units_cons, List.append_cancel_left_eq] at value
      subst value
      exact List.forall_mem_cons.2 ⟨plain, ih below⟩

/-- A text between single quotes is read as itself exactly if it holds no quote, no backslash and
no line break. -/
theorem literal?_eq_units_iff (text rest : List Char) :
    literal? (text ++ '\'' :: rest) = some (units text, rest) ↔ IsVerbatim text :=
  ⟨verbatim_of_literal?, fun verbatim => literal?_of_verbatim verbatim rest⟩

end PageRoutes.Text
