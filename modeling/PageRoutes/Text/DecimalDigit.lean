/-! Decimal digits of all scripts.

Every script writes its ten digits in a row, so that a table of the zeros tells them all, as
version 14.0 of Unicode has them.
-/

set_option autoImplicit false

namespace PageRoutes.Text

def digitZeros : List UInt32 := [
  0x30, 0x660, 0x6f0, 0x7c0, 0x966, 0x9e6, 0xa66, 0xae6, 0xb66, 0xbe6, 0xc66, 0xce6, 0xd66, 0xde6,
  0xe50, 0xed0, 0xf20, 0x1040, 0x1090, 0x17e0, 0x1810, 0x1946, 0x19d0, 0x1a80, 0x1a90, 0x1b50,
  0x1bb0, 0x1c40, 0x1c50, 0xa620, 0xa8d0, 0xa900, 0xa9d0, 0xa9f0, 0xaa50, 0xabf0, 0xff10, 0x104a0,
  0x10d30, 0x11066, 0x110f0, 0x11136, 0x111d0, 0x112f0, 0x11450, 0x114d0, 0x11650, 0x116c0,
  0x11730, 0x118e0, 0x11950, 0x11c50, 0x11d50, 0x11da0, 0x16a60, 0x16ac0, 0x16b50, 0x1d7ce,
  0x1d7d8, 0x1d7e2, 0x1d7ec, 0x1d7f6, 0x1e140, 0x1e2f0, 0x1e950, 0x1fbf0]

def isDecimalDigit (c : Char) : Bool :=
  digitZeros.any fun zero => zero ≤ c.val && c.val < zero + 10

def digitValue? (c : Char) : Option Nat :=
  (digitZeros.find? fun zero => zero ≤ c.val && c.val < zero + 10).map fun zero =>
    (c.val - zero).toNat

theorem isSome_digitValue? (c : Char) : (digitValue? c).isSome = isDecimalDigit c := by
  rw [Bool.eq_iff_iff]
  simp [digitValue?, isDecimalDigit]

theorem isDecimalDigit_of_isDigit (c : Char) (digit : c.isDigit = true) :
    isDecimalDigit c = true := by
  have bounds : 48 ≤ c.val ∧ c.val ≤ 57 := by simpa [Char.isDigit] using digit
  refine List.any_eq_true.2 ⟨0x30, by decide, ?_⟩
  simp only [Bool.and_eq_true, decide_eq_true_eq]
  refine ⟨bounds.1, ?_⟩
  have : c.val.toNat ≤ 57 := bounds.2
  have limit : (0x30 + 10 : UInt32).toNat = 58 := by decide
  exact UInt32.lt_iff_toNat_lt.2 (by omega)

end PageRoutes.Text
