/-! Numbers in hexadecimal digits. -/

set_option autoImplicit false

namespace PageRoutes.Text

def hexValue? (c : Char) : Option Nat :=
  if '0' ≤ c ∧ c ≤ '9' then some (c.toNat - 0x30)
  else if 'a' ≤ c ∧ c ≤ 'f' then some (c.toNat - 0x57)
  else if 'A' ≤ c ∧ c ≤ 'F' then some (c.toNat - 0x37)
  else none

/-- A number in hexadecimal digits; at least one digit has to be there. -/
def hexNumber? (digits : List Char) : Option Nat :=
  if digits.isEmpty then none
  else digits.foldl (fun total c => total.bind fun sum =>
    (hexValue? c).map fun digit => 16 * sum + digit) (some 0)

end PageRoutes.Text
