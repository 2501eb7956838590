import PageRoutes.Number.Real

/-! How long a pass took, in milliseconds. -/

set_option autoImplicit false

namespace PageRoutes

structure Duration where
  milliseconds : Number.Real
  deriving DecidableEq

namespace Duration

def milliPerUnit : Number.Real := .ofInt 1000

/-- A clock gives seconds, and both the quotient and the product are rounded to the grid. -/
def ofMicroseconds (count : Number.Real) : Duration :=
  ⟨(count.divide 1000000).mul milliPerUnit⟩

def microseconds (duration : Duration) : Int := (duration.milliseconds.mul milliPerUnit).round

/-- Whole milliseconds as text; a half goes to the even neighbour. -/
def wholeMilliseconds (duration : Duration) : String := duration.milliseconds.wholeText

end Duration

end PageRoutes
