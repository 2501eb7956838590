import PageRoutes.Document.Value

/-! Dates and times of day that exist. -/

set_option autoImplicit false

namespace PageRoutes.Document.Calendar

def isLeapYear (year : Nat) : Bool := year % 4 = 0 && (year % 100 ≠ 0 || year % 400 = 0)

def daysIn (year month : Nat) : Nat :=
  if month = 2 then (if isLeapYear year then 29 else 28)
  else if month = 4 || month = 6 || month = 9 || month = 11 then 30
  else 31

def date (year month day : Nat) : Except String Date :=
  if year = 0 || 9999 < year then .error ("year " ++ ToString.toString year ++ " is out of range")
  else if month = 0 || 12 < month then .error "month must be in 1..12"
  else if day = 0 || daysIn year month < day then .error "day is out of range for month"
  else .ok ⟨year, month, day⟩

def timeOfDay (hour minute second microsecond : Nat) : Except String ClockTime :=
  if 23 < hour then .error "hour must be in 0..23"
  else if 59 < minute then .error "minute must be in 0..59"
  else if 59 < second then .error "second must be in 0..59"
  else .ok ⟨hour, minute, second, microsecond⟩

/-- The first six digits of a fraction of a second. -/
def microseconds (digits : List Char) : Nat :=
  ((digits ++ List.replicate 6 '0').take 6).foldl (fun total c => 10 * total + (c.toNat - 0x30)) 0

theorem daysIn_le (year month : Nat) : daysIn year month ≤ 31 := by
  unfold daysIn
  split
  · split <;> decide
  · split <;> decide

end PageRoutes.Document.Calendar
