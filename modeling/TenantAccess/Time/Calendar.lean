set_option autoImplicit false

namespace TenantAccess.Time

structure Date where
  year : Int
  month : Nat
  day : Nat
  deriving DecidableEq, Repr, Inhabited

/-- Days of a 400-year cycle. -/
def cycleDays : Int := 146097

/-- Days from the first of March of the year 0 to 1970-01-01. -/
def epochOffset : Int := 719468

def Date.toDays (date : Date) : Int :=
  let year := if date.month ≤ 2 then date.year - 1 else date.year
  let cycle := year.fdiv 400
  let yearOfCycle := year - cycle * 400
  let monthFromMarch : Int := if 2 < date.month then date.month - 3 else date.month + 9
  let dayOfYear := (153 * monthFromMarch + 2) / 5 + date.day - 1
  let dayOfCycle := yearOfCycle * 365 + yearOfCycle / 4 - yearOfCycle / 100 + dayOfYear
  cycle * cycleDays + dayOfCycle - epochOffset

def Date.ofDays (days : Int) : Date :=
  let shifted := days + epochOffset
  let cycle := shifted.fdiv cycleDays
  let dayOfCycle := shifted - cycle * cycleDays
  let yearOfCycle :=
    (dayOfCycle - dayOfCycle / 1460 + dayOfCycle / 36524 - dayOfCycle / 146096) / 365
  let dayOfYear := dayOfCycle - (365 * yearOfCycle + yearOfCycle / 4 - yearOfCycle / 100)
  let monthFromMarch := (5 * dayOfYear + 2) / 153
  let day := dayOfYear - (153 * monthFromMarch + 2) / 5 + 1
  let month := if monthFromMarch < 10 then monthFromMarch + 3 else monthFromMarch - 9
  let year := yearOfCycle + cycle * 400
  { year := if month ≤ 2 then year + 1 else year
    month := month.toNat
    day := day.toNat }

example : (Date.mk 1970 1 1).toDays = 0 ∧ (Date.mk 2026 1 1).toDays = 20454 := by decide

example : Date.ofDays 20454 = ⟨2026, 1, 1⟩ ∧ Date.ofDays 11016 = ⟨2000, 2, 29⟩ := by decide

def isLeapYear (year : Int) : Bool := year % 4 == 0 && (year % 100 != 0 || year % 400 == 0)

def daysInMonth (year : Int) (month : Nat) : Nat :=
  if month = 2 then (if isLeapYear year then 29 else 28)
  else if month = 4 ∨ month = 6 ∨ month = 9 ∨ month = 11 then 30
  else 31

/-- The weekday of a day, zero for Monday. -/
def weekday (days : Int) : Int := (days + 3) % 7

example : weekday 0 = 3 ∧ weekday (Date.toDays ⟨2026, 1, 1⟩) = 3 := by decide

end TenantAccess.Time
