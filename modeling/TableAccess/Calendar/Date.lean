/-
**Days of the calendar.**

A date is a day of the proleptic Gregorian calendar: the leap rule of 1582 holds for every year,
before and after, and the year before year 1 is year 0.  The calendar reaches from the first day of
year -262143 to the last day of year 262142; the type holds nothing else.

Main definitions:

* `Date` — a day, with the proof that its month has it;
* `Date.rank` — an integer that orders dates;
* `Date.dayNumber`, `Date.ofDayNumber?` — the count of days from the first day of year 1, and back;
* `Date.addDays?` — the day a number of days later, unless the calendar ends before it.
-/

set_option relaxedAutoImplicit false
set_option autoImplicit false

namespace TableAccess

namespace Calendar

/-! ### Years and months -/

/-- Whether a year has a 29 February. -/
def isLeap (year : Int) : Bool :=
  year % 4 = 0 && (year % 100 ≠ 0 || year % 400 = 0)

/-- The lengths of the months of a year, January first. -/
def monthLengths (leap : Bool) : List Nat :=
  [31, if leap then 29 else 28, 31, 30, 31, 30, 31, 31, 30, 31, 30, 31]

/-- The number of days of a month (counted from 1); months that do not exist have none. -/
def daysInMonth (year : Int) (month : Nat) : Nat :=
  match month with
  | 0 => 0
  | m + 1 => ((monthLengths (isLeap year))[m]?).getD 0

def firstYear : Int := -262143

def lastYear : Int := 262142

/-- Whether year, month and day name a day of the calendar. -/
def IsDate (year : Int) (month day : Nat) : Prop :=
  firstYear ≤ year ∧ year ≤ lastYear ∧ 1 ≤ month ∧ month ≤ 12 ∧ 1 ≤ day ∧
    day ≤ daysInMonth year month

instance (year : Int) (month day : Nat) : Decidable (IsDate year month day) := by
  unfold IsDate; infer_instance

end Calendar

open Calendar

/-! ### Dates -/

/-- A day of the calendar. -/
@[ext] structure Date where
  year : Int
  month : Nat
  day : Nat
  isDate : IsDate year month day
deriving DecidableEq

namespace Date

/-- The first day of year 1, which has day number 0. -/
def epoch : Date := ⟨1, 1, 1, by decide⟩

instance : Inhabited Date := ⟨epoch⟩

def ofParts? (year : Int) (month day : Nat) : Option Date :=
  if h : IsDate year month day then some ⟨year, month, day, h⟩ else none

@[simp] theorem ofParts?_self (d : Date) : ofParts? d.year d.month d.day = some d := by
  simp [ofParts?, d.isDate]

/-! ### Order -/

/-- An integer that grows with the date.  Months are counted as if each had 31 days, so it orders
dates and does not measure the time between them. -/
def rank (d : Date) : Int := (d.year * 12 + d.month) * 31 + d.day

instance : LT Date := ⟨fun d e => d.rank < e.rank⟩
instance : LE Date := ⟨fun d e => d.rank ≤ e.rank⟩
instance (d e : Date) : Decidable (d < e) := inferInstanceAs (Decidable (d.rank < e.rank))
instance (d e : Date) : Decidable (d ≤ e) := inferInstanceAs (Decidable (d.rank ≤ e.rank))

theorem lt_def {d e : Date} : d < e ↔ d.rank < e.rank := Iff.rfl

theorem le_def {d e : Date} : d ≤ e ↔ d.rank ≤ e.rank := Iff.rfl

/-! ### Counting days -/

/-- The number of days of the months before the given one (counted from 0). -/
def daysBefore (leap : Bool) (m : Nat) : Nat := ((monthLengths leap).take m).foldl (· + ·) 0

/-- The number of days from the first day of year 1 to the first day of a year. -/
def yearStart (year : Int) : Int :=
  let y := year - 1
  365 * y + y / 4 - y / 100 + y / 400

/-- The number of days from the first day of year 1. -/
def dayNumber (d : Date) : Int :=
  yearStart d.year + daysBefore (isLeap d.year) (d.month - 1) + (d.day - 1 : Nat)

/-- The year that holds the day with the given number.  The calendar repeats after 400 years, which
are 146097 days; within them a century has 36524 days, four years have 1461 and a year has 365, and
the last century and the last year of four take one day more. -/
def yearOf (n : Int) : Int :=
  let r := n % 146097
  let century := min 3 (r / 36524)
  let r := r - century * 36524
  let quad := r / 1461
  let r := r - quad * 1461
  let single := min 3 (r / 365)
  400 * (n / 146097) + 100 * century + 4 * quad + single + 1

/-- The month (counted from 0) and day (counted from 1) of the day that follows the start of the
year by the given number of days, when the months have the given lengths. -/
def monthAndDay : List Nat → Nat → Nat × Nat
  | [], n => (0, n + 1)
  | len :: lens, n =>
      if n < len then (0, n + 1)
      else
        let p := monthAndDay lens (n - len)
        (p.1 + 1, p.2)

/-- The day with the given number, if the calendar has it. -/
def ofDayNumber? (n : Int) : Option Date :=
  let year := yearOf n
  let p := monthAndDay (monthLengths (isLeap year)) (n - yearStart year).toNat
  ofParts? year (p.1 + 1) p.2

/-- The day the given number of days later, unless the calendar ends before it. -/
def addDays? (d : Date) (n : Nat) : Option Date := ofDayNumber? (d.dayNumber + n)

def next? (d : Date) : Option Date := d.addDays? 1

def previous? (d : Date) : Option Date := ofDayNumber? (d.dayNumber - 1)

end Date

end TableAccess
