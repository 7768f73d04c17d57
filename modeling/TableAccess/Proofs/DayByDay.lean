/-
**The calendar, day by day.**

After a day comes the next of its month; after the last of a month the first of the next month; and
after the last of December the first of January.  This says what a calendar is without counting
anything, and the numbers of days agree with it: a date is so many days after another just when its
number is larger by so many.  Every number between those of the first day and the last has its day,
so adding days fails only beyond the last.

Main definitions:

* `Date.first`, `Date.last` — where the calendar begins and ends;
* `Date.Tomorrow` — the day that comes next;
* `Date.DaysAfter` — a day that comes so many days later.

Main results:

* `Date.exists_dayNumber` — **every number in between has its day**;
* `Date.tomorrow_iff` — the next day has the next number;
* `Date.daysAfter_iff` — **days that come later have larger numbers**, by as many as are between;
* `Date.addDays?_eq_none_iff` — days can be added as far as the calendar reaches.
-/
import TableAccess.Proofs.CalendarDays

set_option relaxedAutoImplicit false
set_option autoImplicit false

namespace TableAccess

open Calendar

namespace Date

variable {d e f : Date} {n : Nat}

/-! ### The first day and the last -/

def first : Date := ⟨-262143, 1, 1, by decide⟩

def last : Date := ⟨262142, 12, 31, by decide⟩

/-- A day has the number that it is found from, so no two days share one. -/
theorem eq_of_dayNumber_eq (h : d.dayNumber = e.dayNumber) : d = e :=
  Option.some.inj ((ofDayNumber?_eq_some_iff.2 h).symm.trans (ofDayNumber?_eq_some_iff.2 rfl))

theorem dayNumber_first : first.dayNumber = yearStart firstYear := by decide

theorem dayNumber_last : last.dayNumber = yearStart lastYear + yearLength lastYear - 1 := by decide

theorem first_le (d : Date) : first.dayNumber ≤ d.dayNumber := by
  obtain ⟨hyear, -, -, -, -, -⟩ := d.isDate
  obtain ⟨m, len, -, -, hday, -, hnumber⟩ := d.exists_length
  rw [dayNumber_first]
  rcases Int.lt_or_eq_of_le hyear with hlt | heq
  · have hstart := yearStart_add_le hlt
    have hlength : 0 ≤ yearLength firstYear := by decide
    omega
  · rw [heq]
    omega

theorem le_last (d : Date) : d.dayNumber ≤ last.dayNumber := by
  obtain ⟨-, hyear, -, -, -, -⟩ := d.isDate
  obtain ⟨m, len, -, hlen, -, hday, hnumber⟩ := d.exists_length
  have htake := sum_take_add_le hlen
  have hlength := sum_monthLengths d.year
  rw [dayNumber_last]
  rcases Int.lt_or_eq_of_le hyear with hlt | heq
  · have hstart := yearStart_add_le hlt
    have hpositive : 1 ≤ yearLength lastYear := by decide
    omega
  · rw [← heq]
    omega

/-- **Every number between those of the first day and the last has its day.** -/
theorem exists_dayNumber {n : Int} (hlow : first.dayNumber ≤ n) (hhigh : n ≤ last.dayNumber) :
    ∃ d : Date, d.dayNumber = n := by
  obtain ⟨hle, hlt⟩ := yearOf_spec n
  rw [dayNumber_first] at hlow
  rw [dayNumber_last] at hhigh
  have hfirst : firstYear ≤ yearOf n := by
    refine Int.not_lt.1 fun hbefore => ?_
    have hstart := yearStart_add_le hbefore
    omega
  have hlast : yearOf n ≤ lastYear := by
    refine Int.not_lt.1 fun hafter => ?_
    have hstart := yearStart_add_le hafter
    omega
  rw [← sum_monthLengths] at hlt
  obtain ⟨k, hk⟩ : ∃ k : Nat, n = yearStart (yearOf n) + k :=
    ⟨(n - yearStart (yearOf n)).toNat, by omega⟩
  obtain ⟨m, day, hsplit⟩ : ∃ m day, monthAndDay (monthLengths (isLeap (yearOf n))) k = (m, day) :=
    ⟨_, _, rfl⟩
  obtain ⟨len, hlen, hpos, hday, hsum⟩ := (monthAndDay_eq_iff (by omega)).1 hsplit
  have hmonth : m < 12 := (List.getElem?_eq_some_iff.1 hlen).1
  have hdate : IsDate (yearOf n) (m + 1) day := by
    refine ⟨hfirst, hlast, by omega, by omega, hpos, ?_⟩
    rw [daysInMonth, hlen]
    exact hday
  refine ⟨⟨yearOf n, m + 1, day, hdate⟩, ?_⟩
  rw [dayNumber, Nat.add_sub_cancel, daysBefore_eq_sum]
  dsimp only
  omega

/-! ### The next day -/

/-- The day that comes next. -/
inductive Tomorrow (d e : Date) : Prop
  | sameMonth (hyear : e.year = d.year) (hmonth : e.month = d.month) (hday : e.day = d.day + 1)
  | nextMonth (hlast : d.day = daysInMonth d.year d.month) (hyear : e.year = d.year)
      (hmonth : e.month = d.month + 1) (hday : e.day = 1)
  | nextYear (hdecember : d.month = 12) (hlast : d.day = 31) (hyear : e.year = d.year + 1)
      (hmonth : e.month = 1) (hday : e.day = 1)

theorem dayNumber_of_tomorrow (h : Tomorrow d e) : e.dayNumber = d.dayNumber + 1 := by
  obtain ⟨m, len, hm, hlen, -, -, hnumber⟩ := d.exists_length
  obtain ⟨m', len', hm', -, -, -, hnumber'⟩ := e.exists_length
  cases h with
  | sameMonth hyear hmonth hday =>
      obtain rfl : m' = m := by omega
      rw [hyear] at hnumber'
      omega
  | nextMonth hlast hyear hmonth hday =>
      obtain rfl : m' = m + 1 := by omega
      rw [hm, daysInMonth, hlen, Option.getD_some] at hlast
      rw [hyear, List.take_add_one, hlen, Option.toList_some, List.sum_append_nat,
        List.sum_singleton] at hnumber'
      omega
  | nextYear hdecember hlast hyear hmonth hday =>
      obtain rfl : m = 11 := by omega
      obtain rfl : m' = 0 := by omega
      have hyearLength := sum_monthLengths d.year
      have hsum : ∀ leap, ((monthLengths leap).take 11).sum + 31 = (monthLengths leap).sum := by
        decide
      have htake := hsum (isLeap d.year)
      rw [hyear, yearStart_succ, List.take_zero, List.sum_nil] at hnumber'
      omega

theorem one_le_daysInMonth {year : Int} {m : Nat} (h : m < 12) : 1 ≤ daysInMonth year (m + 1) := by
  have hpos : ∀ leap, ∀ m < 12, 1 ≤ ((monthLengths leap)[m]?).getD 0 := by decide
  exact hpos _ m h

theorem exists_tomorrow (h : d ≠ last) : ∃ e, Tomorrow d e := by
  obtain ⟨hfirst, hyear, hlow, hmonth, hpos, hday⟩ := d.isDate
  by_cases hinside : d.day < daysInMonth d.year d.month
  · exact ⟨⟨d.year, d.month, d.day + 1, hfirst, hyear, hlow, hmonth, by omega, hinside⟩,
      .sameMonth rfl rfl rfl⟩
  · have hend : d.day = daysInMonth d.year d.month := by omega
    by_cases hbefore : d.month < 12
    · exact ⟨⟨d.year, d.month + 1, 1, hfirst, hyear, by omega, hbefore, Nat.le_refl 1,
        one_le_daysInMonth hbefore⟩, .nextMonth hend rfl rfl rfl⟩
    · have hdecember : d.month = 12 := by omega
      have hlength : d.day = 31 := by
        rw [hend, hdecember]
        exact rfl
      have hless : d.year ≠ lastYear := fun heq => h (Date.ext heq hdecember hlength)
      exact ⟨⟨d.year + 1, 1, 1, by omega, by omega, Nat.le_refl 1, by decide, Nat.le_refl 1,
        one_le_daysInMonth (by decide)⟩, .nextYear hdecember hlength rfl rfl rfl⟩

/-- **The next day has the next number.** -/
theorem tomorrow_iff : Tomorrow d e ↔ e.dayNumber = d.dayNumber + 1 := by
  refine ⟨dayNumber_of_tomorrow, fun h => ?_⟩
  have hlast : d ≠ last := by
    rintro rfl
    have hle := e.le_last
    omega
  obtain ⟨e', he'⟩ := exists_tomorrow hlast
  rwa [eq_of_dayNumber_eq (h.trans (dayNumber_of_tomorrow he').symm)]

/-! ### Days later -/

/-- A day comes so many days after another. -/
inductive DaysAfter : Nat → Date → Date → Prop
  | today (d : Date) : DaysAfter 0 d d
  | tomorrow {n : Nat} {d e f : Date} (h : DaysAfter n d e) (hnext : Tomorrow e f) :
      DaysAfter (n + 1) d f

theorem DaysAfter.dayNumber_eq (h : DaysAfter n d e) : e.dayNumber = d.dayNumber + n := by
  induction h with
  | today d => omega
  | tomorrow _ hnext ih =>
      rw [tomorrow_iff.1 hnext, ih]
      omega

theorem daysAfter_of_dayNumber_eq (h : e.dayNumber = d.dayNumber + n) : DaysAfter n d e := by
  induction n generalizing e with
  | zero =>
      rw [eq_of_dayNumber_eq (h.trans (Int.add_zero _))]
      exact .today d
  | succ n ih =>
      have hfirst := d.first_le
      have hlast := e.le_last
      obtain ⟨between, hbetween⟩ : ∃ f : Date, f.dayNumber = d.dayNumber + n :=
        exists_dayNumber (by omega) (by omega)
      exact .tomorrow (ih hbetween) (tomorrow_iff.2 (by omega))

/-- **Days that come later have larger numbers**, by as many as are between. -/
theorem daysAfter_iff : DaysAfter n d e ↔ e.dayNumber = d.dayNumber + n :=
  ⟨DaysAfter.dayNumber_eq, daysAfter_of_dayNumber_eq⟩

/-- **Days can be added as far as the calendar reaches.** -/
theorem addDays?_eq_none_iff : d.addDays? n = none ↔ last.dayNumber < d.dayNumber + n := by
  rw [Option.eq_none_iff_forall_ne_some]
  constructor
  · intro hnone
    refine Int.not_le.1 fun hle => ?_
    have hfirst := d.first_le
    obtain ⟨e, he⟩ : ∃ e : Date, e.dayNumber = d.dayNumber + n :=
      exists_dayNumber (by omega) hle
    exact hnone e (addDays?_eq_some_iff.2 he)
  · intro hbeyond e hsome
    have hle := e.le_last
    rw [addDays?_eq_some_iff.1 hsome] at hle
    omega

/-- Days cannot be added just when the last day comes sooner than that. -/
theorem addDays?_eq_none_iff_daysAfter :
    d.addDays? n = none ↔ ∃ k < n, DaysAfter k d last := by
  rw [addDays?_eq_none_iff]
  constructor
  · intro hbeyond
    have hle := d.le_last
    exact ⟨(last.dayNumber - d.dayNumber).toNat, by omega, daysAfter_iff.2 (by omega)⟩
  · rintro ⟨k, hk, hafter⟩
    rw [daysAfter_iff.1 hafter]
    omega

end Date

end TableAccess
