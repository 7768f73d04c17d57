/-
**Counting days.**

Days are counted by way of years: a day is found from its number by dividing by the lengths of four
centuries, a century, four years and a year, and then by going through the months.  This module
shows that every day of the calendar is found again from its number, that days are numbered in their
order, and so that adding days to a date gives the date that is so many days later, as far as the
calendar reaches.

Main definitions:

* `Date.yearLength` — the number of days of a year.

Main results:

* `Date.yearOf_eq_iff` — a number belongs to the year whose days it is among;
* `Date.monthAndDay_eq_iff` — the same for the months of a year;
* `Date.ofDayNumber?_eq_some_iff` — a day is found from its own number and from no other;
* `Date.dayNumber_lt_iff` — days are numbered in their order;
* `Date.addDays?_eq_some_iff` — adding days.
-/
import Mathlib.Algebra.GroupWithZero.Nat
import TableAccess.Calendar.Date

set_option relaxedAutoImplicit false
set_option autoImplicit false

namespace TableAccess

open Calendar

namespace Date

/-! ### Years -/

def yearLength (y : Int) : Int := if isLeap y then 366 else 365

theorem isLeap_iff {y : Int} : isLeap y = true ↔ y % 4 = 0 ∧ (y % 100 ≠ 0 ∨ y % 400 = 0) := by
  simp [isLeap]

theorem yearStart_succ (y : Int) : yearStart (y + 1) = yearStart y + yearLength y := by
  rw [yearLength]
  split
  · next hleap =>
      rw [isLeap_iff] at hleap
      simp only [yearStart]
      omega
  · next hleap =>
      rw [isLeap_iff] at hleap
      simp only [yearStart]
      omega

theorem yearStart_add_le {x y : Int} (h : x < y) : yearStart x + yearLength x ≤ yearStart y := by
  rw [← yearStart_succ]
  simp only [yearStart]
  omega

/-- The start of a year by its place within 400 years: each century, each four years and each year
before it has its common length. -/
theorem yearStart_parts {a b c s : Int} (hb : 0 ≤ b ∧ b ≤ 3) (hc : 0 ≤ c ∧ c ≤ 24)
    (hs : 0 ≤ s ∧ s ≤ 3) :
    yearStart (400 * a + 100 * b + 4 * c + s + 1) =
      146097 * a + 36524 * b + 1461 * c + 365 * s := by
  simp only [yearStart]
  omega

/-- A number is among the days of its year. -/
theorem yearOf_spec (n : Int) :
    yearStart (yearOf n) ≤ n ∧ n < yearStart (yearOf n) + yearLength (yearOf n) := by
  obtain ⟨a, ha⟩ : ∃ a, a = n / 146097 := ⟨_, rfl⟩
  obtain ⟨b, hb⟩ : ∃ b, b = min 3 (n % 146097 / 36524) := ⟨_, rfl⟩
  obtain ⟨c, hc⟩ : ∃ c, c = (n % 146097 - b * 36524) / 1461 := ⟨_, rfl⟩
  obtain ⟨s, hs⟩ : ∃ s, s = min 3 ((n % 146097 - b * 36524 - c * 1461) / 365) := ⟨_, rfl⟩
  have hyear : yearOf n = 400 * a + 100 * b + 4 * c + s + 1 := by
    simp only [yearOf, ha, hb, hc, hs]
  have hcenturies : 0 ≤ b ∧ b ≤ 3 := by omega
  have hquads : 0 ≤ c ∧ c ≤ 24 := by omega
  have hsingles : 0 ≤ s ∧ s ≤ 3 := by omega
  -- the leap day comes at the end of the last of four years, unless these end a common century
  have hleap : isLeap (yearOf n) = true ↔ s = 3 ∧ (c < 24 ∨ b = 3) := by
    rw [isLeap_iff, hyear]
    clear ha hb hc hs hyear
    omega
  have hrest : 146097 * a + 36524 * b + 1461 * c + 365 * s ≤ n ∧
      (n < 146097 * a + 36524 * b + 1461 * c + 365 * s + 365 ∨ s = 3 ∧ (c < 24 ∨ b = 3) ∧
        n < 146097 * a + 36524 * b + 1461 * c + 365 * s + 366) := by
    omega
  rw [yearLength, hyear, yearStart_parts hcenturies hquads hsingles, ← hyear]
  clear ha hb hc hs hyear
  refine ⟨hrest.1, ?_⟩
  split
  · omega
  · next hcommon =>
      have hnot := mt hleap.2 hcommon
      omega

/-- **A number belongs to the year whose days it is among.** -/
theorem yearOf_eq_iff {n y : Int} :
    yearOf n = y ↔ yearStart y ≤ n ∧ n < yearStart y + yearLength y := by
  constructor
  · rintro rfl
    exact yearOf_spec n
  · rintro ⟨hle, hlt⟩
    obtain ⟨hle', hlt'⟩ := yearOf_spec n
    rcases Int.lt_trichotomy (yearOf n) y with hbefore | hsame | hafter
    · have := yearStart_add_le hbefore
      omega
    · exact hsame
    · have := yearStart_add_le hafter
      omega

/-! ### Months -/

/-- **A day belongs to the month whose days it is among**, when months of the given lengths follow
each other. -/
theorem monthAndDay_eq_iff {lens : List Nat} {n m day : Nat} (hn : n < lens.sum) :
    monthAndDay lens n = (m, day) ↔
      ∃ len, lens[m]? = some len ∧ 1 ≤ day ∧ day ≤ len ∧ (lens.take m).sum + day = n + 1 := by
  induction lens generalizing n m with
  | nil => cases hn
  | cons first lens ih =>
      rw [List.sum_cons] at hn
      by_cases hfirst : n < first
      · rw [monthAndDay, if_pos hfirst]
        cases m with
        | zero => simp; omega
        | succ m =>
            rw [List.take_succ_cons, List.sum_cons]
            refine iff_of_false (fun h => by cases h) ?_
            rintro ⟨len, -, hpos, -, hday⟩
            omega
      · rw [monthAndDay, if_neg hfirst]
        cases m with
        | zero =>
            refine iff_of_false (fun h => by cases h) ?_
            rintro ⟨len, hlen, -, hle, hday⟩
            cases hlen
            rw [List.take_zero, List.sum_nil] at hday
            omega
        | succ m =>
            have hshift : ((monthAndDay lens (n - first)).1 + 1,
                (monthAndDay lens (n - first)).2) = (m + 1, day) ↔
                monthAndDay lens (n - first) = (m, day) := by
              rw [Prod.mk.injEq, Prod.ext_iff, Nat.add_right_cancel_iff]
            rw [hshift, ih (by omega), List.getElem?_cons_succ, List.take_succ_cons, List.sum_cons]
            refine exists_congr fun len => and_congr_right fun _ => and_congr_right fun _ =>
              and_congr_right fun _ => ?_
            omega

theorem sum_monthLengths (y : Int) : ((monthLengths (isLeap y)).sum : Int) = yearLength y := by
  rw [yearLength]
  cases isLeap y <;> decide

theorem daysBefore_eq_sum (leap : Bool) (m : Nat) :
    daysBefore leap m = ((monthLengths leap).take m).sum :=
  List.sum_eq_foldl.symm

theorem sum_take_add_le {lens : List Nat} {m len : Nat} (h : lens[m]? = some len) :
    (lens.take m).sum + len ≤ lens.sum := by
  induction lens generalizing m with
  | nil => cases h
  | cons first lens ih =>
      cases m with
      | zero =>
          cases h
          simp
      | succ m =>
          have hrest := ih (List.getElem?_cons_succ ▸ h)
          rw [List.take_succ_cons, List.sum_cons, List.sum_cons]
          omega

theorem exists_length (d : Date) : ∃ m len, d.month = m + 1 ∧
    (monthLengths (isLeap d.year))[m]? = some len ∧ 1 ≤ d.day ∧ d.day ≤ len ∧
    d.dayNumber = yearStart d.year + ((monthLengths (isLeap d.year)).take m).sum + d.day - 1 := by
  obtain ⟨-, -, hmonth, -, hday, hlast⟩ := d.isDate
  obtain ⟨m, hm⟩ : ∃ m, d.month = m + 1 := ⟨d.month - 1, by omega⟩
  rw [hm, daysInMonth] at hlast
  cases hlen : (monthLengths (isLeap d.year))[m]? with
  | none =>
      rw [hlen, Option.getD_none] at hlast
      omega
  | some len =>
      rw [hlen, Option.getD_some] at hlast
      refine ⟨m, len, hm, hlen, hday, hlast, ?_⟩
      rw [dayNumber, hm, Nat.add_sub_cancel, daysBefore_eq_sum]
      omega

/-! ### Days -/

theorem ofDayNumber?_eq (n : Int) : ofDayNumber? n =
    ofParts? (yearOf n)
      ((monthAndDay (monthLengths (isLeap (yearOf n))) (n - yearStart (yearOf n)).toNat).1 + 1)
      (monthAndDay (monthLengths (isLeap (yearOf n))) (n - yearStart (yearOf n)).toNat).2 :=
  rfl

/-- **A day is found from its own number and from no other.** -/
theorem ofDayNumber?_eq_some_iff {n : Int} {d : Date} :
    ofDayNumber? n = some d ↔ d.dayNumber = n := by
  constructor
  · intro h
    obtain ⟨hle, hlt⟩ := yearOf_spec n
    rw [← sum_monthLengths] at hlt
    obtain ⟨k, hk⟩ : ∃ k : Nat, n = yearStart (yearOf n) + k :=
      ⟨(n - yearStart (yearOf n)).toNat, by omega⟩
    have hfound : (n - yearStart (yearOf n)).toNat = k := by omega
    rw [ofDayNumber?_eq, hfound, ofParts?] at h
    split at h
    · cases h
      have hsplit : monthAndDay (monthLengths (isLeap (yearOf n))) k =
        ((monthAndDay (monthLengths (isLeap (yearOf n))) k).1,
          (monthAndDay (monthLengths (isLeap (yearOf n))) k).2) := rfl
      obtain ⟨len, -, hpos, -, hday⟩ := (monthAndDay_eq_iff (by omega)).1 hsplit
      rw [dayNumber, daysBefore_eq_sum]
      dsimp only
      rw [Nat.add_sub_cancel]
      omega
    · cases h
  · rintro rfl
    obtain ⟨m, len, hm, hlen, hpos, hle, hnumber⟩ := d.exists_length
    have htake := sum_take_add_le hlen
    have hlength := sum_monthLengths d.year
    have hyear : yearOf d.dayNumber = d.year := yearOf_eq_iff.2 (by omega)
    have hmonth : monthAndDay (monthLengths (isLeap d.year))
        (d.dayNumber - yearStart d.year).toNat = (m, d.day) :=
      (monthAndDay_eq_iff (by omega)).2 ⟨len, hlen, hpos, hle, by omega⟩
    rw [ofDayNumber?_eq, hyear, hmonth, ← hm]
    exact ofParts?_self d

/-- **Adding days** gives the date that is so many days later. -/
theorem addDays?_eq_some_iff {d e : Date} {n : Nat} :
    d.addDays? n = some e ↔ e.dayNumber = d.dayNumber + n :=
  ofDayNumber?_eq_some_iff

/-! ### The order of days -/

theorem day_le (d : Date) : d.day ≤ 31 := by
  obtain ⟨m, len, -, hlen, -, hle, -⟩ := d.exists_length
  have hbound : ∀ leap, ∀ len ∈ monthLengths leap, len ≤ 31 := by decide
  exact Nat.le_trans hle (hbound _ len (List.mem_of_getElem? hlen))

theorem lt_iff {d e : Date} : d < e ↔ d.year < e.year ∨ d.year = e.year ∧
    (d.month < e.month ∨ d.month = e.month ∧ d.day < e.day) := by
  obtain ⟨-, -, hlow, hmonth, hday, -⟩ := d.isDate
  obtain ⟨-, -, hlow', hmonth', hday', -⟩ := e.isDate
  have hlast := d.day_le
  have hlast' := e.day_le
  rw [lt_def, rank, rank]
  omega

theorem eq_of_not_lt {d e : Date} (h : ¬ d < e) (h' : ¬ e < d) : d = e := by
  rw [lt_iff] at h h'
  ext <;> omega

theorem dayNumber_lt_of_lt {d e : Date} (h : d < e) : d.dayNumber < e.dayNumber := by
  obtain ⟨m, len, hm, hlen, hpos, hle, hnumber⟩ := d.exists_length
  obtain ⟨m', len', hm', hlen', hpos', hle', hnumber'⟩ := e.exists_length
  rcases lt_iff.1 h with hyear | ⟨hyear, hmonth | ⟨hmonth, hday⟩⟩
  · -- the earlier year is over before the later one begins
    have htake := sum_take_add_le hlen
    have hlength := sum_monthLengths d.year
    have hover := yearStart_add_le hyear
    omega
  · -- the earlier month is among those before the later one
    have hbefore : ((monthLengths (isLeap d.year)).take m')[m]? = some len := by
      rw [List.getElem?_take, if_pos (by omega), hlen]
    have htake := sum_take_add_le hbefore
    rw [List.take_take, Nat.min_eq_left (by omega)] at htake
    rw [← hyear] at hnumber'
    omega
  · obtain rfl : m = m' := by omega
    rw [← hyear] at hnumber'
    omega

/-- **Days are numbered in their order.** -/
theorem dayNumber_lt_iff {d e : Date} : d.dayNumber < e.dayNumber ↔ d < e := by
  refine ⟨fun h => ?_, dayNumber_lt_of_lt⟩
  by_cases hlt : d < e
  · exact hlt
  · by_cases hgt : e < d
    · have := dayNumber_lt_of_lt hgt
      omega
    · rw [eq_of_not_lt hlt hgt] at h
      omega

theorem le_iff_dayNumber_le {d e : Date} : d ≤ e ↔ d.dayNumber ≤ e.dayNumber := by
  rw [le_def, ← Int.not_lt, ← Int.not_lt, dayNumber_lt_iff, lt_def]

end Date

end TableAccess
