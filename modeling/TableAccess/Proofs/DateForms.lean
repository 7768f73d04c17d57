/-
**The forms of a date.**

A date is written in two ways, plainly and after a pattern, and read in a third.  The two ways of
writing agree on every day of the calendar, the years before 0 and beyond 9999 with it: both show
four digits of the year at least, and a sign just where four digits could not be the whole year.
What is written has no blanks, so those that somebody puts around it do not become part of it.

Main definitions:

* `Numeral.Shows` — characters show a number;
* `DateText.Spells` — a text spells a date;
* `Text.Surrounds` — a text with blanks around it.

Main results:

* `Date.format_isoPattern` — **the two ways of writing a date agree**;
* `DateText.spells_write` — what is written;
* `Text.trim_of_surrounds` — blanks around a text do not matter;
* `Date.readForm_trim_of_surrounds` — **a date is read back** with blanks around it.
-/
import TableAccess.Proofs.DrawnKeys
import TableAccess.Proofs.WrittenDates

set_option relaxedAutoImplicit false
set_option autoImplicit false

namespace TableAccess

/-! ### Blanks around a text -/

namespace Text

variable {before cs after : List Char} {s t : String}

/-- A text with blanks around it, before it or after it or both. -/
def Surrounds (s t : String) : Prop :=
  ∃ before after : List Char, (∀ c ∈ before ++ after, isBlank c = true) ∧
    t.toList = before ++ (s.toList ++ after)

theorem trimEnd_append (hafter : ∀ c ∈ after, isBlank c = true) :
    trimEnd (cs ++ after) = trimEnd cs := by
  rw [trimEnd, List.reverse_append,
    List.dropWhile_append_of_pos fun c hc => hafter c (List.mem_reverse.1 hc), trimEnd]

theorem trimChars_append (hbefore : ∀ c ∈ before, isBlank c = true)
    (hafter : ∀ c ∈ after, isBlank c = true) :
    trimChars (before ++ (cs ++ after)) = trimChars cs := by
  rw [trimChars, trimStart, List.dropWhile_append_of_pos hbefore, List.dropWhile_append]
  split
  · next hempty =>
      -- there are only blanks, and nothing is left of them on either side
      rw [List.isEmpty_iff] at hempty
      rw [trimChars, trimStart, hempty, List.dropWhile_eq_nil_iff.2 hafter]
  · exact trimEnd_append hafter

/-- **Blanks around a text do not matter.** -/
theorem trim_of_surrounds (h : Surrounds s t) : trim t = trim s := by
  obtain ⟨before, after, hblank, ht⟩ := h
  rw [trim, ht, trim, trimChars_append (fun c hc => hblank c (List.mem_append_left _ hc))
    fun c hc => hblank c (List.mem_append_right _ hc)]

theorem trim_eq_empty_iff : trim s = "" ↔ ∀ c ∈ s.toList, isBlank c = true := by
  rw [← String.toList_eq_nil_iff, toList_trim]
  constructor
  · intro h
    rw [← List.dropWhile_eq_nil_iff]
    cases hstart : trimStart s.toList with
    | nil => exact hstart
    | cons c cs =>
        -- the first character that is left is no blank, so the end cannot be taken away up to it
        have hfirst : isBlank c = false := by
          have hhead := List.head?_dropWhile_not isBlank s.toList
          rw [← trimStart, hstart] at hhead
          simpa using hhead
        rw [trimChars, hstart, trimEnd, List.reverse_eq_nil_iff, List.dropWhile_eq_nil_iff] at h
        have hblank := h c (by simp)
        rw [hfirst] at hblank
        cases hblank
  · intro h
    rw [trimChars, trimStart, List.dropWhile_eq_nil_iff.2 h, trimEnd_nil]

end Text

/-! ### Numbers and dates -/

namespace Numeral

/-- Characters show a number: its decimal digits, with zeros before them up to a width. -/
structure Shows (width n : Nat) (cs : List Char) : Prop where
  isDigit : ∀ c ∈ cs, c.isDigit = true
  value : Nat.ofDigitChars 10 cs 0 = n
  length_eq : cs.length = max width (Nat.toDigits 10 n).length

theorem shows_padded (width n : Nat) : Shows width n (padded width n).toList where
  isDigit := fun _ hc => isDigit_of_mem_padded hc
  value := ofDigitChars_padded width n
  length_eq := by
    rw [toList_padded, List.length_append, List.length_replicate, digits]
    omega

end Numeral

namespace DateText

open Numeral (Shows)

/-- A text spells a date: the year with four digits at least, after a minus sign if it comes before
0 and after a plus sign if it comes after 9999; then month and day with two digits each. -/
def Spells (d : Date) (t : String) : Prop :=
  ∃ year month day : List Char, Shows 4 d.year.natAbs year ∧ Shows 2 d.month month ∧
    Shows 2 d.day day ∧ t.toList =
      (if d.year < 0 then ['-'] else if 9999 < d.year then ['+'] else []) ++
        (year ++ '-' :: (month ++ '-' :: day))

/-- What is written spells the date. -/
theorem spells_write (d : Date) : Spells d d.write := by
  refine ⟨_, _, _, Numeral.shows_padded 4 _, Numeral.shows_padded 2 _, Numeral.shows_padded 2 _, ?_⟩
  rw [Date.write, writeYear]
  by_cases hneg : d.year < 0
  · rw [if_neg (by omega), if_pos hneg, if_pos hneg]
    simp
  · rw [if_neg hneg, if_neg hneg]
    by_cases hlarge : 9999 < d.year
    · rw [if_neg (by omega), if_pos hlarge]
      simp
    · have habs : d.year.natAbs = d.year.toNat := by omega
      rw [if_pos (by omega), if_neg hlarge, habs]
      simp

theorem showNumber_unsigned (width n : Nat) :
    showNumber width false n = Numeral.padded width n := by
  rw [showNumber, if_neg Bool.false_ne_true, String.empty_append, Int.natAbs_natCast]

/-- A year after a pattern is written as it is without one. -/
theorem showNumber_year (y : Int) : showNumber 4 (y < 0 || 9999 < y) y = writeYear y := by
  unfold showNumber writeYear
  by_cases hneg : y < 0
  · have hsigned : (decide (y < 0) || decide (9999 < y)) = true := by simp [hneg]
    rw [if_pos hsigned, if_pos hneg, if_neg (by omega), if_pos hneg]
  · by_cases hlarge : 9999 < y
    · have hsigned : (decide (y < 0) || decide (9999 < y)) = true := by simp [hlarge]
      rw [if_pos hsigned, if_neg hneg, if_neg (by omega), if_neg hneg]
    · have habs : y.natAbs = y.toNat := by omega
      have hplain : ¬ (decide (y < 0) || decide (9999 < y)) = true := by simp [hneg, hlarge]
      rw [if_neg hplain, if_pos (by omega), String.empty_append, habs]

end DateText

namespace Date

/-- **The two ways of writing a date agree.** -/
theorem format_isoPattern (d : Date) : d.format DateText.isoPattern = d.write := by
  have hhyphen : '-'.toString = "-" := rfl
  simp only [format, DateText.isoPattern, List.map_cons, List.map_nil, DateText.Item.write,
    DateText.showNumber_year, DateText.showNumber_unsigned, hhyphen, write]
  simp [String.join]

theorem trim_write (d : Date) : Text.trim d.write = d.write := by
  obtain ⟨year, month, day, hyear, hmonth, hday, htext⟩ := DateText.spells_write d
  have hchars : ∀ c ∈ d.write.toList, Text.isBlank c = false := by
    intro c hc
    rw [htext] at hc
    simp only [List.mem_append, List.mem_cons] at hc
    rcases hc with hsign | hc | rfl | hc | rfl | hc
    · have hcases : c = '-' ∨ c = '+' := by
        split at hsign
        · exact .inl (List.mem_singleton.1 hsign)
        · split at hsign
          · exact .inr (List.mem_singleton.1 hsign)
          · cases hsign
      rcases hcases with rfl | rfl <;> rfl
    · exact DateText.isBlank_of_isDigit (hyear.isDigit c hc)
    · rfl
    · exact DateText.isBlank_of_isDigit (hmonth.isDigit c hc)
    · rfl
    · exact DateText.isBlank_of_isDigit (hday.isDigit c hc)
  rw [Text.trim, Text.trimChars_of_not_blank hchars, String.ofList_toList]

/-- **A date is read back** with blanks around it. -/
theorem readForm_trim_of_surrounds {d : Date} {t : String} (h : Text.Surrounds d.write t) :
    readForm (Text.trim t) = .ok d := by
  rw [Text.trim_of_surrounds h, d.trim_write, d.readForm_write]

end Date

end TableAccess
