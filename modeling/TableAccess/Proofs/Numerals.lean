/-
**Numerals that were written are read back.**

Every reader of numbers in the library goes from the left, digit by digit, and makes `n * 10 + d` of
what it has and the next digit.  So each of them finds the number that was written, as long as it
stops where the numeral does: because its room is used up, or because what follows is no digit.

Main definitions:

* `Numeral.NoDigitNext` — what follows does not begin with a digit.

Main results:

* `Numeral.digit?_eq_some_iff` — the digits, and their values;
* `Numeral.ofDigitChars_padded`, `Numeral.length_padded` — the value and the length of what is
  written;
* `Numeral.exists_digits_eq_cons` — a number other than zero does not begin with a zero;
* `DateText.number_digits`, `DateText.number_padded` — the reader of the parts of dates.
-/
import TableAccess.Calendar.InstantText

set_option relaxedAutoImplicit false
set_option autoImplicit false

namespace TableAccess

namespace Numeral

/-! ### Digits -/

/-- **The digits, and their values.** -/
theorem digit?_eq_some_iff {c : Char} {d : Nat} :
    digit? c = some d ↔ c.isDigit = true ∧ d = c.toNat - '0'.toNat := by
  have hdigit : ('0' ≤ c ∧ c ≤ '9') ↔ c.isDigit = true := by
    simp [Char.isDigit, Char.le_def]
  unfold digit?
  by_cases h : c.isDigit = true
  · rw [if_pos (hdigit.2 h)]
    simp [h, eq_comm]
  · rw [if_neg (mt hdigit.1 h)]
    simp [h]

theorem digit?_of_isDigit {c : Char} (h : c.isDigit = true) :
    digit? c = some (c.toNat - '0'.toNat) :=
  digit?_eq_some_iff.2 ⟨h, rfl⟩

/-- What follows does not begin with a digit. -/
def NoDigitNext (cs : List Char) : Prop := ∀ c rest, cs = c :: rest → digit? c = none

@[simp] theorem noDigitNext_nil : NoDigitNext [] := by
  intro c rest h
  cases h

theorem noDigitNext_cons {c : Char} {cs : List Char} (h : digit? c = none) :
    NoDigitNext (c :: cs) := by
  intro d rest hd
  cases hd
  exact h

/-- A value only grows with more digits. -/
theorem le_ofDigitChars (n : Nat) (cs : List Char) : n ≤ Nat.ofDigitChars 10 cs n := by
  induction cs generalizing n with
  | nil => simp
  | cons c cs ih =>
      rw [Nat.ofDigitChars_cons]
      have hrest := ih (10 * n + (c.toNat - '0'.toNat))
      omega

/-! ### Written numbers -/

theorem isDigit_of_mem_digits {n : Nat} {c : Char} (hc : c ∈ digits n) : c.isDigit = true :=
  Nat.isDigit_of_mem_toDigits (by decide) (by decide) hc

/-- A number other than zero does not begin with a zero. -/
theorem exists_digits_eq_cons {n : Nat} (hn : n ≠ 0) :
    ∃ c cs, digits n = c :: cs ∧ ∃ d, digit? c = some (d + 1) := by
  induction n using Nat.strongRecOn with
  | ind n ih =>
      by_cases hlt : n < 10
      · -- one digit, which is the number itself
        have hfirst : ∀ m < 10, m ≠ 0 → digit? m.digitChar = some (m - 1 + 1) := by decide
        refine ⟨n.digitChar, [], ?_, n - 1, hfirst n hlt hn⟩
        rw [digits, Nat.toDigits_of_lt_base hlt]
      · -- the digits of `n / 10` come first
        obtain ⟨c, cs, hcs, hd⟩ := ih (n / 10) (by omega) (by omega)
        refine ⟨c, cs ++ [(n % 10).digitChar], ?_, hd⟩
        rw [digits] at hcs ⊢
        rw [Nat.toDigits_of_base_le (by decide) (by omega), hcs]
        rfl

theorem toList_padded (width n : Nat) :
    (padded width n).toList = List.replicate (width - (digits n).length) '0' ++ digits n := by
  simp [padded]

theorem isDigit_of_mem_padded {width n : Nat} {c : Char} (hc : c ∈ (padded width n).toList) :
    c.isDigit = true := by
  rw [toList_padded, List.mem_append] at hc
  rcases hc with hc | hc
  · rw [List.eq_of_mem_replicate hc]
    rfl
  · exact isDigit_of_mem_digits hc

@[simp] theorem ofDigitChars_padded (width n : Nat) :
    Nat.ofDigitChars 10 (padded width n).toList 0 = n := by
  rw [toList_padded, Nat.ofDigitChars_append, Nat.ofDigitChars_replicate_zero, Nat.mul_zero, digits,
    Nat.ofDigitChars_ten_toDigits]

theorem length_padded {width n : Nat} (hwidth : 0 < width) (hn : n < Nat.pow 10 width) :
    (padded width n).toList.length = width := by
  have hle := (Nat.length_toDigits_le_iff (by decide) hwidth).2 hn
  rw [toList_padded, List.length_append, List.length_replicate, digits]
  omega

theorem padded_ne_nil (width n : Nat) : (padded width n).toList ≠ [] := by
  rw [toList_padded, digits]
  simp

end Numeral

/-! ### The parts of dates -/

namespace DateText

open Numeral (NoDigitNext)

/-- Digits are taken until the room is used up or no digit follows. -/
theorem moreDigits_digits {cs rest : List Char} {room n : Nat} (hcs : ∀ c ∈ cs, c.isDigit = true)
    (hroom : cs.length ≤ room) (hend : cs.length = room ∨ NoDigitNext rest)
    (hle : Nat.ofDigitChars 10 cs n ≤ largest) :
    moreDigits room n (cs ++ rest) = .ok (Nat.ofDigitChars 10 cs n, rest) := by
  induction cs generalizing room n with
  | nil =>
      cases room with
      | zero => rfl
      | succ room =>
          have hnext : NoDigitNext rest := by simpa using hend
          cases rest with
          | nil => rfl
          | cons c rest => simp [moreDigits, hnext c rest rfl]
  | cons c cs ih =>
      cases room with
      | zero => simp at hroom
      | succ room =>
          rw [Nat.ofDigitChars_cons] at hle ⊢
          have hvalue : n * 10 + (c.toNat - '0'.toNat) = 10 * n + (c.toNat - '0'.toNat) := by omega
          have hstep : 10 * n + (c.toNat - '0'.toNat) ≤ largest :=
            Nat.le_trans (Numeral.le_ofDigitChars _ cs) hle
          have hroom' : cs.length ≤ room := by simpa using hroom
          have hend' : cs.length = room ∨ NoDigitNext rest := by simpa using hend
          have hrest := ih (fun d hd => hcs d (List.mem_cons_of_mem _ hd)) hroom' hend' hle
          rw [List.cons_append, moreDigits,
            Numeral.digit?_of_isDigit (hcs c (List.mem_cons_self ..))]
          dsimp only
          rw [hvalue, if_pos hstep, hrest]

/-- **A number is read back** where its digits end or the room does. -/
theorem number_digits {cs : List Char} {room : Nat} (rest : List Char)
    (hcs : ∀ c ∈ cs, c.isDigit = true) (hne : cs ≠ []) (hroom : cs.length ≤ room)
    (hend : cs.length = room ∨ NoDigitNext rest) (hle : Nat.ofDigitChars 10 cs 0 ≤ largest) :
    number room (cs ++ rest) = .ok (Nat.ofDigitChars 10 cs 0, rest) := by
  cases cs with
  | nil => exact absurd rfl hne
  | cons c cs =>
      have hfirst : (Numeral.digit? c).isSome = true := by
        rw [Numeral.digit?_of_isDigit (hcs c (List.mem_cons_self ..))]
        rfl
      rw [List.cons_append, number, if_pos hfirst, ← List.cons_append]
      exact moreDigits_digits hcs hroom hend hle

/-- **A number of a fixed width is read back**, whatever follows. -/
theorem number_padded {width n : Nat} (rest : List Char) (hwidth : 0 < width)
    (hn : n < Nat.pow 10 width) (hle : n ≤ largest) :
    number width ((Numeral.padded width n).toList ++ rest) = .ok (n, rest) := by
  have hlength := Numeral.length_padded hwidth hn
  have hread := number_digits rest (fun c => Numeral.isDigit_of_mem_padded)
    (Numeral.padded_ne_nil width n) (Nat.le_of_eq hlength) (.inl hlength)
    (by rw [Numeral.ofDigitChars_padded]; exact hle)
  rwa [Numeral.ofDigitChars_padded] at hread

end DateText

end TableAccess
