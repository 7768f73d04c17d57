/-
**Which texts are numerals.**

A numeral is a row of digits, with a plus sign before it or without one.  A reader that admits no
negative numbers takes exactly the numerals of the numbers up to its bound.  Of other texts it says
what is wrong, and there the digits at the front come first: if they alone make too large a number,
it does not matter what follows them.

Main definitions:

* `Numeral.Denotes` — a text is a numeral of a number;
* `Numeral.Fails` — what is wrong with a text, for a reader with an upper bound.

Main results:

* `Numeral.readUp_eq` — what becomes of digits and of what follows them;
* `Numeral.read_eq_ok_iff`, `Numeral.read_eq_error_iff` — **what is read, and what is wrong with the
  rest**.
-/
import Mathlib.Data.List.TakeWhile
import TableAccess.Proofs.Numerals

set_option relaxedAutoImplicit false
set_option autoImplicit false

namespace TableAccess

namespace Numeral

variable {b : Bounds} {high n : Nat} {m : Int} {c : Char} {cs : List Char} {s : String} {f : Fault}

/-! ### Numerals -/

/-- A text is a numeral of a number: digits, with a plus sign before them or without one. -/
def Denotes (s : String) (n : Nat) : Prop :=
  ∃ ds : List Char, ds ≠ [] ∧ (∀ c ∈ ds, c.isDigit = true) ∧
    (s.toList = ds ∨ s.toList = '+' :: ds) ∧ n = Nat.ofDigitChars 10 ds 0

/-- The characters after a plus sign, unless it stands alone. -/
def afterPlus : List Char → List Char
  | '+' :: c :: cs => c :: cs
  | cs => cs

/-- The number that the digits at the front of a text make. -/
def leading (s : String) : Nat :=
  Nat.ofDigitChars 10 ((afterPlus s.toList).takeWhile Char.isDigit) 0

/-- What is wrong with a text, for a reader up to a bound: there is nothing to read; or the digits
at the front exceed the bound; or they do not, and something else is there too. -/
inductive Fails (high : Nat) (s : String) : Fault → Prop
  | empty (hs : s = "") : Fails high s .empty
  | tooLarge (hlt : high < leading s) : Fails high s .tooLarge
  | digit (hle : leading s ≤ high) (hother : ∃ c ∈ afterPlus s.toList, ¬ c.isDigit = true) :
      Fails high s .digit

theorem afterPlus_of_ne (h : c ≠ '+') : afterPlus (c :: cs) = c :: cs := by
  unfold afterPlus
  split
  · next heq =>
      cases heq
      exact absurd rfl h
  · rfl

theorem afterPlus_eq_nil_iff : afterPlus cs = [] ↔ cs = [] := by
  unfold afterPlus
  split
  · simp
  · rfl

theorem denotes_iff : Denotes s n ↔ s ≠ "" ∧ (∀ c ∈ afterPlus s.toList, c.isDigit = true) ∧
    n = Nat.ofDigitChars 10 (afterPlus s.toList) 0 := by
  rw [Ne, ← String.toList_eq_nil_iff]
  constructor
  · rintro ⟨ds, hne, hds, hs | hs, rfl⟩
    · -- digits do not begin with a sign
      obtain ⟨c, cs, rfl⟩ := List.exists_cons_of_ne_nil hne
      have hc : c ≠ '+' := by
        rintro rfl
        exact absurd (hds '+' (List.mem_cons_self ..)) (by decide)
      rw [hs, afterPlus_of_ne hc]
      exact ⟨hne, hds, rfl⟩
    · obtain ⟨c, cs, rfl⟩ := List.exists_cons_of_ne_nil hne
      rw [hs]
      exact ⟨List.cons_ne_nil _ _, hds, rfl⟩
  · rintro ⟨hne, hds, rfl⟩
    refine ⟨afterPlus s.toList, mt afterPlus_eq_nil_iff.1 hne, hds, ?_, rfl⟩
    unfold afterPlus
    split
    · next hs => exact .inr hs
    · exact .inl rfl

theorem Denotes.unique {n' : Nat} (h : Denotes s n) (h' : Denotes s n') : n = n' :=
  (denotes_iff.1 h).2.2.trans (denotes_iff.1 h').2.2.symm

/-! ### Reading -/

/-- **Digits and what follows them.**  The digits at the front are too many, or they are all there
is, or what follows them is out of place. -/
theorem readUp_eq (hhigh : b.high = high) (hn : n ≤ high) :
    readUp b n cs =
      if high < Nat.ofDigitChars 10 (cs.takeWhile Char.isDigit) n then .error .tooLarge
      else if cs.all Char.isDigit then .ok (Nat.ofDigitChars 10 cs n : Nat)
      else .error .digit := by
  induction cs generalizing n with
  | nil => simp [readUp, Nat.not_lt.2 hn]
  | cons c cs ih =>
      by_cases hc : c.isDigit = true
      · have hvalue : ((n : Int) * 10 + ((c.toNat - '0'.toNat : Nat) : Int)) =
            ((10 * n + (c.toNat - '0'.toNat) : Nat) : Int) := by omega
        rw [readUp, digit?_of_isDigit hc, List.takeWhile_cons_of_pos hc, Nat.ofDigitChars_cons,
          Nat.ofDigitChars_cons]
        dsimp only
        rw [hvalue, hhigh]
        by_cases hle : 10 * n + (c.toNat - '0'.toNat) ≤ high
        · rw [if_pos (by omega), ih hle]
          simp [hc]
        · -- more digits do not make the number smaller
          have hgrows := le_ofDigitChars (10 * n + (c.toNat - '0'.toNat))
            (cs.takeWhile Char.isDigit)
          rw [if_neg (by omega), if_pos (by omega)]
      · have hnone : digit? c = none := by
          rw [Option.eq_none_iff_forall_ne_some]
          exact fun d hd => hc (digit?_eq_some_iff.1 hd).1
        rw [readUp, hnone, List.takeWhile_cons_of_neg hc, Nat.ofDigitChars_nil,
          if_neg (Nat.not_lt.2 hn),
          if_neg fun h => hc (List.all_eq_true.1 h c (List.mem_cons_self ..))]

/-- Without room for negative numbers, a sign can only be a plus sign. -/
theorem readChars_eq (hlow : b.low = 0) :
    readChars b cs = if cs = [] then .error .empty else readUp b 0 (afterPlus cs) := by
  unfold readChars
  split
  · rfl
  · rfl
  · rfl
  · next rest hrest =>
      obtain ⟨c, cs, rfl⟩ := List.exists_cons_of_ne_nil hrest
      rfl
  · rw [hlow]
    rfl
  · next hnil hplus hminus hsigned hnegative =>
      obtain ⟨c, cs, rfl⟩ := List.exists_cons_of_ne_nil hnil
      have hc : c ≠ '+' := by
        rintro rfl
        exact hsigned cs rfl
      rw [if_neg (List.cons_ne_nil _ _), afterPlus_of_ne hc]

/-- What becomes of a text, by what is in it. -/
theorem read_eq (hlow : b.low = 0) (hhigh : b.high = high) (s : String) :
    read b s =
      if s = "" then .error .empty
      else if high < leading s then .error .tooLarge
      else if (afterPlus s.toList).all Char.isDigit then
        .ok (Nat.ofDigitChars 10 (afterPlus s.toList) 0 : Nat)
      else .error .digit := by
  rw [read, readChars_eq hlow, if_congr String.toList_eq_nil_iff rfl rfl]
  exact congrArg _ (readUp_eq hhigh (Nat.zero_le high))

theorem Denotes.leading_eq (h : Denotes s n) : leading s = n := by
  obtain ⟨-, hds, rfl⟩ := denotes_iff.1 h
  rw [leading, List.takeWhile_eq_self_iff.2 hds]

/-- **What is read** are the numerals up to the bound. -/
theorem read_eq_ok_iff (hlow : b.low = 0) (hhigh : b.high = high) :
    read b s = .ok m ↔ ∃ n : Nat, Denotes s n ∧ n ≤ high ∧ m = n := by
  constructor
  · intro h
    rw [read_eq hlow hhigh] at h
    split at h
    · cases h
    · next hne =>
        split at h
        · cases h
        · next hle =>
            split at h
            · next hds =>
                have hn : Denotes s _ := denotes_iff.2 ⟨hne, List.all_eq_true.1 hds, rfl⟩
                refine ⟨_, hn, ?_, (Except.ok.inj h).symm⟩
                rw [← hn.leading_eq]
                exact Nat.not_lt.1 hle
            · cases h
  · rintro ⟨n, hn, hle, rfl⟩
    obtain ⟨hne, hds, hvalue⟩ := denotes_iff.1 hn
    rw [read_eq hlow hhigh, if_neg hne, if_neg (Nat.not_lt.2 (hn.leading_eq.symm ▸ hle)),
      if_pos (List.all_eq_true.2 hds), ← hvalue]

/-- **What is wrong** with a text that is not read. -/
theorem read_eq_error_iff (hlow : b.low = 0) (hhigh : b.high = high) :
    read b s = .error f ↔ Fails high s f := by
  rw [read_eq hlow hhigh]
  constructor
  · intro h
    split at h
    · next hs =>
        cases h
        exact .empty hs
    · split at h
      · next hlt =>
          cases h
          exact .tooLarge hlt
      · next hle =>
          split at h
          · cases h
          · next hother =>
              cases h
              exact .digit (Nat.not_lt.1 hle) (by simpa using hother)
  · intro h
    cases h with
    | empty hs => rw [if_pos hs]
    | tooLarge hlt =>
        have hne : s ≠ "" := by
          rintro rfl
          exact Nat.not_lt_zero _ hlt
        rw [if_neg hne, if_pos hlt]
    | digit hle hother =>
        obtain ⟨c, hmem, hc⟩ := hother
        have hne : s ≠ "" := by
          rintro rfl
          cases hmem
        rw [if_neg hne, if_neg (Nat.not_lt.2 hle),
          if_neg fun h => hc (List.all_eq_true.1 h c hmem)]

theorem Fails.not_denotes (h : Fails high s f) (hn : Denotes s n) : ¬ n ≤ high := by
  intro hle
  have hread := (read_eq_ok_iff (b := ⟨0, high⟩) rfl rfl).2 ⟨n, hn, hle, rfl⟩
  cases ((read_eq_error_iff rfl rfl).2 h).symm.trans hread

end Numeral

end TableAccess
