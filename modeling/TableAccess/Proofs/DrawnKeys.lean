/-
**Keys that are drawn.**

A key that is made from random bits is in the stored form already, whatever the bits are: it has
just as many characters as the longest token that is accepted, and none of them is a blank.  So it
makes no difference later on whether a key was drawn or supplied.

Main results:

* `Text.trimChars_of_not_blank` — a text without blanks stays as it is;
* `AccessKey.length_randomDigits` — a drawn key has 32 digits;
* `AccessKey.accepted_ofRandom` — **a drawn key is accepted**.
-/
import TableAccess.Proofs.AcceptedKeys
import TableAccess.Proofs.Numerals

set_option relaxedAutoImplicit false
set_option autoImplicit false

namespace TableAccess

theorem Text.trimChars_of_not_blank {cs : List Char} (h : ∀ c ∈ cs, isBlank c = false) :
    trimChars cs = cs := by
  have hstart : ∀ ds : List Char, (∀ c ∈ ds, isBlank c = false) → ds.dropWhile isBlank = ds := by
    intro ds hds
    rw [List.dropWhile_eq_self_iff]
    intro hlen
    rw [hds _ (List.getElem_mem hlen)]
    exact Bool.false_ne_true
  rw [trimChars, trimStart, hstart cs h, trimEnd, hstart cs.reverse fun c hc =>
    h c (List.mem_reverse.1 hc), List.reverse_reverse]

namespace Numeral

/-! ### Hexadecimal digits -/

theorem not_blank_of_mem_toDigits {n : Nat} {c : Char} (hc : c ∈ Nat.toDigits 16 n) :
    Text.isBlank c = false := by
  have hdigit : ∀ d < 16, Text.isBlank (Nat.digitChar d) = false := by decide
  induction n using Nat.strongRecOn with
  | ind n ih =>
      rw [Nat.toDigits_eq_if (by decide)] at hc
      split at hc
      · next hlt =>
          rw [List.mem_singleton.1 hc]
          exact hdigit n hlt
      · next hge =>
          rcases List.mem_append.1 hc with hc | hc
          · exact ih (n / 16) (by omega) hc
          · rw [List.mem_singleton.1 hc]
            exact hdigit (n % 16) (by omega)

theorem not_blank_of_mem_hexPadded {width n : Nat} {c : Char}
    (hc : c ∈ (hexPadded width n).toList) : Text.isBlank c = false := by
  rw [hexPadded, String.toList_ofList, List.mem_append] at hc
  rcases hc with hc | hc
  · rw [List.eq_of_mem_replicate hc]
    decide
  · exact not_blank_of_mem_toDigits hc

theorem length_hexPadded {width n : Nat} (hwidth : 0 < width) (hn : n < Nat.pow 16 width) :
    (hexPadded width n).toList.length = width := by
  have hle := (Nat.length_toDigits_le_iff (by decide) hwidth).2 hn
  rw [hexPadded, String.toList_ofList, List.length_append, List.length_replicate]
  omega

end Numeral

namespace AccessKey

/-! ### Keys from random bits -/

theorem length_randomDigits (bits : Nat) : (randomDigits bits).length = 32 := by
  have hlow : bits % Nat.pow 2 62 + Nat.pow 2 63 < Nat.pow 16 16 :=
    Nat.lt_of_lt_of_le (Nat.add_lt_add_right (Nat.mod_lt _ (by decide)) _) (by decide)
  have hmiddle : bits / Nat.pow 2 62 % Nat.pow 2 12 + 4 * Nat.pow 2 12 < Nat.pow 16 4 :=
    Nat.lt_of_lt_of_le (Nat.add_lt_add_right (Nat.mod_lt _ (by decide)) _) (by decide)
  have hhigh : bits / Nat.pow 2 74 % Nat.pow 2 48 < Nat.pow 16 12 := Nat.mod_lt _ (by decide)
  rw [randomDigits, List.length_append, List.length_append,
    Numeral.length_hexPadded (by decide) hlow, Numeral.length_hexPadded (by decide) hmiddle,
    Numeral.length_hexPadded (by decide) hhigh]

theorem not_blank_of_mem_randomDigits {bits : Nat} {c : Char} (hc : c ∈ randomDigits bits) :
    Text.isBlank c = false := by
  simp only [randomDigits, List.mem_append] at hc
  rcases hc with (hc | hc) | hc <;> exact Numeral.not_blank_of_mem_hexPadded hc

/-- The characters of a drawn key are its digits, and hyphens between them. -/
theorem mem_ofRandom {bits : Nat} {c : Char} (hc : c ∈ (ofRandom bits).token.toList) :
    c = '-' ∨ c ∈ randomDigits bits := by
  simp only [ofRandom, String.toList_ofList, List.mem_append, List.mem_cons] at hc
  grind [List.mem_of_mem_take, List.mem_of_mem_drop]

/-- A drawn key is as long as a token may be. -/
theorem length_ofRandom (bits : Nat) : (ofRandom bits).token.toList.length = maxLength := by
  simp [ofRandom, length_randomDigits, maxLength]

/-- **A drawn key is accepted.** -/
theorem accepted_ofRandom (bits : Nat) : (ofRandom bits).Accepted := by
  have hlength := length_ofRandom bits
  have hchars : ∀ c ∈ (ofRandom bits).token.toList, Text.isBlank c = false := by
    intro c hc
    rcases mem_ofRandom hc with rfl | hdigit
    · decide
    · exact not_blank_of_mem_randomDigits hdigit
  refine accepted_iff.2 ⟨fun h => ?_, Nat.le_of_eq hlength, ?_⟩
  · rw [h] at hlength
    cases hlength
  · rw [Text.trim, Text.trimChars_of_not_blank hchars, String.ofList_toList]

end AccessKey

end TableAccess
