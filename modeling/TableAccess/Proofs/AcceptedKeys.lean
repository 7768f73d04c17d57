/-
**Tokens that are accepted.**

A supplied token is stored without the blanks around it, and only if something of a bounded length
is left.  The tokens that can be stored this way are exactly those that are in that form already.

Main definitions:

* `AccessKey.Accepted` — the keys that some supplied token gives.

Main results:

* `Text.trimChars_trimChars` — a text without blanks around it stays as it is;
* `AccessKey.accepted_iff` — an accepted token is not empty, has at most 36 characters, and has no
  blanks around it; and every such token is accepted.
-/
import TableAccess.AccessKey
import Mathlib.Data.List.DropRight

set_option relaxedAutoImplicit false
set_option autoImplicit false

namespace TableAccess

namespace Text

/-! ### Trimming twice -/

theorem trimEnd_trimEnd (cs : List Char) : trimEnd (trimEnd cs) = trimEnd cs :=
  List.rdropWhile_idempotent _ _

theorem trimStart_trimChars (cs : List Char) : trimStart (trimChars cs) = trimChars cs := by
  rw [trimStart, List.dropWhile_eq_self_iff]
  intro hlen
  have hpre : trimChars cs <+: trimStart cs := List.rdropWhile_prefix _ _
  have hlen' : 0 < (trimStart cs).length := Nat.lt_of_lt_of_le hlen hpre.length_le
  rw [hpre.getElem hlen]
  exact List.dropWhile_get_zero_not _ cs hlen'

/-- **A text without blanks around it stays as it is.** -/
theorem trimChars_trimChars (cs : List Char) : trimChars (trimChars cs) = trimChars cs := by
  rw [trimChars, trimStart_trimChars]
  exact trimEnd_trimEnd _

theorem trim_trim (s : String) : trim (trim s) = trim s := by
  simp only [trim, String.toList_ofList, trimChars_trimChars]

end Text

namespace AccessKey

/-! ### The check of a supplied token -/

/-- The key is what the check of some supplied token gives. -/
def Accepted (k : AccessKey) : Prop := ∃ s, ofText s = .ok k

theorem ofText_eq_ok {s : String} {k : AccessKey} (h : ofText s = .ok k) :
    k.token = Text.trim s ∧ Text.trimChars s.toList ≠ [] ∧
      (Text.trimChars s.toList).length ≤ maxLength := by
  unfold ofText ofText? at h
  simp only [] at h
  split at h
  · cases h
  · next hne =>
      split at h
      · cases h
      · next hlen =>
          cases h
          exact ⟨rfl, by simpa using hne, by omega⟩

/-- A supplied token is refused for being blank, or for being too long without the blanks around
it. -/
theorem ofText_eq_error_iff {s : String} {e : AppError} :
    ofText s = .error e ↔
      Text.trim s = "" ∧ e = Refusal.empty.error ∨
        maxLength < (Text.trim s).toList.length ∧ e = Refusal.tooLong.error := by
  have hblank : Text.trim s = "" ↔ Text.trimChars s.toList = [] := by
    rw [← Text.toList_trim, String.toList_eq_nil_iff]
  rw [hblank, Text.toList_trim]
  unfold ofText ofText?
  cases hcs : Text.trimChars s.toList with
  | nil => simp [Except.mapError, eq_comm]
  | cons c cs =>
      by_cases hlen : maxLength < cs.length + 1
      · simp [hlen, Except.mapError, eq_comm]
      · simp [hlen, Except.mapError]

/-- A token that is in the stored form already is taken as it is. -/
theorem ofText_token {k : AccessKey} (hne : k.token ≠ "")
    (hlen : k.token.toList.length ≤ maxLength) (htrim : Text.trim k.token = k.token) :
    ofText k.token = .ok k := by
  have hcs : Text.trimChars k.token.toList = k.token.toList := by
    rw [← Text.toList_trim, htrim]
  have hcs' : k.token.toList ≠ [] := fun h => hne (String.toList_inj.1 (by simpa using h))
  simp only [ofText, ofText?, hcs, List.isEmpty_iff, hcs', Nat.not_lt.2 hlen, if_false]
  exact congrArg Except.ok (AccessKey.ext String.ofList_toList)

/-- **The accepted tokens are those in the stored form**: not empty, of at most 36 characters, and
without blanks around them. -/
theorem accepted_iff {k : AccessKey} :
    k.Accepted ↔
      k.token ≠ "" ∧ k.token.toList.length ≤ maxLength ∧ Text.trim k.token = k.token := by
  constructor
  · rintro ⟨s, hs⟩
    obtain ⟨htoken, hne, hlen⟩ := ofText_eq_ok hs
    refine ⟨fun h => hne ?_, ?_, ?_⟩
    · rw [← Text.toList_trim, ← htoken, h]
      rfl
    · rwa [htoken, Text.toList_trim]
    · rw [htoken, Text.trim_trim]
  · rintro ⟨hne, hlen, htrim⟩
    exact ⟨k.token, ofText_token hne hlen htrim⟩

end AccessKey

end TableAccess
