/-
**What a masked key gives away.**

The events about keys show a key in its masked form: four stars, and the last four characters of the
token.  A key that was drawn is much longer than that, so nobody learns it from an event.  A token
that was supplied may be short, and the masked form of a token of at most four characters is that
token behind four stars; a token of up to eight characters is there as well if it begins with stars
itself.

Main definitions:

* `AccessKey.SpelledOut` — the whole token can be read in the masked form.

Main results:

* `AccessKey.spelledOut_iff` — which tokens can be read;
* `AccessKey.not_spelledOut_ofRandom` — a drawn key cannot;
* `World.masked_key_is_noted` — where the masked form is written, and when it gives the token away;
* `World.short_key_is_spelled_out` — an issue that writes a token into the audit log.
-/
import TableAccess.Proofs.EffectiveCapabilities
import TableAccess.Proofs.KeyEvents

set_option relaxedAutoImplicit false
set_option autoImplicit false

namespace TableAccess

/-! ### Reading a token in its masked form -/

namespace AccessKey

variable {k : AccessKey}

/-- The whole token can be read in the masked form, as characters that stand next to each other. -/
def SpelledOut (k : AccessKey) : Prop := k.token.toList <:+: k.masked.toList

theorem toList_masked (k : AccessKey) : k.masked.toList =
    List.replicate 4 '*' ++ k.token.toList.drop (k.token.toList.length - 4) := by
  rw [masked, String.toList_append, lastChars, String.toList_ofList, String.toList_ofList]
  rfl

/-- A character of a token that can be read is a star, unless it is one of the last four: there is
no room for the token further to the right. -/
theorem SpelledOut.eq_star (h : k.SpelledOut) {i : Nat} (hi : i < k.token.toList.length - 4) :
    k.token.toList[i] = '*' := by
  obtain ⟨before, after, hmasked⟩ := h
  rw [toList_masked] at hmasked
  have hlength := congrArg List.length hmasked
  simp only [List.length_append, List.length_replicate, List.length_drop] at hlength
  have hstar : (before ++ k.token.toList ++ after)[before.length + i]? = some '*' := by
    rw [hmasked, List.getElem?_append_left (by simp; omega), List.getElem?_replicate]
    simp
    omega
  rw [List.append_assoc, List.getElem?_append_right (by omega), Nat.add_sub_cancel_left,
    List.getElem?_append_left (by omega)] at hstar
  exact (List.getElem?_eq_some_iff.1 hstar).2

/-- **A token can be read in its masked form** exactly if it has at most eight characters, and only
stars before the last four. -/
theorem spelledOut_iff : k.SpelledOut ↔ k.token.toList.length ≤ 8 ∧
    ∀ c ∈ k.token.toList.take (k.token.toList.length - 4), c = '*' := by
  constructor
  · intro h
    refine ⟨?_, fun c hc => ?_⟩
    · have hlength := h.length_le
      rw [toList_masked, List.length_append, List.length_replicate, List.length_drop] at hlength
      omega
    · obtain ⟨i, hi, rfl⟩ := List.mem_take_iff_getElem.1 hc
      exact h.eq_star (Nat.lt_of_lt_of_le hi (Nat.min_le_left ..))
  · rintro ⟨hlength, hstars⟩
    -- the stars of the token are the last ones of the mask
    have htake : k.token.toList.take (k.token.toList.length - 4) =
        List.replicate (k.token.toList.length - 4) '*' := by
      rw [List.eq_replicate_iff]
      exact ⟨by rw [List.length_take]; omega, hstars⟩
    have hroom : 4 - (k.token.toList.length - 4) + (k.token.toList.length - 4) = 4 := by omega
    refine List.IsSuffix.isInfix ⟨List.replicate (4 - (k.token.toList.length - 4)) '*', ?_⟩
    calc List.replicate (4 - (k.token.toList.length - 4)) '*' ++ k.token.toList
      _ = List.replicate (4 - (k.token.toList.length - 4)) '*' ++
            (k.token.toList.take (k.token.toList.length - 4) ++
              k.token.toList.drop (k.token.toList.length - 4)) := by rw [List.take_append_drop]
      _ = List.replicate 4 '*' ++ k.token.toList.drop (k.token.toList.length - 4) := by
          rw [htake, ← List.append_assoc, List.replicate_append_replicate, hroom]
      _ = k.masked.toList := (toList_masked k).symm

instance : DecidablePred SpelledOut := fun k => decidable_of_iff
  (k.token.toList.length ≤ 8 ∧
    (k.token.toList.take (k.token.toList.length - 4)).all (fun c => c = '*') = true) <| by
  rw [spelledOut_iff]
  simp only [List.all_eq_true, decide_eq_true_eq]

theorem not_spelledOut_ofRandom (bits : Nat) : ¬ (ofRandom bits).SpelledOut := by
  intro h
  have hlength := (spelledOut_iff.1 h).1
  rw [length_ofRandom] at hlength
  exact absurd hlength (by decide)

end AccessKey

/-! ### Masked keys in the audit log -/

namespace World

open KeyAdministration

/-- **What the events about keys give away**, in a store that answers every request.  A change to a
key that succeeds leaves one event, which shows the key in its masked form.  The whole token can be
read there exactly if it has at most eight characters and only stars before the last four, hence
whenever it has at most four characters, and never if it was drawn. -/
theorem masked_key_is_noted {w : World} (hw : w.script = .empty) (actor : Principal)
    (user : UserId) :
    (∀ k : AccessKey, (k.SpelledOut ↔ k.token.toList.length ≤ 8 ∧
        ∀ c ∈ k.token.toList.take (k.token.toList.length - 4), c = '*') ∧
      (k.token.toList.length ≤ 4 → k.SpelledOut)) ∧
    (∀ bits, ¬ (AccessKey.ofRandom bits).SpelledOut) ∧
    (∀ token q, (w.run (issue actor user token)).1 = .ok q →
      w.chosen token = .ok q.accessKey ∧ w.Notes (w.run (issue actor user token)).2
        ("create access key " ++ q.accessKey.masked ++ " for " ++ w.store.nameOf user)) ∧
    (∀ token q, (w.run (rotate actor user token)).1 = .ok q →
      w.chosen token = .ok q.accessKey ∧ w.Notes (w.run (rotate actor user token)).2
        ("renew access key " ++ q.accessKey.masked ++ " of " ++ w.store.nameOf user)) ∧
    ((w.run (revoke actor user)).1 = .ok () →
      ∃ r, w.store.accessKeys.find? user = some r ∧ w.Notes (w.run (revoke actor user)).2
        ("revoke access key " ++ r.accessKey.masked ++ " of " ++ w.store.nameOf user)) := by
  refine ⟨fun k => ⟨AccessKey.spelledOut_iff, fun hshort => AccessKey.spelledOut_iff.2 ?_⟩,
    AccessKey.not_spelledOut_ofRandom, fun _ _ => notes_issue hw, fun _ _ => notes_rotate hw,
    notes_revoke hw⟩
  refine ⟨Nat.le_trans hshort (by decide), fun c hc => ?_⟩
  rw [Nat.sub_eq_zero_of_le hshort] at hc
  cases hc

/-- An administrator, a user without a key, and one whose key is longer than what is shown. -/
def reception : World where
  store := (((Store.empty.putPrincipal .root).putPrincipal .ann).putPrincipal
    ⟨⟨3⟩, "bob", "", "", none, true, .empty⟩).putKey .year1970 ⟨3⟩ ⟨"beta-beta"⟩
  script := .empty
  clock := .year1970
  wall := .year1970
  drawn := 0
  random := id

/-- One user is given a key; the key of the other is replaced, or taken away.  Only the first key
can be read, since it begins with a star. -/
theorem masked_key_is_noted_reception :
    reception.script = .empty ∧
    ((reception.run (issue .root ⟨2⟩ (some " *abcd "))).1 =
        .ok ⟨⟨2⟩, ⟨"*abcd"⟩, .year1970, .year1970, some ⟨1⟩⟩ ∧
      reception.Notes (reception.run (issue .root ⟨2⟩ (some " *abcd "))).2
        "create access key ****abcd for ann" ∧ (⟨"*abcd"⟩ : AccessKey).SpelledOut) ∧
    ((reception.run (rotate .root ⟨3⟩ (some "gamma"))).1 =
        .ok ⟨⟨3⟩, ⟨"gamma"⟩, .year1970, .year1970, some ⟨1⟩⟩ ∧
      reception.Notes (reception.run (rotate .root ⟨3⟩ (some "gamma"))).2
        "renew access key ****amma of bob" ∧ ¬ (⟨"gamma"⟩ : AccessKey).SpelledOut) ∧
    ((reception.run (revoke .root ⟨3⟩)).1 = .ok () ∧
      reception.Notes (reception.run (revoke .root ⟨3⟩)).2
        "revoke access key ****beta of bob") := by
  have hissue : (reception.run (issue .root ⟨2⟩ (some " *abcd "))).1 =
      .ok ⟨⟨2⟩, ⟨"*abcd"⟩, .year1970, .year1970, some ⟨1⟩⟩ := by rfl
  have hrotate : (reception.run (rotate .root ⟨3⟩ (some "gamma"))).1 =
      .ok ⟨⟨3⟩, ⟨"gamma"⟩, .year1970, .year1970, some ⟨1⟩⟩ := by rfl
  have hrevoke : (reception.run (revoke .root ⟨3⟩)).1 = .ok () := by rfl
  have hcreate : "create access key " ++ (⟨"*abcd"⟩ : AccessKey).masked ++ " for "
      ++ reception.store.nameOf ⟨2⟩ = "create access key ****abcd for ann" := by decide +kernel
  have hrenew : "renew access key " ++ (⟨"gamma"⟩ : AccessKey).masked ++ " of "
      ++ reception.store.nameOf ⟨3⟩ = "renew access key ****amma of bob" := by decide +kernel
  have hremove : "revoke access key " ++ (⟨"beta-beta"⟩ : AccessKey).masked ++ " of "
      ++ reception.store.nameOf ⟨3⟩ = "revoke access key ****beta of bob" := by decide +kernel
  obtain ⟨hread, -, hissued, -, -⟩ := masked_key_is_noted (w := reception) rfl .root ⟨2⟩
  obtain ⟨-, -, -, hrotated, hrevoked⟩ := masked_key_is_noted (w := reception) rfl .root ⟨3⟩
  obtain ⟨-, hcreated⟩ := hissued _ _ hissue
  obtain ⟨-, hrenewed⟩ := hrotated _ _ hrotate
  obtain ⟨r, hr, hremoved⟩ := hrevoked hrevoke
  have hkey : r.accessKey = ⟨"beta-beta"⟩ := by
    cases hr
    rfl
  rw [hkey, hremove] at hremoved
  rw [hcreate] at hcreated
  rw [hrenew] at hrenewed
  have hstar : (⟨"*abcd"⟩ : AccessKey).SpelledOut :=
    (hread _).1.2 ⟨by decide +kernel, fun c hc => List.mem_singleton.1 hc⟩
  have hlong : ¬ (⟨"gamma"⟩ : AccessKey).SpelledOut := by decide +kernel
  exact ⟨rfl, ⟨hissue, hcreated, hstar⟩, ⟨hrotate, hrenewed, hlong⟩, hrevoke, hremoved⟩

/-- **A short token is written into the audit log.**  The administrator gives a user the token
`abc`, and the event shows it behind four stars. -/
theorem short_key_is_spelled_out :
    AccessKey.ofText "abc" = .ok ⟨"abc"⟩ ∧
    (reception.run (issue .root ⟨2⟩ (some "abc"))).1 =
      .ok ⟨⟨2⟩, ⟨"abc"⟩, .year1970, .year1970, some ⟨1⟩⟩ ∧
    reception.Notes (reception.run (issue .root ⟨2⟩ (some "abc"))).2
      "create access key ****abc for ann" ∧
    (⟨"abc"⟩ : AccessKey).masked = "****abc" ∧ (⟨"abc"⟩ : AccessKey).SpelledOut := by
  have hissue : (reception.run (issue .root ⟨2⟩ (some "abc"))).1 =
      .ok ⟨⟨2⟩, ⟨"abc"⟩, .year1970, .year1970, some ⟨1⟩⟩ := by rfl
  have hcreate : "create access key " ++ (⟨"abc"⟩ : AccessKey).masked ++ " for "
      ++ reception.store.nameOf ⟨2⟩ = "create access key ****abc for ann" := by decide +kernel
  obtain ⟨-, hcreated⟩ := notes_issue (w := reception) rfl hissue
  rw [hcreate] at hcreated
  exact ⟨by decide, hissue, hcreated, by decide +kernel, by decide +kernel⟩

end World

end TableAccess
