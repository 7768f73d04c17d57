/-
**Drafts of grants.**

A draft is checked part by part, and the first part that fails decides.  The last day is the one
that was asked for, or the one that comes a number of days after the first day, counted in the
calendar.

Main definitions:

* `Grant.Draft.EndsOn` — the last day that is asked for.

Main results:

* `Grant.Draft.expiry_eq_ok_iff` — the last day that is found is the one asked for;
* `Grant.Draft.make_cases` — the four ways in which the check of a draft ends.
-/
import TableAccess.Grant
import TableAccess.Proofs.CalendarDays

set_option relaxedAutoImplicit false
set_option autoImplicit false

namespace TableAccess

namespace Grant.Draft

variable {applyDate e : Date} {expireDate : Option Date} {lifetimeDays : Nat}

theorem Refusal.kind_eq (r : Refusal) : r.error.kind = .validation := by
  cases r <;> rfl

/-- The day is the last one that is asked for: the given one, or the one that comes so many days
after the first day. -/
def EndsOn (applyDate : Date) (expireDate : Option Date) (lifetimeDays : Nat) (e : Date) : Prop :=
  match expireDate with
  | some given => e = given
  | none => e.dayNumber = applyDate.dayNumber + lifetimeDays

theorem endsOn_none : EndsOn applyDate none lifetimeDays e ↔
    e.dayNumber = applyDate.dayNumber + lifetimeDays := Iff.rfl

/-- **The last day that is found is the one asked for**, if the calendar has it. -/
theorem expiry_eq_ok_iff :
    expiry applyDate expireDate lifetimeDays = .ok e ↔
      EndsOn applyDate expireDate lifetimeDays e := by
  cases expireDate with
  | some given => exact ⟨fun h => (Except.ok.inj h).symm, fun h => congrArg Except.ok h.symm⟩
  | none =>
      rw [endsOn_none, ← Date.addDays?_eq_some_iff]
      unfold expiry
      dsimp only
      cases applyDate.addDays? lifetimeDays with
      | none => simp
      | some d => simp

/-- Only the calendar can stand in the way of a last day, and only when none is given. -/
theorem expiry_cases (applyDate : Date) (expireDate : Option Date) (lifetimeDays : Nat) :
    (∃ e, EndsOn applyDate expireDate lifetimeDays e ∧
      expiry applyDate expireDate lifetimeDays = .ok e) ∨
    (expireDate = none ∧ (∀ e, ¬ EndsOn applyDate none lifetimeDays e) ∧
      expiry applyDate expireDate lifetimeDays = .error (.beyondCalendar lifetimeDays)) := by
  cases expireDate with
  | some given => exact .inl ⟨given, rfl, rfl⟩
  | none =>
      cases hadd : applyDate.addDays? lifetimeDays with
      | some e =>
          have he : EndsOn applyDate none lifetimeDays e :=
            endsOn_none.2 (Date.addDays?_eq_some_iff.1 hadd)
          exact .inl ⟨e, he, expiry_eq_ok_iff.2 he⟩
      | none =>
          refine .inr ⟨rfl, fun e he => ?_, ?_⟩
          · cases hadd.symm.trans (Date.addDays?_eq_some_iff.2 (endsOn_none.1 he))
          · unfold expiry
            rw [hadd]

theorem EndsOn.unique {e' : Date} (h : EndsOn applyDate expireDate lifetimeDays e)
    (h' : EndsOn applyDate expireDate lifetimeDays e') : e = e' :=
  Except.ok.inj ((expiry_eq_ok_iff.2 h).symm.trans (expiry_eq_ok_iff.2 h'))

/-- A last day that is before the first one was given, since a number of days does not lead back. -/
theorem EndsOn.given (h : EndsOn applyDate expireDate lifetimeDays e) (hlt : e < applyDate) :
    expireDate = some e := by
  cases expireDate with
  | some given => exact congrArg some (Eq.symm h)
  | none =>
      have hnumber := Date.dayNumber_lt_iff.2 hlt
      rw [endsOn_none.1 h] at hnumber
      omega

/-- **The check of a draft ends in one of four ways.**  Nothing is asked for; or no last day is
given and the calendar ends before it; or one is given that comes before the first day; or the draft
has the parts that were asked for. -/
theorem make_cases (user : UserId) (applyDate : Date) (expireDate : Option Date)
    (ids : List CapabilityId) (lifetimeDays : Nat) :
    (ids = [] ∧ make user applyDate expireDate ids lifetimeDays = .error .noCapability) ∨
    (ids ≠ [] ∧ expireDate = none ∧ (∀ e, ¬ EndsOn applyDate none lifetimeDays e) ∧
      make user applyDate expireDate ids lifetimeDays = .error (.beyondCalendar lifetimeDays)) ∨
    (ids ≠ [] ∧ ∃ e, expireDate = some e ∧ e < applyDate ∧
      make user applyDate expireDate ids lifetimeDays =
        .error (.expiresBeforeStart e applyDate)) ∨
    (ids ≠ [] ∧ ∃ e, EndsOn applyDate expireDate lifetimeDays e ∧ applyDate ≤ e ∧
      make user applyDate expireDate ids lifetimeDays = .ok ⟨user, applyDate, e, .ofList ids⟩) := by
  unfold make
  cases ids with
  | nil => exact .inl ⟨rfl, rfl⟩
  | cons id ids =>
      rw [List.isEmpty_cons, if_neg Bool.false_ne_true]
      obtain ⟨e, he, hexpiry⟩ | ⟨hdefault, hnone, hexpiry⟩ :=
        expiry_cases applyDate expireDate lifetimeDays
      · rw [hexpiry]
        dsimp only
        split
        · next hlt => exact .inr (.inr (.inl ⟨List.cons_ne_nil _ _, e, he.given hlt, hlt, rfl⟩))
        · next hle =>
            have hle' : applyDate ≤ e := Date.le_def.2 (Int.not_lt.1 hle)
            exact .inr (.inr (.inr ⟨List.cons_ne_nil _ _, e, he, hle', rfl⟩))
      · rw [hexpiry]
        exact .inr (.inl ⟨List.cons_ne_nil _ _, hdefault, hnone, rfl⟩)

end Grant.Draft

end TableAccess
