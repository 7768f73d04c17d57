/-
**The last day of a draft.**

A draft without a last day gets the day that comes its lifetime after its first day, counted on the
calendar day by day, and is refused just when the calendar ends before that.  A draft with a last
day keeps it, unless it comes before the first.  What else a draft asks for does not matter to this,
and in which order and how often it names a capability does not matter at all.

Main definitions:

* `Grant.Draft.LastDay` — the last day that a draft gets;
* `Grant.Draft.Fits` — what a draft is that is made;
* `Grant.Draft.Refused` — why none is made.

Main results:

* `Grant.Draft.make_eq_ok_iff`, `Grant.Draft.make_eq_error_iff` — **a draft is made just when it
  fits, and refused just for the reason there is**;
* `Grant.Draft.make_congr` — the order and the repetition of capabilities do not matter;
* `Grant.Draft.LastDay.mono` — a later start and a longer lifetime never lead to an earlier end;
* `Grant.Draft.lifetime_is_exact` — all of this in one statement.
-/
import TableAccess.Proofs.DayByDay
import TableAccess.Proofs.FirstById
import TableAccess.Proofs.GrantDrafts

set_option relaxedAutoImplicit false
set_option autoImplicit false

namespace TableAccess

namespace Grant.Draft

variable {user : UserId} {applyDate applyDate' e e' : Date} {expireDate : Option Date}
  {ids ids' : List CapabilityId} {n n' : Nat} {d d' : Draft} {r r' : Refusal}

/-! ### What is made and what is refused -/

/-- The last day of a draft: the one that is given, if it is not before the first, or the one that
comes the lifetime after the first. -/
inductive LastDay (applyDate : Date) (n : Nat) : Option Date → Date → Prop
  | given {e : Date} (hle : applyDate ≤ e) : LastDay applyDate n (some e) e
  | default {e : Date} (hafter : Date.DaysAfter n applyDate e) : LastDay applyDate n none e

/-- The draft is what is asked for: its parts are those given, its last day is as it should be, and
its capabilities are those asked for, of which there are some, in ascending order. -/
structure Fits (user : UserId) (applyDate : Date) (expireDate : Option Date)
    (ids : List CapabilityId) (n : Nat) (d : Draft) : Prop where
  asked : ids ≠ []
  userId_eq : d.userId = user
  applyDate_eq : d.applyDate = applyDate
  lastDay : LastDay applyDate n expireDate d.expireDate
  ids_ascend : d.capabilityIds.toList.Pairwise (· < ·)
  mem_ids : ∀ id, id ∈ d.capabilityIds.toList ↔ id ∈ ids

/-- The reason for which no draft is made. -/
inductive Refused (applyDate : Date) (expireDate : Option Date) (ids : List CapabilityId)
    (n : Nat) : Refusal → Prop
  | nothingAsked (hids : ids = []) : Refused applyDate expireDate ids n .noCapability
  | endsTooSoon {e : Date} (hids : ids ≠ []) (hgiven : expireDate = some e) (hlt : e < applyDate) :
      Refused applyDate expireDate ids n (.expiresBeforeStart e applyDate)
  | endsTooLate (hids : ids ≠ []) (hdefault : expireDate = none)
      (hbeyond : ∃ k < n, Date.DaysAfter k applyDate Date.last) :
      Refused applyDate expireDate ids n (.beyondCalendar n)

theorem lastDay_iff : LastDay applyDate n expireDate e ↔
    EndsOn applyDate expireDate n e ∧ applyDate ≤ e := by
  constructor
  · rintro (hle | hafter)
    · exact ⟨rfl, hle⟩
    · have hnumber := Date.daysAfter_iff.1 hafter
      exact ⟨hnumber, Date.le_iff_dayNumber_le.2 (by omega)⟩
  · rintro ⟨hends, hle⟩
    cases expireDate with
    | some given =>
        obtain rfl : e = given := hends
        exact .given hle
    | none => exact .default (Date.daysAfter_iff.2 hends)

theorem LastDay.unique (h : LastDay applyDate n expireDate e)
    (h' : LastDay applyDate n expireDate e') : e = e' :=
  (lastDay_iff.1 h).1.unique (lastDay_iff.1 h').1

theorem Fits.unique (h : Fits user applyDate expireDate ids n d)
    (h' : Fits user applyDate expireDate ids n d') : d = d' := by
  refine Draft.ext (h.userId_eq.trans h'.userId_eq.symm)
    (h.applyDate_eq.trans h'.applyDate_eq.symm) (h.lastDay.unique h'.lastDay) (Ascending.ext ?_)
  exact ascending_ext (f := fun i => i) h.ids_ascend h'.ids_ascend fun id =>
    (h.mem_ids id).trans (h'.mem_ids id).symm

theorem Refused.unique (h : Refused applyDate expireDate ids n r)
    (h' : Refused applyDate expireDate ids n r') : r = r' := by
  cases h with
  | nothingAsked hids =>
      cases h' with
      | nothingAsked => rfl
      | endsTooSoon hids' => exact absurd hids hids'
      | endsTooLate hids' => exact absurd hids hids'
  | endsTooSoon hids hgiven =>
      cases h' with
      | nothingAsked hids' => exact absurd hids' hids
      | endsTooSoon _ hgiven' =>
          cases hgiven.symm.trans hgiven'
          rfl
      | endsTooLate _ hdefault => cases hgiven.symm.trans hdefault
  | endsTooLate hids hdefault =>
      cases h' with
      | nothingAsked hids' => exact absurd hids' hids
      | endsTooSoon _ hgiven => cases hgiven.symm.trans hdefault
      | endsTooLate => rfl

/-- A draft is made that fits, or there is a reason for which none is. -/
theorem make_spec (user : UserId) (applyDate : Date) (expireDate : Option Date)
    (ids : List CapabilityId) (n : Nat) :
    (∃ d, make user applyDate expireDate ids n = .ok d ∧
      Fits user applyDate expireDate ids n d) ∨
    (∃ r, make user applyDate expireDate ids n = .error r ∧
      Refused applyDate expireDate ids n r) := by
  obtain ⟨hids, hmake⟩ | ⟨hids, hdefault, hnone, hmake⟩ | ⟨hids, e, hgiven, hlt, hmake⟩ |
    ⟨hids, e, hends, hle, hmake⟩ := make_cases user applyDate expireDate ids n
  · exact .inr ⟨_, hmake, .nothingAsked hids⟩
  · refine .inr ⟨_, hmake, .endsTooLate hids hdefault ?_⟩
    rw [← Date.addDays?_eq_none_iff_daysAfter, Option.eq_none_iff_forall_ne_some]
    exact fun e hsome => hnone e (endsOn_none.2 (Date.addDays?_eq_some_iff.1 hsome))
  · exact .inr ⟨_, hmake, .endsTooSoon hids hgiven hlt⟩
  · exact .inl ⟨_, hmake, hids, rfl, rfl, lastDay_iff.2 ⟨hends, hle⟩, Ascending.ascends _,
      fun _ => Ascending.mem_ofList⟩

theorem Fits.not_refused (h : Fits user applyDate expireDate ids n d) :
    ¬ Refused applyDate expireDate ids n r := by
  obtain ⟨hends, hle⟩ := lastDay_iff.1 h.lastDay
  intro hrefused
  cases hrefused with
  | nothingAsked hids => exact h.asked hids
  | @endsTooSoon e _ hgiven hlt =>
      subst hgiven
      have hend : d.expireDate = e := hends
      rw [hend] at hle
      exact Int.not_le.2 hlt hle
  | endsTooLate _ hdefault hbeyond =>
      subst hdefault
      have hadd := Date.addDays?_eq_some_iff.2 (endsOn_none.1 hends)
      cases hadd.symm.trans (Date.addDays?_eq_none_iff_daysAfter.2 hbeyond)

/-- **A draft is made just when it fits.** -/
theorem make_eq_ok_iff : make user applyDate expireDate ids n = .ok d ↔
    Fits user applyDate expireDate ids n d := by
  obtain ⟨d', hmake, hfits⟩ | ⟨r, hmake, hrefused⟩ := make_spec user applyDate expireDate ids n
  · rw [hmake, Except.ok.injEq]
    exact ⟨fun heq => heq ▸ hfits, hfits.unique⟩
  · rw [hmake]
    exact iff_of_false (fun h => by cases h) fun h => h.not_refused hrefused

/-- **A draft is refused just for the reason there is.** -/
theorem make_eq_error_iff : make user applyDate expireDate ids n = .error r ↔
    Refused applyDate expireDate ids n r := by
  obtain ⟨d, hmake, hfits⟩ | ⟨r', hmake, hrefused⟩ := make_spec user applyDate expireDate ids n
  · rw [hmake]
    exact iff_of_false (fun h => by cases h) hfits.not_refused
  · rw [hmake, Except.error.injEq]
    exact ⟨fun heq => heq ▸ hrefused, hrefused.unique⟩

/-! ### What the draft depends on -/

theorem Fits.congr (h : Fits user applyDate expireDate ids n d)
    (hids : ∀ id, id ∈ ids ↔ id ∈ ids') : Fits user applyDate expireDate ids' n d where
  asked := fun hnil => h.asked (List.eq_nil_iff_forall_not_mem.2 fun id hid =>
    List.not_mem_nil (hnil ▸ (hids id).1 hid))
  userId_eq := h.userId_eq
  applyDate_eq := h.applyDate_eq
  lastDay := h.lastDay
  ids_ascend := h.ids_ascend
  mem_ids := fun id => (h.mem_ids id).trans (hids id)

/-- **The order and the repetition of capabilities do not matter**, whether a draft is made of them
or not. -/
theorem make_congr (hids : ∀ id, id ∈ ids ↔ id ∈ ids') :
    make user applyDate expireDate ids n = make user applyDate expireDate ids' n := by
  have hnil : ids = [] ↔ ids' = [] := by
    simp only [List.eq_nil_iff_forall_not_mem, hids]
  obtain ⟨d, hmake, hfits⟩ | ⟨r, hmake, hrefused⟩ := make_spec user applyDate expireDate ids n
  · exact hmake.trans (make_eq_ok_iff.2 (hfits.congr hids)).symm
  · refine hmake.trans (make_eq_error_iff.2 ?_).symm
    cases hrefused with
    | nothingAsked hids => exact .nothingAsked (hnil.1 hids)
    | endsTooSoon hids hgiven hlt => exact .endsTooSoon (mt hnil.2 hids) hgiven hlt
    | endsTooLate hids hdefault hbeyond => exact .endsTooLate (mt hnil.2 hids) hdefault hbeyond

/-- **A later start and a longer lifetime never lead to an earlier end**: if the calendar has the
later end, it has the earlier one. -/
theorem LastDay.mono (h : LastDay applyDate' n' none e') (hstart : applyDate ≤ applyDate')
    (hlifetime : n ≤ n') : ∃ e, LastDay applyDate n none e ∧ e ≤ e' := by
  obtain ⟨hends, -⟩ := lastDay_iff.1 h
  have hnumber : e'.dayNumber = applyDate'.dayNumber + n' := hends
  have hfirst := applyDate.first_le
  have hlast := e'.le_last
  rw [Date.le_iff_dayNumber_le] at hstart
  obtain ⟨e, he⟩ : ∃ e : Date, e.dayNumber = applyDate.dayNumber + n :=
    Date.exists_dayNumber (by omega) (by omega)
  exact ⟨e, .default (Date.daysAfter_iff.2 he), Date.le_iff_dayNumber_le.2 (by omega)⟩

theorem make_mono (hmake : make user applyDate' none ids n' = .ok d')
    (hstart : applyDate ≤ applyDate') (hlifetime : n ≤ n') :
    ∃ d, make user applyDate none ids n = .ok d ∧ d.expireDate ≤ d'.expireDate := by
  have hfits := make_eq_ok_iff.1 hmake
  obtain ⟨e, hlastDay, hle⟩ := hfits.lastDay.mono hstart hlifetime
  exact ⟨⟨user, applyDate, e, d'.capabilityIds⟩, make_eq_ok_iff.2 ⟨hfits.asked, rfl, rfl, hlastDay,
    hfits.ids_ascend, hfits.mem_ids⟩, hle⟩

/-! ### All drafts -/

/-- **The lifetime of a draft is exact.**  A draft is made just when it fits: capabilities are asked
for, and it has them once each and in ascending order; its last day is the one given, not before the
first day, or else comes as many days after the first day as the lifetime says.  It is refused, as
invalid, just when nothing is asked for, or the last day given comes before the first, or the
calendar ends before the lifetime does.  The order in which capabilities are asked for and their
repetition make no difference, and the last day never comes earlier for a later start or a longer
lifetime. -/
theorem lifetime_is_exact (user : UserId) (applyDate : Date) (expireDate : Option Date)
    (ids : List CapabilityId) (n : Nat) :
    (∀ d, make user applyDate expireDate ids n = .ok d ↔
      Fits user applyDate expireDate ids n d) ∧
    (∀ r, make user applyDate expireDate ids n = .error r ↔
      Refused applyDate expireDate ids n r) ∧
    (∀ r, make user applyDate expireDate ids n = .error r → r.error.kind = .validation) ∧
    (∀ ids', (∀ id, id ∈ ids ↔ id ∈ ids') →
      make user applyDate expireDate ids n = make user applyDate expireDate ids' n) ∧
    (∀ applyDate' n' d', applyDate ≤ applyDate' → n ≤ n' →
      make user applyDate' none ids n' = .ok d' →
      ∃ d, make user applyDate none ids n = .ok d ∧ d.expireDate ≤ d'.expireDate) :=
  ⟨fun _ => make_eq_ok_iff, fun _ => make_eq_error_iff, fun r _ => r.kind_eq,
    fun _ => make_congr, fun _ _ _ hstart hlifetime hmake => make_mono hmake hstart hlifetime⟩

/-- Half a year from the end of August leads to 29 February where there is one, and no day comes
after the last. -/
theorem lifetime_is_exact_leapYear :
    (∃ d, make ⟨1⟩ ⟨2023, 8, 30, by decide⟩ none [⟨3⟩, ⟨1⟩, ⟨3⟩] 183 = .ok d ∧
      d.expireDate = ⟨2024, 2, 29, by decide⟩ ∧ d.capabilityIds.toList = [⟨1⟩, ⟨3⟩]) ∧
    make ⟨1⟩ Date.last none [⟨3⟩] 1 = .error (.beyondCalendar 1) := by
  have hafter : Date.DaysAfter 183 ⟨2023, 8, 30, by decide⟩ ⟨2024, 2, 29, by decide⟩ :=
    Date.daysAfter_iff.2 (by decide)
  refine ⟨⟨⟨⟨1⟩, ⟨2023, 8, 30, by decide⟩, ⟨2024, 2, 29, by decide⟩, .ofList [⟨3⟩, ⟨1⟩]⟩, ?_, rfl,
    by decide⟩, ?_⟩
  · rw [(lifetime_is_exact _ _ none [⟨3⟩, ⟨1⟩, ⟨3⟩] 183).2.2.2.1 [⟨3⟩, ⟨1⟩] (by grind)]
    exact ((lifetime_is_exact _ _ none _ _).1 _).2 ⟨List.cons_ne_nil _ _, rfl, rfl,
      .default hafter, Ascending.ascends _, fun _ => Ascending.mem_ofList⟩
  · exact ((lifetime_is_exact _ _ none _ _).2.1 _).2
      (.endsTooLate (List.cons_ne_nil _ _) rfl ⟨0, by decide, .today _⟩)

end Grant.Draft

end TableAccess
