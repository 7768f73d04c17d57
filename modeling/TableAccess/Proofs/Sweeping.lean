/-
**A sweep records what is read anyway.**

A grant whose last day is over is read as expired, whether or not that was recorded; a sweep records
it.  So a sweep makes no difference to whoever reads on its date or later, and it does not matter
how often there was one before: sweeping on two dates comes to the same as sweeping on the later
one, and the two counts add up to its count.  What a sweep does change is that the grants whose
expiry it records can be deleted.

Main definitions:

* `Store.FlagChanges` — a grant is recorded as active in one of two stores, and as inactive in the
  other;
* `Store.lapsedIds` — the numbers of the grants whose expiry has still to be recorded.

Main results:

* `Grant.status_markExpired`, `Grant.markExpired_markExpired` — the same for one grant;
* `Store.sweep_sweep`, `Store.sweep_again` — sweeps on two dates;
* `Store.flagChanges_sweep_iff` — whose record a sweep changes;
* `Store.filter_values_sweep` — whoever looks for active grants finds the same ones;
* `Store.sweep_only_records` — all of this for the states that can be reached.
-/
import TableAccess.Proofs.GrantStages
import TableAccess.Proofs.Shelves

set_option relaxedAutoImplicit false
set_option autoImplicit false

namespace TableAccess

/-! ### One grant -/

namespace Grant

variable {g : Grant} {d d₁ d₂ e : Date}

theorem isLapsed_iff :
    g.isLapsed d = true ↔ g.isActive = true ∧ g.forceTerminateAt = none ∧ g.expireDate < d := by
  simp [isLapsed, and_assoc]

/-- What has to be recorded on a date has to be recorded on every later one. -/
theorem isLapsed_of_le (h : d₁ ≤ d₂) (hlapsed : g.isLapsed d₁ = true) : g.isLapsed d₂ = true := by
  obtain ⟨hactive, hforced, hover⟩ := isLapsed_iff.1 hlapsed
  exact isLapsed_iff.2 ⟨hactive, hforced, Int.lt_of_lt_of_le hover h⟩

theorem markExpired_of_lapsed (h : g.isLapsed d = true) :
    g.markExpired d = { g with isActive := false } := if_pos h

theorem markExpired_of_not_lapsed (h : g.isLapsed d ≠ true) : g.markExpired d = g := if_neg h

theorem isLapsed_markExpired (g : Grant) (d₁ d₂ : Date) :
    (g.markExpired d₁).isLapsed d₂ = (!g.isLapsed d₁ && g.isLapsed d₂) := by
  by_cases h : g.isLapsed d₁ = true
  · rw [markExpired_of_lapsed h, h]
    rfl
  · rw [markExpired_of_not_lapsed h, Bool.eq_false_iff.2 h]
    rfl

/-- What was recorded before makes no difference to what is recorded later. -/
theorem markExpired_markExpired (h : d₁ ≤ d₂) :
    (g.markExpired d₁).markExpired d₂ = g.markExpired d₂ := by
  by_cases hlapsed : g.isLapsed d₁ = true
  · -- the first record is the one that the second would make
    have hagain : (g.markExpired d₁).isLapsed d₂ ≠ true := by
      rw [isLapsed_markExpired, hlapsed]
      exact Bool.false_ne_true
    rw [markExpired_of_not_lapsed hagain, markExpired_of_lapsed hlapsed,
      markExpired_of_lapsed (isLapsed_of_le h hlapsed)]
  · rw [markExpired_of_not_lapsed hlapsed]

theorem not_active_of_lapsed (h : d ≤ e) (hlapsed : g.isLapsed d = true) :
    g.status e ≠ .active := by
  intro hactive
  have hover : g.expireDate < d := (isLapsed_iff.1 hlapsed).2.2
  have hlast : e ≤ g.expireDate := (status_eq_active_iff.1 hactive).2.2
  exact Int.not_le.2 (Int.lt_of_lt_of_le hover h) hlast

/-- Nothing is recorded of a grant that is active on the date or later. -/
theorem markExpired_of_active (h : d ≤ e) (hactive : g.status e = .active) :
    g.markExpired d = g :=
  markExpired_of_not_lapsed fun hlapsed => not_active_of_lapsed h hlapsed hactive

/-- **A grant is read as before when its expiry is recorded**, on the date and on every later
one. -/
theorem status_markExpired (h : d ≤ e) : (g.markExpired d).status e = g.status e := by
  by_cases hlapsed : g.isLapsed d = true
  · have hinactive : (g.markExpired d).status e ≠ .active := by
      rw [markExpired_of_lapsed hlapsed]
      exact status_of_inactive rfl e
    rw [status_of_over hinactive, status_of_over (not_active_of_lapsed h hlapsed),
      markExpired_of_lapsed hlapsed]
  · rw [markExpired_of_not_lapsed hlapsed]

end Grant

/-! ### Sweeps -/

namespace Store

variable {s : Store} {d d₁ d₂ e : Date} {id : GrantId}

/-- What a sweep makes of the grant with a number. -/
theorem find?_sweep (s : Store) (d : Date) (id : GrantId) :
    (s.sweep d).2.grants.find? id = (s.grants.find? id).map fun g => g.markExpired d :=
  Shelf.find?_mapValues ..

/-- A sweep counts the grants whose expiry has still to be recorded. -/
theorem sweep_count (s : Store) (d : Date) :
    (s.sweep d).1 = s.grants.tally fun _ g => g.isLapsed d := by
  rw [Shelf.tally_values, List.countP_eq_length_filter]
  rfl

/-- **Sweeping on two dates comes to the same as sweeping on the later one**, and the two counts add
up to its count. -/
theorem sweep_sweep (s : Store) (h : d₁ ≤ d₂) :
    ((s.sweep d₁).2.sweep d₂).2 = (s.sweep d₂).2 ∧
      (s.sweep d₁).1 + ((s.sweep d₁).2.sweep d₂).1 = (s.sweep d₂).1 := by
  constructor
  · have hgrants : (s.grants.mapValues (·.markExpired d₁)).mapValues (·.markExpired d₂) =
        s.grants.mapValues (·.markExpired d₂) := by
      rw [Shelf.mapValues_mapValues]
      exact congrArg s.grants.mapValues (funext fun g => Grant.markExpired_markExpired h)
    exact congrArg (fun gs => { s with grants := gs }) hgrants
  · rw [sweep_count, sweep_count, sweep_count]
    -- each grant is counted on the first date, or on the second and not on the first
    have hsecond : (s.sweep d₁).2.grants.tally (fun _ g => g.isLapsed d₂) =
        s.grants.tally fun _ g => (g.markExpired d₁).isLapsed d₂ :=
      s.grants.tally_mapValues (·.markExpired d₁) fun _ g => g.isLapsed d₂
    rw [hsecond]
    refine s.grants.tally_add fun _ g => ?_
    rw [Grant.isLapsed_markExpired]
    cases hfirst : g.isLapsed d₁ with
    | true => rw [Grant.isLapsed_of_le h hfirst]; rfl
    | false => cases g.isLapsed d₂ <;> rfl

theorem sweep_of_none_lapsed
    (h : ∀ id g, s.grants.find? id = some g → g.isLapsed d = false) : s.sweep d = (0, s) := by
  refine Prod.ext ?_ ?_
  · refine List.length_eq_zero_iff.2 (List.filter_eq_nil_iff.2 fun g hg => ?_)
    obtain ⟨id, hid⟩ := Shelf.mem_values_iff.1 hg
    rw [h id g hid]
    exact Bool.false_ne_true
  · have hgrants : s.grants.mapValues (fun g => g.markExpired d) = s.grants :=
      Shelf.mapValues_eq_self fun id g hid =>
        Grant.markExpired_of_not_lapsed (Bool.eq_false_iff.1 (h id g hid))
    exact congrArg (fun gs => { s with grants := gs }) hgrants

/-- **A sweep on the same date or an earlier one finds nothing to record.** -/
theorem sweep_again (s : Store) (h : d ≤ d₁) : (s.sweep d₁).2.sweep d = (0, (s.sweep d₁).2) := by
  refine sweep_of_none_lapsed fun id g' hg' => ?_
  rw [find?_sweep] at hg'
  obtain ⟨g, -, rfl⟩ := Option.map_eq_some_iff.1 hg'
  rw [Grant.isLapsed_markExpired]
  cases hlapsed : g.isLapsed d with
  | true =>
      rw [Grant.isLapsed_of_le h hlapsed]
      rfl
  | false => exact Bool.and_false _

/-! ### Whose record changes -/

/-- A grant is recorded as active in one of two stores, and as inactive in the other. -/
def FlagChanges (s t : Store) (id : GrantId) : Prop :=
  ∃ g g', s.grants.find? id = some g ∧ t.grants.find? id = some g' ∧ g'.isActive ≠ g.isActive

/-- **A sweep changes the record of those grants whose expiry has still to be recorded.** -/
theorem flagChanges_sweep_iff :
    s.FlagChanges (s.sweep d).2 id ↔ ∃ g, s.grants.find? id = some g ∧ g.isLapsed d = true := by
  constructor
  · rintro ⟨g, g', hg, hg', hflag⟩
    rw [find?_sweep, hg] at hg'
    cases hg'
    refine ⟨g, hg, ?_⟩
    by_contra hlapsed
    exact hflag (congrArg Grant.isActive (Grant.markExpired_of_not_lapsed hlapsed))
  · rintro ⟨g, hg, hlapsed⟩
    refine ⟨g, g.markExpired d, hg, by rw [find?_sweep, hg]; rfl, ?_⟩
    rw [Grant.markExpired_of_lapsed hlapsed, (Grant.isLapsed_iff.1 hlapsed).1]
    exact Bool.false_ne_true

theorem find?_sweep_ne_iff :
    (s.sweep d).2.grants.find? id ≠ s.grants.find? id ↔ s.FlagChanges (s.sweep d).2 id := by
  rw [flagChanges_sweep_iff, find?_sweep]
  cases hg : s.grants.find? id with
  | none => simp
  | some g =>
      by_cases hlapsed : g.isLapsed d = true
      · have hflag : (g.markExpired d).isActive ≠ g.isActive := by
          rw [Grant.markExpired_of_lapsed hlapsed, (Grant.isLapsed_iff.1 hlapsed).1]
          exact Bool.false_ne_true
        have hne : g.markExpired d ≠ g := fun h => hflag (congrArg Grant.isActive h)
        simp [hlapsed, hne]
      · simp [hlapsed, Grant.markExpired_of_not_lapsed hlapsed]

/-- The numbers of the grants whose expiry has still to be recorded. -/
def lapsedIds (s : Store) (d : Date) : List GrantId :=
  (s.grants.entries.filter fun e => e.2.isLapsed d).map Prod.fst

theorem length_lapsedIds (s : Store) (d : Date) : (s.lapsedIds d).length = (s.sweep d).1 := by
  rw [lapsedIds, List.length_map, ← List.countP_eq_length_filter, sweep_count]
  rfl

theorem nodup_lapsedIds (s : Store) (d : Date) : (s.lapsedIds d).Nodup := by
  refine List.pairwise_map.2 ((s.grants.ascends.filter _).imp fun {x y} hlt heq => ?_)
  grind

theorem mem_lapsedIds :
    id ∈ s.lapsedIds d ↔ ∃ g, s.grants.find? id = some g ∧ g.isLapsed d = true := by
  simp [lapsedIds, Shelf.mem_entries_iff]

/-! ### Reading after a sweep -/

/-- **Whoever looks for active grants finds the same ones after a sweep**, on its date and on every
later one. -/
theorem filter_values_sweep (s : Store) (h : d ≤ e) {p : Grant → Bool}
    (hp : ∀ g, p g = true → g.status e = .active) :
    (s.sweep d).2.grants.values.filter p = s.grants.values.filter p := by
  -- what is looked for is left alone by the sweep, and it makes nothing that is looked for
  have hsame : (p ∘ fun g => g.markExpired d) = p := by
    funext g
    by_cases hlapsed : g.isLapsed d = true
    · have hswept : p (g.markExpired d) ≠ true := by
        intro hpg
        have hactive := (Grant.status_markExpired h).symm.trans (hp _ hpg)
        exact Grant.not_active_of_lapsed h hlapsed hactive
      have hbefore : p g ≠ true := fun hpg => Grant.not_active_of_lapsed h hlapsed (hp g hpg)
      exact (Bool.eq_false_iff.2 hswept).trans (Bool.eq_false_iff.2 hbefore).symm
    · exact congrArg p (Grant.markExpired_of_not_lapsed hlapsed)
  have hvalues : (s.sweep d).2.grants.values = s.grants.values.map fun g => g.markExpired d :=
    Shelf.values_mapValues ..
  rw [hvalues, List.filter_map, hsame]
  refine (List.map_congr_left fun g hg => ?_).trans (List.map_id _)
  exact Grant.markExpired_of_active h (hp g (List.mem_filter.1 hg).2)

/-- A sweep takes nobody's capabilities away. -/
theorem activeCapabilities_sweep (s : Store) (h : d ≤ e) (user : UserId) :
    (s.sweep d).2.activeCapabilities user e = s.activeCapabilities user e := by
  rw [activeCapabilities, filter_values_sweep s h fun g hg => ?_]
  · rfl
  · rw [Bool.and_eq_true, decide_eq_true_eq, decide_eq_true_eq] at hg
    exact hg.2

/-- A sweep leaves every list of active grants as it is. -/
theorem listGrants_sweep (s : Store) {q : GrantQuery} (h : d ≤ q.asOf)
    (hactive : q.activeOnly = true) : (s.sweep d).2.listGrants q = s.listGrants q := by
  rw [listGrants, filter_values_sweep s h fun g hg => ?_]
  · rfl
  · simp only [selectsGrant, hactive, Bool.not_true, Bool.false_or, Bool.and_eq_true,
      decide_eq_true_eq] at hg
    exact hg.2

end Store

/-! ### Deleting after a sweep -/

/-- **An administrator can delete what is recorded as inactive**, and nothing else. -/
theorem Caller.deletes_iff_inactive (lifetimeDays : Nat) (wall : Instant) (c : Caller) {s : Store}
    (hs : s.Reached) {id : GrantId} :
    c.Deletes lifetimeDays wall s id ↔
      ∃ g, s.grants.find? id = some g ∧ g.isActive = false := by
  cases hg : s.grants.find? id with
  | none =>
      have hnotFound := (ends_of_absent lifetimeDays wall c hs.wellFiled hg).2.2
      rw [Deletes, ← Outcome.ending_eq_ok_iff]
      change c.ends lifetimeDays wall (.delete id) s = _ ↔ _
      rw [hnotFound]
      simp
  | some g =>
      rw [deletes_iff lifetimeDays wall c hs hg, Grant.stage_eq_ended_iff]
      simp

namespace Store

variable {s : Store} {d₁ d₂ : Date}

theorem Reached.sweep (hs : s.Reached) (d : Date) : (s.sweep d).2.Reached :=
  .answer .year1970 (.deactivateExpired d) hs

/-- **A sweep records what is read anyway.**  Let a state be one that can be reached, and let one
date not be after another.  Sweeping on the first and then on the second leaves what sweeping on the
second alone leaves, and the two counts add up to the single one.  Each count is the number of
grants whose record as active or inactive changes.  Another sweep on the same date or an earlier one
finds nothing and changes nothing.  From the date of a sweep on, every grant has the state that it
would have without it, every principal the same capabilities, and every list of active grants is the
same.  The grants that are touched are those that every administrator can delete now and could not
delete before. -/
theorem sweep_only_records (hs : s.Reached) (h : d₁ ≤ d₂) :
    let swept := (s.sweep d₁).2
    ((swept.sweep d₂).2 = (s.sweep d₂).2 ∧ (s.sweep d₁).1 + (swept.sweep d₂).1 = (s.sweep d₂).1) ∧
    (∀ d, ∃ ids : List GrantId, ids.Nodup ∧ ids.length = (s.sweep d).1 ∧
      ∀ id, id ∈ ids ↔ s.FlagChanges (s.sweep d).2 id) ∧
    (∀ d, d ≤ d₁ → swept.sweep d = (0, swept)) ∧
    (∀ e, d₁ ≤ e →
      (∀ id, (swept.grants.find? id).map (·.status e) = (s.grants.find? id).map (·.status e)) ∧
      (∀ user, swept.activeCapabilities user e = s.activeCapabilities user e) ∧
      ∀ q : GrantQuery, q.activeOnly = true → q.asOf = e → swept.listGrants q = s.listGrants q) ∧
    ∀ id (lifetimeDays : Nat) (wall : Instant) (c : Caller),
      swept.grants.find? id ≠ s.grants.find? id ↔
        ¬ c.Deletes lifetimeDays wall s id ∧ c.Deletes lifetimeDays wall swept id := by
  intro swept
  refine ⟨sweep_sweep s h, fun d => ⟨s.lapsedIds d, nodup_lapsedIds s d, length_lapsedIds s d,
    fun id => mem_lapsedIds.trans flagChanges_sweep_iff.symm⟩, fun d => sweep_again s,
    fun e he => ⟨fun id => ?_, activeCapabilities_sweep s he, ?_⟩,
    fun id lifetimeDays wall c => ?_⟩
  · rw [find?_sweep, Option.map_map]
    exact congrArg (Option.map · _) (funext fun g => Grant.status_markExpired he)
  · rintro q hactive rfl
    exact listGrants_sweep s he hactive
  · rw [find?_sweep_ne_iff, flagChanges_sweep_iff, c.deletes_iff_inactive lifetimeDays wall hs,
      c.deletes_iff_inactive lifetimeDays wall (hs.sweep d₁), find?_sweep]
    cases hg : s.grants.find? id with
    | none => simp
    | some g =>
        by_cases hlapsed : g.isLapsed d₁ = true
        · have hactive : g.isActive = true := (Grant.isLapsed_iff.1 hlapsed).1
          simp [hlapsed, hactive, Grant.markExpired_of_lapsed hlapsed]
        · -- what can be deleted after the sweep could be deleted before
          simp [hlapsed, Grant.markExpired_of_not_lapsed hlapsed]

/-- Three grants: one for the first half of the year, one that ends on the day after, and one for
the whole year. -/
def summer : Store :=
  let draft (e : Date) : Grant.Draft := ⟨⟨5⟩, Instant.year1970.date, e, .ofList [⟨7⟩]⟩
  Store.acts [.putCapability ⟨7⟩ "orders", .serve .year1970 (.createGrant firstHalf ⟨1⟩),
    .serve .year1970 (.createGrant (draft july) ⟨1⟩),
    .serve .year1970 (.createGrant (draft ⟨1970, 12, 31, by decide⟩) ⟨1⟩)] .empty

/-- A sweep on the first day of July records one expiry, and leaves alone the grant whose last day
that is; a sweep in August records the other. -/
theorem sweep_only_records_summer :
    let august : Date := ⟨1970, 8, 1, by decide⟩
    let swept := (summer.sweep july).2
    summer.Reached ∧ july ≤ august ∧
    ((summer.sweep july).1 = 1 ∧ (swept.sweep august).1 = 1 ∧ (summer.sweep august).1 = 2) ∧
    (swept.sweep august).2 = (summer.sweep august).2 ∧ swept.sweep july = (0, swept) ∧
    (swept.grants.find? ⟨2⟩).map (·.status july) = some .active ∧
    Caller.inJuly.Deletes 183 .year1970 swept ⟨1⟩ ∧
    ¬ Caller.inJuly.Deletes 183 .year1970 summer ⟨1⟩ ∧
    swept.grants.find? ⟨2⟩ = summer.grants.find? ⟨2⟩ := by
  intro august swept
  have hsummer : summer.Reached := .acts .empty _
  have hlater : july ≤ august := by decide
  obtain ⟨⟨hsame, hsum⟩, -, hagain, hread, hdelete⟩ := sweep_only_records hsummer hlater
  have hfirst : (summer.sweep july).1 = 1 := by decide +kernel
  have hboth : (summer.sweep august).1 = 2 := by decide +kernel
  have hsecond : (swept.sweep august).1 = 1 := by
    rw [hfirst, hboth] at hsum
    exact Nat.add_left_cancel hsum
  have htouched : swept.grants.find? ⟨1⟩ ≠ summer.grants.find? ⟨1⟩ := by decide +kernel
  obtain ⟨hbefore, hafter⟩ := (hdelete ⟨1⟩ 183 .year1970 Caller.inJuly).1 htouched
  refine ⟨hsummer, hlater, ⟨hfirst, hsecond, hboth⟩, hsame, hagain july (Int.le_refl _), ?_,
    hafter, hbefore, by decide +kernel⟩
  rw [(hread july (Int.le_refl _)).1 ⟨2⟩]
  decide +kernel

end Store

end TableAccess
