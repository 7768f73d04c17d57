/-
**No grant appears or is lost unnoticed.**

The answers of a store say what became of its grants: a grant was created, revoked or deleted, or
the expiry of so many was recorded.  Counted along a run that starts with nothing, the answers
account for all there is: the grants that are stored are those created and not deleted, the active
ones are those created and neither revoked nor expired.  The same holds of each number on its own,
so a grant ends once, is deleted once, and its number is never used again.

Every count here is taken of the grants whose numbers are of some kind, which is all numbers in the
first case and a single number in the second; so both are one argument.

Main definitions:

* `Store.created`, `Store.revoked`, `Store.expired`, `Store.deleted` — what an act does to grants
  whose numbers are of some kind;
* `Store.reported` — the number that the answer to a sweep says;
* `Store.stored`, `Store.active` — the grants of that kind that are stored, and those active.

Main results:

* `Store.stored_act`, `Store.active_act` — an act balances both;
* `Store.total_created_eq` — each number up to the last one is given out once;
* `Store.grants_are_conserved` — what the answers of a run say about the store after it.
-/
import TableAccess.Proofs.GrantHistory
import TableAccess.Proofs.Shelves
import TableAccess.Proofs.StoredGrants

set_option relaxedAutoImplicit false
set_option autoImplicit false

namespace TableAccess

namespace Store

variable {s : Store} (p : GrantId → Bool)

/-! ### What an act does to grants -/

/-- The number of grants that an act creates. -/
def created (s : Store) : Act → Nat
  | .serve _ (.createGrant d _) =>
      match (s.createGrant d).1 with
      | .ok g => (p g.id).toNat
      | .error _ => 0
  | _ => 0

/-- The number of grants that an act revokes. -/
def revoked (s : Store) : Act → Nat
  | .serve _ (.forceRevokeGrant id t _) => (p id && (s.forceRevokeGrant id t).1.isSome).toNat
  | _ => 0

/-- The number of active grants that a sweep makes inactive. -/
def expired (s : Store) : Act → Nat
  | .serve _ (.deactivateExpired today) =>
      s.grants.tally fun id g => p id && (g.isActive && !(g.markExpired today).isActive)
  | _ => 0

/-- The number of grants that an act deletes. -/
def deleted (s : Store) : Act → Nat
  | .serve _ (.deleteInactiveGrant id) => (p id && (s.deleteInactiveGrant id).1).toNat
  | _ => 0

/-- The number that the answer to a sweep says. -/
def reported (s : Store) : Act → Nat
  | .serve _ (.deactivateExpired today) => (s.sweep today).1
  | _ => 0

/-- The number of grants that are stored. -/
def stored (s : Store) : Nat := s.grants.tally fun id _ => p id

/-- The number of grants that are stored as active ones. -/
def active (s : Store) : Nat := s.grants.tally fun id g => p id && g.isActive

theorem isLapsed_eq (g : Grant) (today : Date) :
    g.isLapsed today = (g.isActive && !(g.markExpired today).isActive) := by
  unfold Grant.markExpired
  cases hlapsed : g.isLapsed today with
  | true =>
      have hactive : g.isActive = true := by
        rw [Grant.isLapsed, Bool.and_eq_true, Bool.and_eq_true] at hlapsed
        exact hlapsed.1.1
      simp [hactive]
  | false => simp

/-- **The answer to a sweep says how many grants became inactive.** -/
theorem expired_eq_reported (s : Store) (a : Act) :
    expired (fun _ => true) s a = reported s a := by
  cases a with
  | serve now r =>
      cases r with
      | deactivateExpired today =>
          rw [expired, reported, sweep, ← List.countP_eq_length_filter, ← Shelf.tally_values]
          simp only [Bool.true_and, isLapsed_eq]
      | _ => rfl
  | _ => rfl

/-- An act that does nothing to grants counts for nothing. -/
theorem counts_of_idle {a : Act} (h : a.Idle s) :
    created p s a = 0 ∧ revoked p s a = 0 ∧ expired p s a = 0 ∧ deleted p s a = 0 := by
  cases a with
  | serve now r =>
      cases r with
      | createGrant d c =>
          obtain ⟨e, he⟩ := h
          simp only [created, revoked, expired, deleted, he, and_self]
      | forceRevokeGrant id t c =>
          have hnone : (s.forceRevokeGrant id t).1 = none := h
          simp [created, revoked, expired, deleted, hnone]
      | deleteInactiveGrant id =>
          have hfalse : (s.deleteInactiveGrant id).1 = false := h
          simp [created, revoked, expired, deleted, hfalse]
      | deactivateExpired today => exact h.elim
      | _ => exact ⟨rfl, rfl, rfl, rfl⟩
  | _ => exact ⟨rfl, rfl, rfl, rfl⟩

theorem created_of_capabilitiesOf {now : Instant} {d : Grant.Draft} {c : UserId}
    {cs : List Capability} (hcs : s.capabilitiesOf d.capabilityIds.toList = .ok cs) :
    created p s (.serve now (.createGrant d c)) = (p ⟨s.grantCount + 1⟩).toNat := by
  simp only [created, createGrant, hcs]

/-! ### One act -/

theorem WellFiled.next_free (hs : s.WellFiled) : s.grants.find? ⟨s.grantCount + 1⟩ = none := by
  cases hg : s.grants.find? ⟨s.grantCount + 1⟩ with
  | none => rfl
  | some g =>
      have hle := hs.grant_le _ g hg
      dsimp only at hle
      omega

/-- **Stored are the grants that were created and not deleted**: an act keeps the balance. -/
theorem stored_act (s : Store) (a : Act) (hs : s.Reached) :
    stored p (s.act a) + deleted p s a = stored p s + created p s a := by
  have hstep := s.act_grantStep a
  generalize s.act a = t at hstep ⊢
  cases hstep with
  | idle hidle hgrants _ =>
      obtain ⟨hcreated, -, -, hdeleted⟩ := counts_of_idle p hidle
      rw [hcreated, hdeleted, stored, hgrants, stored]
  | @create now d c cs hcs =>
      have hinsert := s.grants.tally_insert ⟨s.grantCount + 1⟩
        ⟨⟨s.grantCount + 1⟩, d.userId, d.applyDate, d.expireDate, none, true, cs⟩ fun id _ => p id
      rw [hs.wellFiled.next_free] at hinsert
      rw [created_of_capabilitiesOf p hcs]
      exact hinsert
  | @revoke now id t c g hg hactive =>
      -- the grant is put in its own place
      have hinsert := s.grants.tally_insert id (g.revoked t) fun id _ => p id
      rw [hg, Option.any_some] at hinsert
      exact Nat.add_right_cancel hinsert
  | @delete now id g hg hinactive =>
      have herase := s.grants.tally_erase id fun id _ => p id
      have hdeleted : deleted p s (.serve now (.deleteInactiveGrant id)) = (p id).toNat := by
        simp [deleted, deleteInactiveGrant, hg, hinactive]
      rw [hg, Option.any_some] at herase
      rw [hdeleted]
      exact herase
  | @sweep now today => exact s.grants.tally_mapValues (·.markExpired today) fun id _ => p id

/-- **Active are the grants that were created and neither revoked nor expired**: an act keeps the
balance. -/
theorem active_act (s : Store) (a : Act) (hs : s.Reached) :
    active p (s.act a) + (revoked p s a + expired p s a) = active p s + created p s a := by
  have hstep := s.act_grantStep a
  generalize s.act a = t at hstep ⊢
  cases hstep with
  | idle hidle hgrants _ =>
      obtain ⟨hcreated, hrevoked, hexpired, -⟩ := counts_of_idle p hidle
      rw [hcreated, hrevoked, hexpired, active, hgrants, active]
  | @create now d c cs hcs =>
      have hinsert := s.grants.tally_insert ⟨s.grantCount + 1⟩
        ⟨⟨s.grantCount + 1⟩, d.userId, d.applyDate, d.expireDate, none, true, cs⟩
        fun id g => p id && g.isActive
      rw [hs.wellFiled.next_free, Bool.and_true] at hinsert
      rw [created_of_capabilitiesOf p hcs]
      exact hinsert
  | @revoke now id t c g hg hactive =>
      obtain ⟨-, hflag, -⟩ := Grant.status_eq_active_iff.1 hactive
      have hinsert := s.grants.tally_insert id (g.revoked t) fun id g => p id && g.isActive
      have hrevoked : revoked p s (.serve now (.forceRevokeGrant id t c)) = (p id).toNat := by
        simp [revoked, forceRevokeGrant, hg, Grant.forceRevoke, Grant.ensureMutable, hactive]
      rw [hg, Option.any_some, hflag, Bool.and_true] at hinsert
      rw [hrevoked]
      exact hinsert.trans (congrArg _ (congrArg Bool.toNat (Bool.and_false _)))
  | @delete now id g hg hinactive =>
      have herase := s.grants.tally_erase id fun id g => p id && g.isActive
      rw [hg, Option.any_some, hinactive, Bool.and_false] at herase
      exact herase
  | @sweep now today =>
      have hmap := s.grants.tally_mapValues (·.markExpired today) fun id g => p id && g.isActive
      have hrevoked : revoked p s (.serve now (.deactivateExpired today)) = 0 := rfl
      rw [active, hmap, hrevoked, Nat.zero_add, expired]
      -- an active grant stays active or expires, and an inactive one stays inactive
      refine s.grants.tally_add (r := fun id g => p id && g.isActive) fun id g => ?_
      have hstays := (Grant.Follows.markExpired g today).inactive
      generalize g.isActive = before, (g.markExpired today).isActive = after at hstays ⊢
      cases p id <;> cases before <;> cases after <;> simp_all

/-- The last number given out grows with the grants that are created. -/
theorem grantCount_act (s : Store) (a : Act) :
    (s.act a).grantCount = s.grantCount + created (fun _ => true) s a := by
  have hstep := s.act_grantStep a
  generalize s.act a = t at hstep ⊢
  cases hstep with
  | idle hidle _ hcount =>
      rw [hcount, (counts_of_idle _ hidle).1]
      exact (Int.add_zero _).symm
  | create hcs =>
      rw [created_of_capabilitiesOf _ hcs]
      rfl
  | _ => exact (Int.add_zero _).symm

/-! ### All acts of a run -/

theorem grantCount_acts (as : List Act) (s : Store) :
    (acts as s).grantCount = s.grantCount + total (created fun _ => true) as s := by
  induction as generalizing s with
  | nil => exact (Int.add_zero _).symm
  | cons a as ih =>
      have ha := s.grantCount_act a
      rw [acts_cons, ih, ha, total]
      omega

/-- The grant that an act creates has the next number. -/
theorem created_single (id : GrantId) (s : Store) (a : Act) :
    created (fun j => j = id) s a =
      if id.value = s.grantCount + 1 then created (fun _ => true) s a else 0 := by
  have hnumber : (⟨s.grantCount + 1⟩ : GrantId) = id ↔ id.value = s.grantCount + 1 := by
    rw [Id.ext_iff, eq_comm (a := id.value)]
  have hstep := s.act_grantStep a
  generalize s.act a = t at hstep
  cases hstep with
  | idle hidle _ _ =>
      rw [(counts_of_idle _ hidle).1, (counts_of_idle _ hidle).1, ite_self]
  | create hcs =>
      rw [created_of_capabilitiesOf _ hcs, created_of_capabilitiesOf _ hcs]
      by_cases hid : id.value = s.grantCount + 1
      · rw [if_pos hid, decide_eq_true (hnumber.2 hid)]
      · rw [if_neg hid, decide_eq_false (fun h => hid (hnumber.1 h))]
        rfl
  | _ => exact (ite_self 0).symm

/-- **Each number is given out once**: those that a run gives out follow the last one that was given
out before. -/
theorem total_created_eq (id : GrantId) (as : List Act) (s : Store) :
    total (created fun j => j = id) as s =
      if s.grantCount < id.value ∧ id.value ≤ (acts as s).grantCount then 1 else 0 := by
  induction as generalizing s with
  | nil =>
      rw [if_neg]
      · rfl
      · rw [acts_nil]
        omega
  | cons a as ih =>
      have ha := s.grantCount_act a
      have hmono := grantCount_acts as (s.act a)
      have hone : created (fun _ => true) s a ≤ 1 := by
        have hstep := s.act_grantStep a
        generalize s.act a = t at hstep
        cases hstep with
        | idle hidle _ _ =>
            rw [(counts_of_idle _ hidle).1]
            omega
        | create hcs => rw [created_of_capabilitiesOf _ hcs]; exact Nat.le_refl 1
        | _ => exact Nat.zero_le 1
      rw [total, ih, created_single, acts_cons]
      split <;> split <;> split <;> omega

/-! ### Single numbers -/

theorem stored_single (id : GrantId) (s : Store) :
    stored (fun j => j = id) s = (s.grants.find? id).isSome.toNat := by
  have hkey := s.grants.tally_key id fun _ => true
  simp only [Bool.and_true] at hkey
  rw [stored, hkey]
  cases s.grants.find? id <;> rfl

theorem active_single (id : GrantId) (s : Store) :
    active (fun j => j = id) s = ((s.grants.find? id).any Grant.isActive).toNat :=
  s.grants.tally_key id Grant.isActive

/-- The number of times that a grant ends: that it is revoked, or its expiry is recorded. -/
def ended (id : GrantId) (s : Store) (a : Act) : Nat :=
  revoked (fun j => j = id) s a + expired (fun j => j = id) s a

/-- **A grant has one life.**  A number that was given out belongs to a grant that is stored or was
deleted once, and that is active or ended once; with any other number nothing ever happened. -/
theorem one_life (id : GrantId) (as : List Act) :
    ∃ n ≤ 1, (n = 1 ↔ 0 < id.value ∧ id.value ≤ (acts as empty).grantCount) ∧
      ((acts as empty).grants.find? id).isSome.toNat +
        total (deleted fun j => j = id) as empty = n ∧
      (((acts as empty).grants.find? id).any Grant.isActive).toNat +
        total (ended id) as empty = n := by
  have hgiven := total_created_eq id as empty
  have hstored := total_balance (stored_act fun j => j = id) as .empty
  have hactive := total_balance (active_act fun j => j = id) as .empty
  -- nothing is stored in the beginning, and no number was given out
  have hnone : stored (fun j => j = id) empty = 0 ∧ active (fun j => j = id) empty = 0 := ⟨rfl, rfl⟩
  have hzero : empty.grantCount = 0 := rfl
  rw [stored_single, hnone.1, Nat.zero_add] at hstored
  rw [active_single, hnone.2, Nat.zero_add] at hactive
  rw [hzero] at hgiven
  refine ⟨total (created fun j => j = id) as empty, ?_, ?_, hstored, hactive⟩
  · rw [hgiven]
    split <;> omega
  · rw [hgiven]
    split
    · next h => exact iff_of_true rfl h
    · next h => exact iff_of_false Nat.zero_ne_one h

/-! ### What the answers say -/

/-- **No grant appears or is lost unnoticed.**  Let a run start with nothing, and let its answers
say that `C` grants were created, `R` revoked, the expiry of `S` recorded, and `D` deleted.  Then
`C - D` grants are stored, each under its own number, `C - R - S` of them are active, and `C` is the
last number given out, so the next grant that is created is number `C + 1`.  No more grants were
deleted than ended.  A single grant has not ended while it is stored as active, and has ended once
when it is stored as inactive or was deleted; it is deleted once at most, and then its number is
never used again.  A revoked grant is inactive, and grants from checked drafts are proper. -/
theorem grants_are_conserved (as : List Act) :
    let s := acts as empty
    let C := total (created fun _ => true) as empty
    let R := total (revoked fun _ => true) as empty
    let S := total reported as empty
    let D := total (deleted fun _ => true) as empty
    ((s.grants.size : Int) = C - D ∧
      (s.grants.values.countP Grant.isActive : Int) = C - R - S ∧ D ≤ R + S ∧
      s.grantCount = C ∧ ∀ id g, s.grants.find? id = some g → g.id = id) ∧
    (∀ now d c g, (s.answer now (.createGrant d c)).1 = .ok g → g.id.value = C + 1) ∧
    (∀ id g, s.grants.find? id = some g →
      total (ended id) as empty = (if g.isActive then 0 else 1) ∧
        total (deleted fun j => j = id) as empty = 0) ∧
    (∀ id, 0 < id.value → id.value ≤ (C : Int) → s.grants.find? id = none →
      total (ended id) as empty = 1 ∧ total (deleted fun j => j = id) as empty = 1) ∧
    (∀ id, total (deleted fun j => j = id) as empty ≤ 1 ∧
      (0 < total (deleted fun j => j = id) as empty →
        ∀ later, (acts later s).grants.find? id = none)) ∧
    (∀ id g, s.grants.find? id = some g → g.forceTerminateAt.isSome → g.isActive = false) ∧
    ((∀ a ∈ as, a.DraftsOf Grant.Draft.Made) → s.Holds Grant.Proper) := by
  intro s C R S D
  have hreached : s.Reached := Reached.acts .empty as
  have hcount : s.grantCount = C := (grantCount_acts as empty).trans (Int.zero_add _)
  -- the balances of all numbers together
  have hstored : s.grants.size + D = C := by
    have hbalance := total_balance (stored_act fun _ => true) as .empty
    have hzero : stored (fun _ => true) empty = 0 := rfl
    rw [stored, Shelf.tally_size, hzero, Nat.zero_add] at hbalance
    exact hbalance
  have hactive : s.grants.values.countP Grant.isActive + (R + S) = C := by
    have hbalance := total_balance (active_act fun _ => true) as .empty
    have hzero : active (fun _ => true) empty = 0 := rfl
    rw [total_add, total_congr expired_eq_reported, active] at hbalance
    simp only [Bool.true_and] at hbalance
    rw [Shelf.tally_values, hzero, Nat.zero_add] at hbalance
    exact hbalance
  have hle : s.grants.values.countP Grant.isActive ≤ s.grants.size := by
    rw [← Shelf.tally_values, ← Shelf.tally_size]
    exact s.grants.tally_le fun _ _ _ => rfl
  refine ⟨⟨by omega, by omega, by omega, hcount, hreached.wellFiled.grant_id⟩, ?_, ?_, ?_, ?_,
    fun id g hg => (hreached.sound id g hg).inactive, fun has => proper_acts has holds_empty⟩
  · intro now d c g hok
    obtain ⟨e, he⟩ | ⟨cs, -, he⟩ := s.createGrant_cases d
    · rw [answer, he] at hok
      cases hok
    · rw [answer, he] at hok
      cases hok
      dsimp only
      omega
  · intro id g hg
    obtain ⟨n, hn, -, hdeleted, hended⟩ := one_life id as
    rw [show (acts as empty).grants.find? id = some g from hg] at hdeleted hended
    rw [Option.isSome_some, Bool.toNat_true] at hdeleted
    rw [Option.any_some] at hended
    cases hflag : g.isActive with
    | true =>
        rw [hflag, Bool.toNat_true] at hended
        rw [if_pos rfl]
        omega
    | false =>
        rw [hflag, Bool.toNat_false] at hended
        rw [if_neg Bool.false_ne_true]
        omega
  · intro id hpos hgiven hnone
    obtain ⟨n, -, hn, hdeleted, hended⟩ := one_life id as
    rw [show (acts as empty).grants.find? id = none from hnone] at hdeleted hended
    rw [Option.isSome_none, Bool.toNat_false, Nat.zero_add] at hdeleted
    rw [Option.any_none, Bool.toNat_false, Nat.zero_add] at hended
    have hone : n = 1 := hn.2 ⟨hpos, hcount ▸ hgiven⟩
    exact ⟨hended.trans hone, hdeleted.trans hone⟩
  · intro id
    obtain ⟨n, hn, -, hdeleted, -⟩ := one_life id as
    refine ⟨by omega, fun hpos later => ?_⟩
    -- the deletion stays on record, and a number on record as deleted is not in use
    obtain ⟨n', hn', -, hlater, -⟩ := one_life id (as ++ later)
    rw [total_append, acts_append] at hlater
    cases hfind : (acts later s).grants.find? id with
    | none => rfl
    | some g =>
        rw [show (acts later (acts as empty)).grants.find? id = some g from hfind,
          Option.isSome_some, Bool.toNat_true] at hlater
        omega

theorem firstHalf_made : firstHalf.Made := by
  have hmade : Grant.Draft.make ⟨5⟩ firstHalf.applyDate (some firstHalf.expireDate) [⟨7⟩] 0 =
      .ok firstHalf := by
    have hlast : ¬ firstHalf.expireDate < firstHalf.applyDate := by decide
    unfold Grant.Draft.make Grant.Draft.expiry
    rw [if_neg (by decide)]
    dsimp only
    rw [if_neg hlast]
    rfl
  exact ⟨_, _, _, _, _, hmade⟩

/-- Two grants are created; one is revoked and deleted, and the expiry of the other is recorded. -/
def twoLives : List Act :=
  [.putCapability ⟨7⟩ "orders", .serve .year1970 (.createGrant firstHalf ⟨1⟩),
    .serve .year1970 (.createGrant firstHalf ⟨1⟩), .serve .year1970 (.deleteInactiveGrant ⟨1⟩),
    .serve .year1970 (.forceRevokeGrant ⟨1⟩ .year1970 ⟨1⟩),
    .serve .year1970 (.deleteInactiveGrant ⟨1⟩),
    .serve .year1970 (.deactivateExpired july)]

theorem grants_are_conserved_twoLives :
    (∀ a ∈ twoLives, a.DraftsOf Grant.Draft.Made) ∧
    (acts twoLives empty).grants.size = 1 ∧
    (acts twoLives empty).grants.values.countP Grant.isActive = 0 ∧
    (∀ later, (acts later (acts twoLives empty)).grants.find? ⟨1⟩ = none) ∧
    (acts twoLives empty).Holds Grant.Proper := by
  have hmade : ∀ a ∈ twoLives, a.DraftsOf Grant.Draft.Made := by
    simp [twoLives, Act.DraftsOf, firstHalf_made]
  obtain ⟨⟨hsize, hactive, -⟩, -, -, -, hdeleted, -, hproper⟩ := grants_are_conserved twoLives
  have hC : total (created fun _ => true) twoLives empty = 2 := by decide
  have hR : total (revoked fun _ => true) twoLives empty = 1 := by decide
  have hS : total reported twoLives empty = 1 := by decide +kernel
  have hD : total (deleted fun _ => true) twoLives empty = 1 := by decide
  have hone : total (deleted fun j => j = ⟨1⟩) twoLives empty = 1 := by decide
  exact ⟨hmade, by omega, by omega, (hdeleted ⟨1⟩).2 (by omega), hproper hmade⟩

end Store

end TableAccess
