/-
**What a grant service does to a store that nobody else uses.**

A grant service looks at the store first and changes it later.  When nothing comes between, all of
this might as well happen at once.

Main definitions:

* `Outcome.ending` — how an operation ended, the wording of an error excepted;
* `GrantService.atOnce` — the end of a call and the store after it;
* `GrantService.Watches` — the grant of a revocation is still there;
* `GrantService.Spent` — a revocation or a deletion that can no longer succeed.

Main results:

* `GrantService.atOnce_congr` — the audit log does not count;
* `GrantService.Spent.not_ok`, `GrantService.Spent.of_ok` — what succeeds is spent, and what is
  spent does not succeed;
* `GrantService.atOnce_ne_conflict` — no call ends as a conflict.
-/
import TableAccess.Proofs.GrantDrafts
import TableAccess.Proofs.Interleaving

set_option relaxedAutoImplicit false
set_option autoImplicit false

namespace TableAccess

/-! ### What a service does to a store that nobody else uses -/

/-- How an operation ended, the wording of an error excepted. -/
def Outcome.ending {α : Type} (o : Outcome α) : Except ErrorKind α := o.mapError AppError.kind

open GrantAdministration in
/-- What a service does to a store that nobody else uses. -/
def GrantService.atOnce (lifetimeDays : Nat) (clock : Instant) (s : Store) :
    (g : GrantService) → Except ErrorKind g.Value × Store
  | .create i =>
      match s.principals.find? i.userId with
      | none => (.error .notFound, s)
      | some p =>
          if !p.active then (.error .validation, s)
          else
            match Grant.Draft.make p.id (i.applyDate.getD clock.date) i.expireDate i.capabilityIds
              lifetimeDays with
            | .error e => (.error e.error.kind, s)
            | .ok d =>
                if (missing d.capabilityIds.toList
                  (s.findGrantable d.capabilityIds.toList)).isEmpty then
                  match s.createGrant d with
                  | (.error e, t) => (.error e.kind, t)
                  | (.ok g, t) => (.ok (view g p.displayName clock), t)
                else (.error .validation, s)
  | .update id forceRevoke =>
      match s.grants.find? id with
      | none => (.error .notFound, s)
      | some g =>
          if g.status clock.date = .active then
            if forceRevoke then
              (.ok (view (g.revoked clock) (s.nameOf g.userId) clock),
                { s with grants := s.grants.insert id (g.revoked clock) })
            else (.error .nothingChanged, s)
          else (.error .invalidStateTransition, s)
  | .delete id =>
      match s.grants.find? id with
      | none => (.error .notFound, s)
      | some g =>
          if g.isActive then (.error .deleteOfActiveGrant, s)
          else (.ok (), { s with grants := s.grants.erase id })
  | .sweep => (.ok (s.sweep clock.date).1, (s.sweep clock.date).2)
  | .get id =>
      match s.grants.find? id with
      | none => (.error .notFound, s)
      | some g => (.ok (view g (s.nameOf g.userId) clock), s)

namespace GrantService

/-- The grant that a revocation is about.  It may be deleted while the revocation is underway. -/
def watched? : GrantService → Option GrantId
  | .update id true => some id
  | _ => none

/-- The grant that a revocation is about is still there. -/
def Watches (g : GrantService) (s : Store) : Prop :=
  ∀ id, g.watched? = some id → s.grants.find? id ≠ none

/-- Other calls watch no grant, so none can go away. -/
theorem Watches.of_unwatched {g : GrantService} {s : Store} (hg : g.watched? = none) :
    g.Watches s := by
  intro id hid
  cases hg.symm.trans hid

end GrantService

section AtOnce

variable {lifetimeDays : Nat} {clock : Instant} {g : GrantService} {s t : Store}

theorem GrantService.atOnce_delete_of_absent {id : GrantId} (h : s.grants.find? id = none) :
    GrantService.atOnce lifetimeDays clock s (.delete id) = (.error .notFound, s) := by
  simp only [atOnce, h]

theorem GrantService.atOnce_delete_of_inactive {id : GrantId} {q : Grant}
    (hq : s.grants.find? id = some q) (hinactive : q.isActive = false) :
    GrantService.atOnce lifetimeDays clock s (.delete id) =
      (.ok (), { s with grants := s.grants.erase id }) := by
  simp only [atOnce, hq, hinactive, if_neg Bool.false_ne_true]

section Creation

variable {i : GrantAdministration.CreateInput} {p : Principal} {d : Grant.Draft}

theorem GrantService.atOnce_create (hp : s.principals.find? i.userId = some p)
    (hactive : p.active = true)
    (hdraft : Grant.Draft.make p.id (i.applyDate.getD clock.date) i.expireDate i.capabilityIds
      lifetimeDays = .ok d)
    (hgrantable : (GrantAdministration.missing d.capabilityIds.toList
      (s.findGrantable d.capabilityIds.toList)).isEmpty = true)
    {o : Outcome Grant} (hcreate : s.createGrant d = (o, t)) :
    GrantService.atOnce lifetimeDays clock s (.create i) =
      (Outcome.ending (o.map fun g => GrantAdministration.view g p.displayName clock), t) := by
  simp only [atOnce, hp, hactive, hdraft, hgrantable, hcreate, Bool.not_true,
    if_neg Bool.false_ne_true, if_true]
  cases o with
  | error e => rfl
  | ok g => rfl

theorem GrantService.atOnce_create_of_missing (hp : s.principals.find? i.userId = some p)
    (hactive : p.active = true)
    (hdraft : Grant.Draft.make p.id (i.applyDate.getD clock.date) i.expireDate i.capabilityIds
      lifetimeDays = .ok d)
    (hmissing : ¬ (GrantAdministration.missing d.capabilityIds.toList
      (s.findGrantable d.capabilityIds.toList)).isEmpty = true) :
    GrantService.atOnce lifetimeDays clock s (.create i) = (.error .validation, s) := by
  simp only [atOnce, hp, hactive, hdraft, Bool.not_true, if_neg Bool.false_ne_true,
    if_neg hmissing]

end Creation

/-- The audit log does not count. -/
theorem GrantService.atOnce_congr (h : s.withoutLog = t.withoutLog) :
    (g.atOnce lifetimeDays clock s).1 = (g.atOnce lifetimeDays clock t).1 ∧
      (g.atOnce lifetimeDays clock s).2.withoutLog =
        (g.atOnce lifetimeDays clock t).2.withoutLog := by
  have hcreate : ∀ d, (s.createGrant d).1 = (t.createGrant d).1 ∧
      (s.createGrant d).2.withoutLog = (t.createGrant d).2.withoutLog :=
    fun d => @Store.answer_congr s t .year1970 (.createGrant d ⟨0⟩) h rfl
  have hfind : ∀ ids, s.findGrantable ids = t.findGrantable ids := by
    intro ids
    rw [Store.findGrantable, Store.findGrantable, (Store.withoutLog_eq_iff.1 h).2.2.1]
  obtain ⟨p, k, c, gs, l, n⟩ := s
  obtain ⟨p', k', c', gs', l', n'⟩ := t
  obtain ⟨rfl, rfl, rfl, rfl, rfl⟩ := Store.withoutLog_eq_iff.1 h
  cases g with
  | create i =>
      simp only [atOnce, hfind]
      cases p.find? i.userId with
      | none => exact ⟨rfl, rfl⟩
      | some owner =>
          dsimp only
          split
          · exact ⟨rfl, rfl⟩
          · cases Grant.Draft.make owner.id (i.applyDate.getD clock.date) i.expireDate
              i.capabilityIds lifetimeDays with
            | error e => exact ⟨rfl, rfl⟩
            | ok d =>
                dsimp only
                split
                · obtain ⟨hanswer, hstore⟩ := hcreate d
                  rcases hs : Store.createGrant ⟨p, k, c, gs, l, n⟩ d with ⟨x, u⟩
                  rcases ht : Store.createGrant ⟨p, k, c, gs, l', n⟩ d with ⟨y, v⟩
                  rw [hs, ht] at hanswer hstore
                  cases hanswer
                  cases x with
                  | error e => exact ⟨rfl, hstore⟩
                  | ok q => exact ⟨rfl, hstore⟩
                · exact ⟨rfl, rfl⟩
  | update id forceRevoke =>
      simp only [atOnce]
      cases gs.find? id with
      | none => exact ⟨rfl, rfl⟩
      | some q =>
          dsimp only
          split
          · cases forceRevoke with
            | false => exact ⟨rfl, rfl⟩
            | true => exact ⟨rfl, rfl⟩
          · exact ⟨rfl, rfl⟩
  | delete id =>
      simp only [atOnce]
      cases gs.find? id with
      | none => exact ⟨rfl, rfl⟩
      | some q =>
          dsimp only
          split
          · exact ⟨rfl, rfl⟩
          · exact ⟨rfl, rfl⟩
  | sweep => exact ⟨rfl, rfl⟩
  | get id =>
      simp only [atOnce]
      cases gs.find? id with
      | none => exact ⟨rfl, rfl⟩
      | some q => exact ⟨rfl, rfl⟩

/-- A revocation whose grant goes away with the next answer comes too late already. -/
theorem GrantService.atOnce_of_lost {now : Instant} {r : Request} (hwatches : g.Watches s)
    (hlost : ¬ g.Watches (s.answer now r).2) :
    g.atOnce lifetimeDays clock s = (.error .invalidStateTransition, s) := by
  obtain ⟨id, hid, hgone⟩ : ∃ id, g.watched? = some id ∧
      (s.answer now r).2.grants.find? id = none := by
    by_contra hnone
    refine hlost fun id hid hgone => hnone ⟨id, hid, hgone⟩
  obtain ⟨q, hq⟩ := Option.ne_none_iff_exists'.1 (hwatches id hid)
  -- only an inactive grant can go, so the revocation would be refused already
  have hended : q.status clock.date ≠ .active :=
    Grant.status_of_inactive (Store.inactive_of_gone hq hgone) clock.date
  cases g with
  | update id' forceRevoke =>
      cases forceRevoke with
      | true =>
          cases hid
          simp only [atOnce, hq, if_neg hended]
      | false => cases hid
  | _ => cases hid

end AtOnce

/-! ### What can be done once only -/

/-- A revocation or a deletion of a grant can no longer succeed. -/
def GrantService.Spent (g : GrantService) (s : Store) : Prop :=
  match g with
  | .update id true => id.value ≤ s.grantCount ∧
      ∀ q, s.grants.find? id = some q → q.forceTerminateAt.isSome = true
  | .delete id => id.value ≤ s.grantCount ∧ s.grants.find? id = none
  | _ => False

namespace GrantService.Spent

variable {lifetimeDays : Nat} {clock : Instant} {g : GrantService} {s t : Store}

theorem later (h : g.Spent s) (hlater : s.Later t) : g.Spent t := by
  unfold GrantService.Spent at h ⊢
  split at h
  · obtain ⟨hcount, hforced⟩ := h
    refine ⟨Int.le_trans hcount hlater.grantCount, fun q hq => ?_⟩
    obtain ⟨q', hq', hfollows⟩ := hlater.grants _ q hcount hq
    exact hfollows.forced (hforced q' hq')
  · exact ⟨Int.le_trans h.1 hlater.grantCount, hlater.absent h.1 h.2⟩
  · exact h.elim

theorem not_ok (h : g.Spent s) (v : g.Value) : (g.atOnce lifetimeDays clock s).1 ≠ .ok v := by
  unfold GrantService.Spent at h
  split at h
  · simp only [atOnce]
    split
    · intro h
      cases h
    · next q hq =>
        rw [if_neg (Grant.status_of_forced (h.2 q hq) clock.date)]
        intro h
        cases h
  · simp only [atOnce, h.2]
    intro h
    cases h
  · exact h.elim

/-- A revocation or a deletion that succeeds is spent afterwards. -/
theorem of_ok (hs : s.WellFiled) {id : GrantId} (hg : g = .update id true ∨ g = .delete id)
    {v : g.Value} (hv : (g.atOnce lifetimeDays clock s).1 = .ok v) :
    g.Spent (g.atOnce lifetimeDays clock s).2 := by
  obtain rfl | rfl := hg
  · simp only [atOnce] at hv ⊢
    cases hq : s.grants.find? id with
    | none =>
        rw [hq] at hv
        cases hv
    | some q =>
        rw [hq] at hv
        dsimp only at hv ⊢
        split at hv
        · next hactive =>
            rw [if_pos hactive, if_pos trivial]
            refine ⟨hs.grant_le id q hq, fun q' hq' => ?_⟩
            dsimp only at hq'
            rw [Shelf.find?_insert, if_pos rfl] at hq'
            cases hq'
            rfl
        · cases hv
  · simp only [atOnce] at hv ⊢
    cases hq : s.grants.find? id with
    | none =>
        rw [hq] at hv
        cases hv
    | some q =>
        rw [hq] at hv
        dsimp only at hv ⊢
        split at hv
        · cases hv
        · next hinactive =>
            rw [if_neg hinactive]
            refine ⟨hs.grant_le id q hq, ?_⟩
            dsimp only
            rw [Shelf.find?_erase, if_pos rfl]

end GrantService.Spent

theorem Store.kind_of_capabilitiesOf {s : Store} {ids : List CapabilityId} {e : AppError}
    (h : s.capabilitiesOf ids = .error e) : e.kind = .validation := by
  induction ids with
  | nil => cases h
  | cons id ids ih =>
      rw [capabilitiesOf] at h
      split at h
      · cases h
        rfl
      · split at h
        · next e' he' =>
            cases h
            exact ih he'
        · cases h

theorem Store.kind_of_createGrant {s t : Store} {d : Grant.Draft} {e : AppError}
    (h : s.createGrant d = (.error e, t)) : e.kind = .validation := by
  unfold createGrant at h
  split at h
  · next hcs =>
      cases h
      exact kind_of_capabilitiesOf hcs
  · cases h

/-- **No call ends as a conflict.**  A deletion that another change came before never finds the
grant again. -/
theorem GrantService.atOnce_ne_conflict (lifetimeDays : Nat) (clock : Instant) (g : GrantService)
    (s : Store) : (g.atOnce lifetimeDays clock s).1 ≠ .error .conflict := by
  cases g with
  | create i =>
      simp only [atOnce]
      split
      · intro h
        cases h
      · split
        · intro h
          cases h
        · split
          · next e _ =>
              rw [e.kind_eq]
              intro h
              cases h
          · split
            · next d _ _ =>
                split
                · next e t hcreate =>
                    rw [Store.kind_of_createGrant hcreate]
                    intro h
                    cases h
                · intro h
                  cases h
            · intro h
              cases h
  | update id forceRevoke =>
      simp only [atOnce]
      split
      · intro h
        cases h
      · split
        · split
          · intro h
            cases h
          · intro h
            cases h
        · intro h
          cases h
  | delete id =>
      simp only [atOnce]
      split
      · intro h
        cases h
      · split
        · intro h
          cases h
        · intro h
          cases h
  | sweep =>
      intro h
      cases h
  | get id =>
      simp only [atOnce]
      split
      · intro h
        cases h
      · intro h
        cases h

end TableAccess
