/-
**What can become of a grant.**

Once stored, a grant keeps its owner, its dates and its capabilities.  It can only end: it is
recorded as inactive, perhaps as revoked, and after that it may be deleted, and neither is ever
undone.  Numbers are not given out twice, so a grant that is gone stays gone.

Main definitions:

* `Grant.Follows` — a later state of one grant;
* `Store.Later` — what requests can make of a store, as far as grants are concerned.

Main results:

* `Store.later_answer` — every request leads to a later store;
* `Store.Later.absent` — a grant that is gone stays gone;
* `Store.inactive_of_gone` — only an inactive grant can go.
-/
import TableAccess.Proofs.Reached

set_option relaxedAutoImplicit false
set_option autoImplicit false

namespace TableAccess

/-! ### One grant -/

/-- A grant is a later state of another: the same grant, which may have ended meanwhile. -/
structure Grant.Follows (g' g : Grant) : Prop where
  id : g'.id = g.id
  userId : g'.userId = g.userId
  applyDate : g'.applyDate = g.applyDate
  expireDate : g'.expireDate = g.expireDate
  capabilities : g'.capabilities = g.capabilities
  /-- What is inactive stays inactive. -/
  inactive : g.isActive = false → g'.isActive = false
  /-- A revocation is kept as it is. -/
  forced : g.forceTerminateAt.isSome → g'.forceTerminateAt.isSome

namespace Grant.Follows

theorem refl (g : Grant) : g.Follows g := ⟨rfl, rfl, rfl, rfl, rfl, fun h => h, fun h => h⟩

theorem trans {g₁ g₂ g₃ : Grant} (h : g₃.Follows g₂) (h' : g₂.Follows g₁) : g₃.Follows g₁ :=
  ⟨h.id.trans h'.id, h.userId.trans h'.userId, h.applyDate.trans h'.applyDate,
    h.expireDate.trans h'.expireDate, h.capabilities.trans h'.capabilities,
    fun ha => h.inactive (h'.inactive ha), fun hf => h.forced (h'.forced hf)⟩

theorem revoked (g : Grant) (t : Instant) : (g.revoked t).Follows g :=
  ⟨rfl, rfl, rfl, rfl, rfl, fun _ => rfl, fun _ => rfl⟩

theorem markExpired (g : Grant) (today : Date) : (g.markExpired today).Follows g := by
  unfold Grant.markExpired
  split
  · exact ⟨rfl, rfl, rfl, rfl, rfl, fun _ => rfl, fun h => h⟩
  · exact refl g

end Grant.Follows

theorem Grant.status_of_inactive {g : Grant} (h : g.isActive = false) (today : Date) :
    g.status today ≠ .active := by
  unfold Grant.status
  split
  · intro h
    cases h
  · simp [h]

theorem Grant.status_of_forced {g : Grant} (h : g.forceTerminateAt.isSome) (today : Date) :
    g.status today ≠ .active := by
  rw [Grant.status, if_pos h]
  intro h
  cases h

/-! ### A store after a while -/

namespace Store

/-- What requests can make of a store, as far as grants are concerned: those whose numbers were
given out before may be gone, and otherwise they are later states of what they were. -/
structure Later (s t : Store) : Prop where
  principals : t.principals = s.principals
  capabilities : t.capabilities = s.capabilities
  grantCount : s.grantCount ≤ t.grantCount
  grants : ∀ id g', id.value ≤ s.grantCount → t.grants.find? id = some g' →
    ∃ g, s.grants.find? id = some g ∧ g'.Follows g

namespace Later

variable {s t u : Store}

theorem refl (s : Store) : s.Later s :=
  ⟨rfl, rfl, Int.le_refl _, fun _ g' _ hg => ⟨g', hg, .refl g'⟩⟩

theorem trans (h : s.Later t) (h' : t.Later u) : s.Later u := by
  refine ⟨h'.principals.trans h.principals, h'.capabilities.trans h.capabilities,
    Int.le_trans h.grantCount h'.grantCount, fun id g₃ hid hg₃ => ?_⟩
  obtain ⟨g₂, hg₂, hfollows⟩ := h'.grants id g₃ (Int.le_trans hid h.grantCount) hg₃
  obtain ⟨g₁, hg₁, hfollows'⟩ := h.grants id g₂ hid hg₂
  exact ⟨g₁, hg₁, hfollows.trans hfollows'⟩

/-- **A grant that is gone stays gone.** -/
theorem absent (h : s.Later t) {id : GrantId} (hid : id.value ≤ s.grantCount)
    (hs : s.grants.find? id = none) : t.grants.find? id = none := by
  cases ht : t.grants.find? id with
  | none => rfl
  | some g' =>
      obtain ⟨g, hg, -⟩ := h.grants id g' hid ht
      cases hs.symm.trans hg

theorem of_withoutLog_eq (h : s.withoutLog = t.withoutLog) : s.Later t := by
  obtain ⟨hprincipals, -, hcapabilities, hgrants, hcount⟩ := withoutLog_eq_iff.1 h
  refine ⟨hprincipals.symm, hcapabilities.symm, Int.le_of_eq hcount, fun id g' _ hg => ?_⟩
  exact ⟨g', hgrants ▸ hg, .refl g'⟩

theorem insert_follows {id : GrantId} {g g' : Grant} (hg : s.grants.find? id = some g)
    (h : g'.Follows g) : s.Later { s with grants := s.grants.insert id g' } := by
  refine ⟨rfl, rfl, Int.le_refl _, fun j q _ hq => ?_⟩
  rw [Shelf.find?_insert] at hq
  split at hq
  · next hij =>
      cases hq
      exact ⟨g, hij ▸ hg, h⟩
  · exact ⟨q, hq, .refl q⟩

end Later

variable {s : Store}

/-- **Every request leads to a later store.** -/
theorem later_answer (now : Instant) (r : Request) (s : Store) : s.Later (s.answer now r).2 := by
  -- only the requests that change grants need to be looked at, one by one
  by_cases hr : r.changes? = some .grants
  · cases r with
    | createGrant d c =>
        obtain ⟨e, he⟩ | ⟨cs, -, he⟩ := s.createGrant_cases d
        · rw [answer, he]
          exact .refl s
        · rw [answer, he]
          refine ⟨rfl, rfl, by dsimp only; omega, fun j q hj hq => ?_⟩
          rw [Shelf.find?_insert] at hq
          split at hq
          · next hij =>
              -- the new number is larger than those given out before
              subst hij
              dsimp only at hj
              omega
          · exact ⟨q, hq, .refl q⟩
    | forceRevokeGrant id t c =>
        obtain ⟨-, he⟩ | ⟨g, hg, -, he⟩ := s.forceRevokeGrant_cases id t
        · rw [answer, he]
          exact .refl s
        · rw [answer, he]
          exact .insert_follows hg (.revoked g t)
    | deleteInactiveGrant id =>
        obtain ⟨-, he⟩ | ⟨g, -, -, he⟩ := s.deleteInactiveGrant_cases id
        · rw [answer, he]
          exact .refl s
        · rw [answer, he]
          refine ⟨rfl, rfl, Int.le_refl _, fun j q _ hq => ?_⟩
          rw [Shelf.find?_erase] at hq
          split at hq
          · cases hq
          · exact ⟨q, hq, .refl q⟩
    | deactivateExpired today =>
        refine ⟨rfl, rfl, Int.le_refl _, fun j q _ hq => ?_⟩
        rw [answer, sweep, Shelf.find?_mapValues] at hq
        obtain ⟨g, hg, rfl⟩ := Option.map_eq_some_iff.1 hq
        exact ⟨g, hg, .markExpired g today⟩
    | _ => cases hr
  · obtain ⟨hgrants, hcount⟩ : (s.answer now r).2.grants = s.grants ∧
        (s.answer now r).2.grantCount = s.grantCount := answer_grants hr
    refine ⟨answer_principals now r s, answer_capabilities now r s, Int.le_of_eq hcount.symm, ?_⟩
    intro id g' _ hg
    exact ⟨g', hgrants ▸ hg, .refl g'⟩

/-- **Only an inactive grant can go.** -/
theorem inactive_of_gone {now : Instant} {r : Request} {id : GrantId} {g : Grant}
    (hg : s.grants.find? id = some g) (hgone : (s.answer now r).2.grants.find? id = none) :
    g.isActive = false := by
  by_cases hr : r.changes? = some .grants
  · cases r with
    | createGrant d c =>
        obtain ⟨e, he⟩ | ⟨cs, -, he⟩ := s.createGrant_cases d
        · rw [answer, he, hg] at hgone
          cases hgone
        · rw [answer, he, Shelf.find?_insert] at hgone
          split at hgone
          · cases hgone
          · cases hgone.symm.trans hg
    | forceRevokeGrant j t c =>
        obtain ⟨-, he⟩ | ⟨q, -, -, he⟩ := s.forceRevokeGrant_cases j t
        · rw [answer, he, hg] at hgone
          cases hgone
        · rw [answer, he, Shelf.find?_insert] at hgone
          split at hgone
          · cases hgone
          · cases hgone.symm.trans hg
    | deleteInactiveGrant j =>
        obtain ⟨-, he⟩ | ⟨q, hq, hinactive, he⟩ := s.deleteInactiveGrant_cases j
        · rw [answer, he, hg] at hgone
          cases hgone
        · rw [answer, he, Shelf.find?_erase] at hgone
          split at hgone
          · next hij =>
              rw [hij, hg] at hq
              cases hq
              exact hinactive
          · cases hgone.symm.trans hg
    | deactivateExpired today =>
        rw [answer, sweep, Shelf.find?_mapValues, hg] at hgone
        cases hgone
    | _ => cases hr
  · rw [(answer_grants hr).1, hg] at hgone
    cases hgone

end Store

end TableAccess
