/-
**The states a store can reach.**

A store starts empty.  It is filled with principals, keys and capabilities, and from then on it
changes only by the requests that arrive.  In every state it can reach, things are filed under their
own identifiers and no grant has a number that was not given out yet.

Main definitions:

* `Store.Reached` — the states a store can reach;
* `Store.WellFiled` — principals and grants are filed under their identifiers, and the numbers of
  grants do not exceed the last one given out.

Main results:

* `Store.WellFiled.answer` — a request keeps things well filed;
* `Store.Reached.wellFiled` — every state that is reached is well filed.
-/
import TableAccess.Proofs.Serving

set_option relaxedAutoImplicit false
set_option autoImplicit false

namespace TableAccess

namespace Store

/-- The states that a store can reach, starting from the empty one. -/
inductive Reached : Store → Prop
  | empty : Reached .empty
  | putPrincipal {s : Store} (p : Principal) : Reached s → Reached (s.putPrincipal p)
  | putKey {s : Store} (now : Instant) (u : UserId) (k : AccessKey) :
      Reached s → Reached (s.putKey now u k)
  | putCapability {s : Store} (id : CapabilityId) (resource : String) :
      Reached s → Reached (s.putCapability id resource)
  | answer {s : Store} (now : Instant) (r : Request) : Reached s → Reached (s.answer now r).2

/-- Principals and grants are filed under their own identifiers, and grants only under numbers that
were given out. -/
structure WellFiled (s : Store) : Prop where
  principal_id : ∀ u p, s.principals.find? u = some p → p.id = u
  grant_id : ∀ i g, s.grants.find? i = some g → g.id = i
  grant_le : ∀ i g, s.grants.find? i = some g → i.value ≤ s.grantCount

namespace WellFiled

variable {s : Store}

/-- Changing one grant in place, or storing one under the next number, keeps grants well filed. -/
theorem insertGrant (h : s.WellFiled) {i : GrantId} {g : Grant} {n : Int} (hid : g.id = i)
    (hi : i.value ≤ n) (hn : s.grantCount ≤ n) :
    WellFiled { s with grants := s.grants.insert i g, grantCount := n } := by
  refine ⟨h.principal_id, fun j q hq => ?_, fun j q hq => ?_⟩
  · rw [Shelf.find?_insert] at hq
    split at hq
    · next hij =>
        cases hq
        rw [hid, hij]
    · exact h.grant_id j q hq
  · rw [Shelf.find?_insert] at hq
    split at hq
    · next hij =>
        subst hij
        exact hi
    · exact Int.le_trans (h.grant_le j q hq) hn

theorem answer (h : s.WellFiled) (now : Instant) (r : Request) : (s.answer now r).2.WellFiled := by
  by_cases hgrants : r.changes? = some .grants
  · cases r with
    | createGrant d c =>
        obtain ⟨e, he⟩ | ⟨cs, -, he⟩ := s.createGrant_cases d
        · rw [Store.answer, he]
          exact h
        · rw [Store.answer, he]
          exact h.insertGrant rfl (Int.le_refl _) (by omega)
    | forceRevokeGrant id t c =>
        obtain ⟨-, he⟩ | ⟨g, hg, -, he⟩ := s.forceRevokeGrant_cases id t
        · rw [Store.answer, he]
          exact h
        · rw [Store.answer, he]
          exact h.insertGrant (h.grant_id id g hg) (h.grant_le id g hg) (Int.le_refl _)
    | deleteInactiveGrant id =>
        obtain ⟨-, he⟩ | ⟨g, -, -, he⟩ := s.deleteInactiveGrant_cases id
        · rw [Store.answer, he]
          exact h
        · rw [Store.answer, he]
          have hle : ∀ j q, (s.grants.erase id).find? j = some q → s.grants.find? j = some q := by
            intro j q hq
            rw [Shelf.find?_erase] at hq
            split at hq
            · cases hq
            · exact hq
          exact ⟨h.principal_id, fun j q hq => h.grant_id j q (hle j q hq),
            fun j q hq => h.grant_le j q (hle j q hq)⟩
    | deactivateExpired today =>
        have hmap : ∀ j q, (s.grants.mapValues fun g => g.markExpired today).find? j = some q →
            ∃ g, s.grants.find? j = some g ∧ g.id = q.id := by
          intro j q hq
          rw [Shelf.find?_mapValues] at hq
          obtain ⟨g, hg, rfl⟩ := Option.map_eq_some_iff.1 hq
          exact ⟨g, hg, by unfold Grant.markExpired; split <;> rfl⟩
        refine ⟨h.principal_id, fun j q hq => ?_, fun j q hq => ?_⟩
        · obtain ⟨g, hg, hid⟩ := hmap j q hq
          rw [← hid, h.grant_id j g hg]
        · obtain ⟨g, hg, -⟩ := hmap j q hq
          exact h.grant_le j g hg
    | _ => cases hgrants
  · obtain ⟨hg, hn⟩ : (s.answer now r).2.grants = s.grants ∧
        (s.answer now r).2.grantCount = s.grantCount := answer_grants hgrants
    constructor
    · rw [answer_principals]
      exact h.principal_id
    · rw [hg]
      exact h.grant_id
    · rw [hg, hn]
      exact h.grant_le

end WellFiled

/-- **Every state that is reached is well filed.** -/
theorem Reached.wellFiled {s : Store} (h : s.Reached) : s.WellFiled := by
  induction h with
  | empty => constructor <;> intro i g hg <;> cases hg
  | putPrincipal p _ ih =>
      refine ⟨fun u q hq => ?_, ih.grant_id, ih.grant_le⟩
      rw [Store.putPrincipal, Shelf.find?_insert] at hq
      split at hq
      · next hpu =>
          cases hq
          exact hpu
      · exact ih.principal_id u q hq
  | putKey now u k _ ih => exact ⟨ih.principal_id, ih.grant_id, ih.grant_le⟩
  | putCapability id resource _ ih => exact ⟨ih.principal_id, ih.grant_id, ih.grant_le⟩
  | answer now r _ ih => exact ih.answer now r

end Store

end TableAccess
