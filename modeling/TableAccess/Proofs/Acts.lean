/-
**What happens to a store.**

From its creation on a store is filled and asked, in any order and by anybody.  One thing happens
after the other, since every request is answered at one moment; so a run is a list of such acts, and
what holds after every run is settled act by act.  A run is also where things are counted: each act
contributes to a count what it makes of the store that it meets.

Main definitions:

* `Store.Act`, `Store.act`, `Store.acts` — the acts, and the store after one and after several;
* `Store.GrantStep` — what an act can make of the grants of a store;
* `Store.total` — what the acts of a run contribute to a count.

Main results:

* `Store.acts_keeps` — what every act keeps, every run keeps;
* `Store.act_grantStep` — an act leaves the grants alone, or makes one of four changes;
* `Store.Reached.acts` — a run leads from a state that can be reached to another;
* `Store.total_balance` — a measure that is balanced by every act is balanced by every run.
-/
import TableAccess.Proofs.Reached

set_option relaxedAutoImplicit false
set_option autoImplicit false

namespace TableAccess

namespace Store

/-! ### Acts -/

/-- One thing that happens to a store: it is filled, or it answers a request. -/
inductive Act where
  | putPrincipal (p : Principal)
  | putKey (now : Instant) (user : UserId) (key : AccessKey)
  | putCapability (id : CapabilityId) (resource : String)
  | serve (now : Instant) (request : Request)

def act (s : Store) : Act → Store
  | .putPrincipal p => s.putPrincipal p
  | .putKey now u k => s.putKey now u k
  | .putCapability id resource => s.putCapability id resource
  | .serve now r => (s.answer now r).2

/-- The store after several acts, one after the other. -/
def acts (as : List Act) (s : Store) : Store := as.foldl act s

variable {s : Store} {a : Act}

@[simp] theorem acts_nil (s : Store) : acts [] s = s := rfl

@[simp] theorem acts_cons (a : Act) (as : List Act) (s : Store) :
    acts (a :: as) s = acts as (s.act a) := rfl

theorem acts_append (as bs : List Act) (s : Store) : acts (as ++ bs) s = acts bs (acts as s) :=
  List.foldl_append ..

/-- **What every act keeps, every run keeps**, when the acts are of the kind that keeps it. -/
theorem acts_keeps {P : Store → Prop} {Q : Act → Prop} (hstep : ∀ a s, Q a → P s → P (s.act a))
    {as : List Act} (has : ∀ a ∈ as, Q a) (hs : P s) : P (acts as s) := by
  induction as generalizing s with
  | nil => exact hs
  | cons a as ih =>
      have ha := has a (List.mem_cons_self ..)
      exact ih (fun b hb => has b (List.mem_cons_of_mem _ hb)) (hstep a s ha hs)

theorem Reached.act (hs : s.Reached) (a : Act) : (s.act a).Reached := by
  cases a with
  | putPrincipal p => exact .putPrincipal p hs
  | putKey now u k => exact .putKey now u k hs
  | putCapability id resource => exact .putCapability id resource hs
  | serve now r => exact .answer now r hs

/-- **A run leads from a state that can be reached to another.** -/
theorem Reached.acts (hs : s.Reached) (as : List Act) : (acts as s).Reached :=
  acts_keeps (Q := fun _ => True) (fun a _ _ hs => hs.act a) (fun _ _ => trivial) hs

/-! ### What an act makes of grants -/

/-- The act does nothing to grants: it is about something else, or its answer says so. -/
def Act.Idle (s : Store) : Act → Prop
  | .serve _ (.createGrant d _) => ∃ e, (s.createGrant d).1 = .error e
  | .serve _ (.forceRevokeGrant id t _) => (s.forceRevokeGrant id t).1 = none
  | .serve _ (.deleteInactiveGrant id) => (s.deleteInactiveGrant id).1 = false
  | .serve _ (.deactivateExpired _) => False
  | _ => True

/-- What an act can make of the grants of a store. -/
inductive GrantStep (s : Store) : Act → Store → Prop
  | idle {a : Act} {t : Store} (hidle : a.Idle s) (hgrants : t.grants = s.grants)
      (hcount : t.grantCount = s.grantCount) : GrantStep s a t
  | create {now : Instant} {d : Grant.Draft} {c : UserId} {cs : List Capability}
      (hcs : s.capabilitiesOf d.capabilityIds.toList = .ok cs) :
      GrantStep s (.serve now (.createGrant d c))
        { s with
          grants := s.grants.insert ⟨s.grantCount + 1⟩
            ⟨⟨s.grantCount + 1⟩, d.userId, d.applyDate, d.expireDate, none, true, cs⟩
          grantCount := s.grantCount + 1 }
  | revoke {now : Instant} {id : GrantId} {t : Instant} {c : UserId} {g : Grant}
      (hg : s.grants.find? id = some g) (hactive : g.status t.date = .active) :
      GrantStep s (.serve now (.forceRevokeGrant id t c))
        { s with grants := s.grants.insert id (g.revoked t) }
  | delete {now : Instant} {id : GrantId} {g : Grant} (hg : s.grants.find? id = some g)
      (hinactive : g.isActive = false) :
      GrantStep s (.serve now (.deleteInactiveGrant id)) { s with grants := s.grants.erase id }
  | sweep {now : Instant} {today : Date} :
      GrantStep s (.serve now (.deactivateExpired today))
        { s with grants := s.grants.mapValues fun g => g.markExpired today }

/-- **An act leaves the grants alone, or makes one of four changes.** -/
theorem act_grantStep (s : Store) (a : Act) : GrantStep s a (s.act a) := by
  cases a with
  | serve now r =>
      by_cases hr : r.changes? = some .grants
      · cases r with
        | createGrant d c =>
            obtain ⟨e, he⟩ | ⟨cs, hcs, he⟩ := s.createGrant_cases d
            · rw [act, answer, he]
              exact .idle ⟨e, congrArg Prod.fst he⟩ rfl rfl
            · rw [act, answer, he]
              exact .create hcs
        | forceRevokeGrant id t c =>
            obtain ⟨-, he⟩ | ⟨g, hg, hactive, he⟩ := s.forceRevokeGrant_cases id t
            · rw [act, answer, he]
              exact .idle (congrArg Prod.fst he) rfl rfl
            · rw [act, answer, he]
              exact .revoke hg hactive
        | deleteInactiveGrant id =>
            obtain ⟨-, he⟩ | ⟨g, hg, hinactive, he⟩ := s.deleteInactiveGrant_cases id
            · rw [act, answer, he]
              exact .idle (congrArg Prod.fst he) rfl rfl
            · rw [act, answer, he]
              exact .delete hg hinactive
        | deactivateExpired today => exact .sweep
        | _ => cases hr
      · have hkept : (s.answer now r).2.grants = s.grants ∧
            (s.answer now r).2.grantCount = s.grantCount := answer_grants hr
        refine .idle ?_ hkept.1 hkept.2
        cases r with
        | createGrant d c => exact absurd rfl hr
        | forceRevokeGrant id t c => exact absurd rfl hr
        | deleteInactiveGrant id => exact absurd rfl hr
        | deactivateExpired today => exact absurd rfl hr
        | _ => trivial
  | _ => exact .idle trivial rfl rfl

/-! ### Counting along a run -/

/-- What the acts of a run contribute to a count; a contribution depends on the store that the act
meets. -/
def total (f : Store → Act → Nat) : List Act → Store → Nat
  | [], _ => 0
  | a :: as, s => f s a + total f as (s.act a)

theorem total_append (f : Store → Act → Nat) (as bs : List Act) (s : Store) :
    total f (as ++ bs) s = total f as s + total f bs (acts as s) := by
  induction as generalizing s with
  | nil => simp [total]
  | cons a as ih =>
      rw [List.cons_append, total, total, ih, acts_cons]
      omega

theorem total_add (f g : Store → Act → Nat) (as : List Act) (s : Store) :
    total (fun s a => f s a + g s a) as s = total f as s + total g as s := by
  induction as generalizing s with
  | nil => rfl
  | cons a as ih =>
      rw [total, total, total, ih]
      omega

/-- Two counts agree when every act contributes the same to both. -/
theorem total_congr {f g : Store → Act → Nat} (h : ∀ s a, f s a = g s a) (as : List Act)
    (s : Store) : total f as s = total g as s := by
  rw [funext fun s => funext (h s)]

/-- **A measure that is balanced by every act is balanced by every run**: what it was in the
beginning and what was gained is what it is in the end and what was lost. -/
theorem total_balance {m : Store → Nat} {gain loss : Store → Act → Nat}
    (hstep : ∀ s a, s.Reached → m (s.act a) + loss s a = m s + gain s a) (as : List Act)
    (hs : s.Reached) : m (acts as s) + total loss as s = m s + total gain as s := by
  induction as generalizing s with
  | nil => rfl
  | cons a as ih =>
      have hrest := ih (hs.act a)
      have ha := hstep s a hs
      rw [acts_cons, total, total]
      omega

end Store

end TableAccess
