/-
**Calls that run side by side.**

Several administrators may call the grant services at once.  The store answers one request at a
time, and between two requests of one call any number of requests of other calls may be answered.
Everything else that a call does is its own business: it reads its own clock, and how long it takes
shows in its audit event only.

Main definitions:

* `GrantService`, `Caller`, `Caller.program` — a call of a grant service, and the requests it makes;
* `Caller.alone` — what a call does when nothing comes between its requests;
* `Session`, `Pool.Step`, `Pool.Run` — calls side by side, in any order of their requests;
* `Event`, `Precedes` — what happened, and which call had ended before another began;
* `Session.inOrder` — whole calls one after the other.

Main results:

* `Precedes.of_snoc` — one more event hardly changes which calls come before which;
* `Session.later_inOrder` — whole calls lead to a later store.
-/
import Mathlib.Logic.Function.Basic
import TableAccess.Proofs.GrantHistory
import TableAccess.Proofs.Operations

set_option relaxedAutoImplicit false
set_option autoImplicit false

namespace TableAccess

/-! ### One call -/

/-- The services that are about grants, one by one. -/
inductive GrantService where
  | create (input : GrantAdministration.CreateInput)
  | update (grant : GrantId) (forceRevoke : Bool)
  | delete (grant : GrantId)
  | sweep
  | get (grant : GrantId)

abbrev GrantService.operation : GrantService → Operation
  | .create input => .createGrant input
  | .update grant forceRevoke => .updateGrant grant forceRevoke
  | .delete grant => .deleteGrant grant
  | .sweep => .sweepGrants
  | .get grant => .getGrant grant

abbrev GrantService.Value (g : GrantService) : Type := g.operation.Value

/-- An administrator who calls a service, reads a clock, and takes some time. -/
structure Caller where
  actor : Principal
  active : actor.active = true
  admin : actor.isAdmin = true
  clock : Instant
  elapsed : Nat

/-- Requests that end with an outcome. -/
abbrev Program (α : Type) := Dialogue Request Request.Answer (Outcome α)

namespace Caller

variable {α : Type}

/-- What a call settles without the store.  Grant services draw no keys. -/
def settle (c : Caller) : (q : Call) → Dialogue Request Request.Answer q.Reply
  | .store r => .query r
  | .now => .done c.clock
  | .newKey => .done (.ofRandom 0)
  | .elapsed => .done c.elapsed

/-- The requests of some calls for a store and other things. -/
def expand (c : Caller) (d : Calls α) : Dialogue Request Request.Answer α :=
  Dialogue.expand c.settle d

theorem isAllowed (c : Caller) : (c.actor.active && c.actor.isAdmin) = true := by
  rw [c.active, c.admin]
  rfl

/-- The requests that a call of a service makes, with the number of days that grants last. -/
def program (lifetimeDays : Nat) (c : Caller) (g : GrantService) : Program g.Value :=
  c.expand (g.operation.service lifetimeDays c.actor).run

/-- What a call does when nothing comes between its requests. -/
def alone (lifetimeDays : Nat) (wall : Instant) (c : Caller) (g : GrantService) (s : Store) :
    Outcome g.Value × Store :=
  (c.program lifetimeDays g).run (Store.answer wall) s

@[simp] theorem expand_now (c : Caller) (next : Instant → Calls α) :
    c.expand (.ask .now next) = c.expand (next c.clock) := rfl

end Caller

/-! ### Calls side by side -/

/-- The calls that run side by side, and the number of days that grants last. -/
structure Session (n : Nat) where
  lifetimeDays : Nat
  caller : Fin n → Caller
  service : Fin n → GrantService

/-- The store, and the requests that each of the calls has still to make. -/
structure Pool {n : Nat} (σ : Session n) where
  store : Store
  threads : (i : Fin n) → Program (σ.service i).Value

/-- The store was asked by one of the calls, at some time and in some state. -/
structure Event (n : Nat) where
  caller : Fin n
  store : Store
  arrival : Instant
  request : Request

/-- What the store answered. -/
def Event.answer {n : Nat} (e : Event n) : e.request.Answer :=
  (e.store.answer e.arrival e.request).1

namespace Pool

variable {n : Nat} {σ : Session n}

/-- No call has begun yet. -/
def start (σ : Session n) (s : Store) : Pool σ :=
  ⟨s, fun i => (σ.caller i).program σ.lifetimeDays (σ.service i)⟩

/-- One of the calls has its next request answered. -/
inductive Step : Pool σ → Event n → Pool σ → Prop
  | answer (p : Pool σ) (i : Fin n) (now : Instant) (r : Request)
      (next : r.Answer → Program (σ.service i).Value) (h : p.threads i = .ask r next) :
      Step p ⟨i, p.store, now, r⟩
        ⟨(p.store.answer now r).2, Function.update p.threads i (next (p.store.answer now r).1)⟩

/-- Any number of such steps, in any order, with what happened. -/
inductive Run (p : Pool σ) : List (Event n) → Pool σ → Prop
  | nil : Run p [] p
  | snoc {es : List (Event n)} {e : Event n} {q r : Pool σ} :
      Run p es q → Step q e r → Run p (es ++ [e]) r

theorem Run.answer {p q : Pool σ} {es : List (Event n)} (h : p.Run es q) (i : Fin n) (now : Instant)
    {r : Request} {next : r.Answer → Program (σ.service i).Value} (hi : q.threads i = .ask r next) :
    p.Run (es ++ [⟨i, q.store, now, r⟩])
      ⟨(q.store.answer now r).2, Function.update q.threads i (next (q.store.answer now r).1)⟩ :=
  h.snoc (.answer q i now r next hi)

end Pool

/-! ### Real time -/

section RealTime

variable {n : Nat} {es : List (Event n)} {e : Event n} {i j : Fin n}

/-- A call has made a request. -/
def Begun (es : List (Event n)) (i : Fin n) : Prop := ∃ e ∈ es, e.caller = i

theorem begun_snoc : Begun (es ++ [e]) i ↔ Begun es i ∨ e.caller = i := by
  simp [Begun, or_and_right, exists_or]

/-- A call had its last request answered before another made its first one. -/
def Precedes (es : List (Event n)) (i j : Fin n) : Prop :=
  ∃ before after, es = before ++ after ∧ ¬ Begun after i ∧ ¬ Begun before j

theorem Precedes.of_snoc (h : Precedes (es ++ [e]) i j) :
    ¬ Begun (es ++ [e]) j ∨ (e.caller ≠ i ∧ Precedes es i j) := by
  obtain ⟨before, after, heq, hi, hj⟩ := h
  rcases List.eq_nil_or_concat after with rfl | ⟨after, x, rfl⟩
  · rw [List.append_nil] at heq
    exact .inl (heq ▸ hj)
  · rw [List.concat_eq_append] at hi heq
    rw [← List.append_assoc] at heq
    obtain ⟨hes, hx⟩ := List.append_inj' heq rfl
    cases hx
    rw [begun_snoc, not_or] at hi
    exact .inr ⟨hi.2, before, after, hes, hi.1, hj⟩

end RealTime

/-! ### Whole calls, one after the other -/

/-- A call that nothing comes between leads to a later store, and keeps things well filed. -/
theorem Caller.later_alone (lifetimeDays : Nat) (wall : Instant) (c : Caller) (g : GrantService)
    {s : Store} (hs : s.WellFiled) :
    s.Later (c.alone lifetimeDays wall g s).2 ∧ (c.alone lifetimeDays wall g s).2.WellFiled := by
  rw [alone]
  generalize c.program lifetimeDays g = d
  induction d generalizing s with
  | done a => exact ⟨.refl s, hs⟩
  | ask r next ih =>
      obtain ⟨hlater, hfiled⟩ := ih _ (hs.answer wall r)
      exact ⟨(s.later_answer wall r).trans hlater, hfiled⟩

namespace Session

variable {n : Nat} (σ : Session n) (wall : Instant)

def alone (i : Fin n) (s : Store) : Outcome (σ.service i).Value × Store :=
  (σ.caller i).alone σ.lifetimeDays wall (σ.service i) s

/-- The store after whole calls that come one after the other. -/
def inOrder (order : List (Fin n)) (s : Store) : Store :=
  order.foldl (fun t i => (σ.alone wall i t).2) s

@[simp] theorem inOrder_nil (s : Store) : σ.inOrder wall [] s = s := rfl

@[simp] theorem inOrder_cons (i : Fin n) (order : List (Fin n)) (s : Store) :
    σ.inOrder wall (i :: order) s = σ.inOrder wall order (σ.alone wall i s).2 := rfl

theorem inOrder_append (order order' : List (Fin n)) (s : Store) :
    σ.inOrder wall (order ++ order') s = σ.inOrder wall order' (σ.inOrder wall order s) :=
  List.foldl_append

theorem later_inOrder (order : List (Fin n)) {s : Store} (hs : s.WellFiled) :
    s.Later (σ.inOrder wall order s) ∧ (σ.inOrder wall order s).WellFiled := by
  induction order generalizing s with
  | nil => exact ⟨.refl s, hs⟩
  | cons i order ih =>
      obtain ⟨hlater, hfiled⟩ :=
        (σ.caller i).later_alone σ.lifetimeDays wall (σ.service i) hs
      obtain ⟨hlater', hfiled'⟩ := ih hfiled
      exact ⟨hlater.trans hlater', hfiled'⟩

end Session

end TableAccess
