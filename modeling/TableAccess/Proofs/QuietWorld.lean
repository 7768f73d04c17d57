/-
**A store that answers every request.**

When nothing is prepared to go wrong, the store answers each request at once and a sequence of calls
goes on with what it says.

Main results:

* `World.answer_quiet` — the answer is that of the store;
* `World.call_resume_quiet`, `World.call_read_quiet` — a sequence goes on with the value;
* `World.call_requireActive` — a sequence goes on for an active principal only;
* `World.script_call` — nothing is prepared later, either.
-/
import TableAccess.Proofs.Faults

set_option relaxedAutoImplicit false
set_option autoImplicit false

namespace TableAccess

/-- A script without cues has none left when one would have been used up. -/
@[simp] theorem Script.advance_empty (port : Port) : Script.empty.advance port = .empty := by
  funext q
  unfold Script.advance
  split <;> rfl

namespace World

variable {α : Type} {w : World}

theorem advance_of_empty (hw : w.script = .empty) (port : Port) :
    { w with script := w.script.advance port } = w := by
  rw [hw, Script.advance_empty, ← hw]

theorem answer_quiet (hw : w.script = .empty) (r : Request) :
    w.answer r = ((w.store.answer w.wall r).1,
      { w with store := (w.store.answer w.wall r).2 }) := by
  simp only [answer, hw, Script.advance_empty]
  rfl

theorem call_ask_quiet (hw : w.script = .empty) (r : Request) (next : r.Answer → Calls α) :
    w.call (.ask (.store r) next) =
      World.call { w with store := (w.store.answer w.wall r).2 }
        (next (w.store.answer w.wall r).1) := by
  rw [call_ask, reply, answer_quiet hw]

/-- A sequence goes on with what the store answers. -/
theorem call_resume_quiet (hw : w.script = .empty) {r : Request} {v : r.Value}
    (hv : (w.store.answer w.wall r).1 = .ok v) (k : r.Value → Service α) :
    w.call (.ask (.store r) (Service.resume k)) =
      World.call { w with store := (w.store.answer w.wall r).2 } (k v).run := by
  rw [call_ask_quiet hw, hv]
  rfl

/-- A sequence goes on in the same world after something was read. -/
theorem call_read_quiet (hw : w.script = .empty) {r : Request} {v : r.Value}
    (hr : r.changes? = none) (hv : (w.store.answer w.wall r).1 = .ok v) (k : r.Value → Service α) :
    w.call (.ask (.store r) (Service.resume k)) = w.call (k v).run := by
  rw [call_resume_quiet hw hv, Store.answer_of_reads hr]

/-- **A sequence goes on for an active principal only**, and ends in the same world for a user who
is not there or not active. -/
theorem call_requireActive {β : Type} (hw : w.script = .empty) (u : UserId)
    (refusal : Principal → AppError) (rest : Principal → β → Service α)
    (next : Principal → Service α) :
    w.call (requirePrincipal u >>= fun p =>
        if !p.active then Service.refuse (refusal p) >>= rest p else next p).run =
      (w.store.principals.find? u).elim (.error (userNotFound u), w) fun p =>
        if p.active then w.call (next p).run else (.error (refusal p), w) := by
  have hprincipal : (w.store.answer w.wall (.findPrincipal u)).1 =
      .ok (w.store.principals.find? u) := rfl
  rw [Service.run_requirePrincipal_bind, call_read_quiet hw rfl hprincipal,
    Service.run_orRefuse_bind]
  cases w.store.principals.find? u with
  | none => rfl
  | some p =>
      rw [Option.elim_some, Option.elim_some]
      cases p.active <;> rfl

theorem script_call (hw : w.script = .empty) (d : Calls α) : (w.call d).2.script = .empty := by
  refine call_keeps_world (Q := fun v => v.script = .empty) (fun c v hv => ?_) hw d
  cases c with
  | store r =>
      rw [reply, answer_quiet hv]
      exact hv
  | _ => exact hv

end World

end TableAccess
