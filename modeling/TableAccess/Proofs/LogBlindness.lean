/-
**What becomes of an audit event decides nothing.**

Two worlds may differ in their audit logs, and in what happens to the events that are added there.
Calls that do not read the log, and do not look at the answer when they add an event, end in both
worlds in the same way.  Every audited operation makes such calls only.

Main definitions:

* `Dialogue.IgnoresLog` — the calls neither read the log nor look at what became of an event;
* `World.AgreesOffLog` — two worlds differ at most in the audit log and the answers about events.

Main results:

* `World.call_of_ignoresLog` — such calls end in the same way in two such worlds;
* `Operation.ignoresLog` — audited operations make such calls.
-/
import TableAccess.Proofs.CallsMade

set_option relaxedAutoImplicit false
set_option autoImplicit false

namespace TableAccess

/-! ### Calls that ignore the log -/

/-- Whether a call is about the audit log. -/
def Call.isOfLog : Call → Bool
  | .store r => r.isOfLog
  | _ => false

namespace Dialogue

variable {α β : Type}

/-- The calls never read the audit log, and go on in the same way whatever becomes of an event. -/
def IgnoresLog : Calls α → Prop
  | .done _ => True
  | .ask c next => (∀ q, c ≠ .store (.listRecentEntries q)) ∧
      (∀ e, c = .store (.appendEvent e) → ∀ a a', next a = next a') ∧ ∀ a, IgnoresLog (next a)

theorem ignoresLog_ask {c : Call} {next : c.Reply → Calls α} (hc : c.isOfLog = false)
    (hnext : ∀ a, IgnoresLog (next a)) : IgnoresLog (.ask c next) := by
  refine ⟨?_, ?_, hnext⟩
  · rintro q rfl
    cases hc
  · rintro e rfl
    cases hc

theorem IgnoresLog.bind {d : Calls α} (hd : d.IgnoresLog) {f : α → Calls β}
    (hf : ∀ a, (f a).IgnoresLog) : (d >>= f).IgnoresLog := by
  induction d with
  | done a => exact hf a
  | ask c next ih =>
      obtain ⟨hreads, hadds, hnext⟩ := hd
      refine ⟨hreads, fun e he a a' => ?_, fun a => ih a (hnext a)⟩
      exact congrArg (· >>= f) (hadds e he a a')

theorem IgnoresLog.of_asks {d : Calls α} (hd : d.Asks fun r => r.isOfLog = false) :
    d.IgnoresLog := by
  induction d with
  | done a => trivial
  | ask c next ih =>
      refine ignoresLog_ask ?_ fun a => ih a (hd.2 a)
      cases c with
      | store r => exact hd.1 r rfl
      | _ => rfl

end Dialogue

/-- An audited operation ignores the log when its body has nothing to do with it: what became of the
event is never looked at. -/
theorem Service.ignoresLog_audited {α : Type} {action : AuditAction} {actor : Option UserId}
    {records : Json} {body : Service (α × Journal.Extra)}
    (h : body.run.Asks fun r => r.isOfLog = false) :
    (Journal.audited action actor records body).run.IgnoresLog := by
  rw [Journal.run_audited]
  refine (Dialogue.IgnoresLog.of_asks h).bind fun o => ?_
  refine Dialogue.ignoresLog_ask rfl fun ms => ?_
  refine ⟨fun q hq => ?_, fun _ _ _ _ => rfl, fun _ => trivial⟩
  cases hq

/-- **Audited operations ignore the log.** -/
theorem Operation.ignoresLog {op : Operation} (hop : op.changingPort? ≠ none) (lifetimeDays : Nat)
    (actor : Principal) : (op.service lifetimeDays actor).run.IgnoresLog := by
  obtain ⟨audit, body, -, hbody, hservice | hservice⟩ :=
    op.service_eq_audited hop lifetimeDays actor
  · rw [hservice .year1970, Service.run_requireAdmin_bind]
    split
    · exact Service.ignoresLog_audited (hbody _)
    · trivial
  · rw [hservice, Service.run_requireAdmin_bind]
    split
    · rw [Service.run_now_bind]
      exact Dialogue.ignoresLog_ask rfl fun t => Service.ignoresLog_audited (hbody t)
    · trivial

/-! ### Worlds that agree -/

namespace World

/-- Two worlds differ at most in the audit log, and in the prepared answers about events. -/
structure AgreesOffLog (w w' : World) : Prop where
  store : w.store.withoutLog = w'.store.withoutLog
  script : ∀ p, p ≠ .appendEvent → w.script p = w'.script p
  clock : w.clock = w'.clock
  wall : w.wall = w'.wall
  drawn : w.drawn = w'.drawn
  random : w.random = w'.random

namespace AgreesOffLog

variable {w w' : World}

theorem appendEvent (h : w.AgreesOffLog w') (e : AuditEvent) :
    (w.answer (.appendEvent e)).2.AgreesOffLog (w'.answer (.appendEvent e)).2 := by
  have hscript : ∀ p, p ≠ .appendEvent →
      w.script.advance .appendEvent p = w'.script.advance .appendEvent p := by
    intro p hp
    rw [Script.advance, if_neg hp.symm, Script.advance, if_neg hp.symm]
    exact h.script p hp
  have hkeeps : ∀ v : World, (v.answer (.appendEvent e)).2 =
      { v with
        script := v.script.advance .appendEvent
        store := (v.answer (.appendEvent e)).2.store } ∧
      (v.answer (.appendEvent e)).2.store.withoutLog = v.store.withoutLog := by
    intro v
    simp only [answer]
    split <;> exact ⟨rfl, rfl⟩
  obtain ⟨hw, hstore⟩ := hkeeps w
  obtain ⟨hw', hstore'⟩ := hkeeps w'
  rw [hw, hw']
  exact ⟨hstore.trans (h.store.trans hstore'.symm), hscript, h.clock, h.wall, h.drawn, h.random⟩

theorem answer (h : w.AgreesOffLog w') {r : Request} (hr : (Call.store r).isOfLog = false) :
    (w.answer r).1 = (w'.answer r).1 ∧ (w.answer r).2.AgreesOffLog (w'.answer r).2 := by
  obtain ⟨hreads, hadds, -⟩ := Request.off_log hr
  obtain ⟨ha, hs⟩ : (w.store.answer w.wall r).1 = (w'.store.answer w.wall r).1 ∧
      (w.store.answer w.wall r).2.withoutLog = (w'.store.answer w.wall r).2.withoutLog :=
    Store.answer_congr h.store hreads
  have hscript : ∀ p, p ≠ .appendEvent →
      w.script.advance r.port p = w'.script.advance r.port p := by
    intro p hp
    rw [Script.advance, Script.advance, h.script p hp]
  simp only [World.answer, ← h.script r.port hadds, ← h.wall]
  split
  · exact ⟨rfl, h.store, hscript, h.clock, rfl, h.drawn, h.random⟩
  · exact ⟨rfl, h.store, hscript, h.clock, rfl, h.drawn, h.random⟩
  · exact ⟨ha, hs, hscript, h.clock, rfl, h.drawn, h.random⟩

theorem reply (h : w.AgreesOffLog w') {c : Call} (hc : c.isOfLog = false) :
    (World.reply c w).1 = (World.reply c w').1 ∧
      (World.reply c w).2.AgreesOffLog (World.reply c w').2 := by
  cases c with
  | store r => exact h.answer hc
  | now => exact ⟨h.clock, h⟩
  | newKey =>
      refine ⟨?_, h.store, h.script, h.clock, h.wall, congrArg (· + 1) h.drawn, h.random⟩
      simp only [World.reply, h.drawn, h.random]
  | elapsed => exact ⟨rfl, h⟩

end AgreesOffLog

/-- **Calls that ignore the log end alike** in worlds that agree otherwise. -/
theorem call_of_ignoresLog {α : Type} {d : Calls α} (hd : d.IgnoresLog) {w w' : World}
    (h : w.AgreesOffLog w') :
    (w.call d).1 = (w'.call d).1 ∧ (w.call d).2.AgreesOffLog (w'.call d).2 := by
  induction d generalizing w w' with
  | done a => exact ⟨rfl, h⟩
  | ask c next ih =>
      obtain ⟨hreads, hadds, hnext⟩ := hd
      rw [call_ask, call_ask]
      by_cases hevent : ∃ e, c = .store (.appendEvent e)
      · -- the answers may differ here, but the calls go on in the same way
        obtain ⟨e, rfl⟩ := hevent
        rw [hadds e rfl (reply _ w).1 (reply _ w').1]
        exact ih _ (hnext _) (h.appendEvent e)
      · have hc : c.isOfLog = false := by
          cases c with
          | store r =>
              cases r with
              | listRecentEntries q => exact absurd rfl (hreads q)
              | appendEvent e => exact absurd ⟨e, rfl⟩ hevent
              | _ => rfl
          | _ => rfl
        obtain ⟨ha, hw⟩ := h.reply hc
        rw [ha]
        exact ih _ (hnext _) hw

end World

end TableAccess
