/-
**What an operation leaves in the audit log.**

An audited operation leaves one event, which says truthfully how it ended; all other operations
leave none.  Requests to the store may fail at any point, as long as events are added whenever that
is asked for.

Main definitions:

* `World.LogWorks` — requests may fail, but events are added;
* `World.Adds` — from one world to another, some events were added;
* `Journal.Reports` — an event says how an operation ended.

Main results:

* `World.adds_audited` — which event an audited operation leaves;
* `Operation.run_adds` — an audited operation leaves one event, a truthful one;
* `Operation.run_store_of_reads` — all other operations leave the store as it is.
-/
import TableAccess.Proofs.CallsMade

set_option relaxedAutoImplicit false
set_option autoImplicit false

namespace TableAccess

/-! ### Worlds in which events are added -/

namespace World

variable {α : Type} {w w' : World}

/-- Requests may fail, but an event is added whenever that is asked for. -/
structure LogWorks (w : World) : Prop where
  faults : w.script.FaultsOnly
  log : w.script .appendEvent = []

theorem logWorks_of_quiet (hw : w.script = .empty) : w.LogWorks := by
  constructor
  · rw [hw]
    exact Script.faultsOnly_empty
  · rw [hw]
    rfl

theorem LogWorks.advance (hw : w.LogWorks) (p : Port) :
    LogWorks { w with script := w.script.advance p } := by
  refine ⟨hw.faults.advance p, ?_⟩
  simp only [Script.advance, hw.log]
  split <;> rfl

theorem LogWorks.answer (hw : w.LogWorks) (r : Request) : (w.answer r).2.LogWorks := by
  have hscript : (w.answer r).2.script = w.script.advance r.port := by
    simp only [World.answer]
    split <;> rfl
  have hadvance := hw.advance r.port
  exact ⟨hscript ▸ hadvance.faults, hscript ▸ hadvance.log⟩

theorem call_keeps_clocks (w : World) (d : Calls α) :
    (w.call d).2.wall = w.wall ∧ (w.call d).2.clock = w.clock ∧
      (w.LogWorks → (w.call d).2.LogWorks) := by
  refine call_keeps_world
    (Q := fun v => v.wall = w.wall ∧ v.clock = w.clock ∧ (w.LogWorks → v.LogWorks))
    (fun c v hv => ?_) ⟨rfl, rfl, id⟩ d
  obtain ⟨hwall, hclock, hlog⟩ := hv
  cases c with
  | store r =>
      have hkept : (v.answer r).2.wall = v.wall ∧ (v.answer r).2.clock = v.clock := by
        simp only [World.answer]
        split <;> exact ⟨rfl, rfl⟩
      exact ⟨hkept.1.trans hwall, hkept.2.trans hclock, fun hw => (hlog hw).answer r⟩
  | now => exact ⟨hwall, hclock, hlog⟩
  | newKey => exact ⟨hwall, hclock, fun hw => ⟨(hlog hw).faults, (hlog hw).log⟩⟩
  | elapsed => exact ⟨hwall, hclock, hlog⟩

theorem LogWorks.appendEvent (hw : w.LogWorks) (e : AuditEvent) :
    (w.answer (.appendEvent e)).2.store = w.store.appendEvent w.wall e := by
  simp only [World.answer, Request.port, hw.log]
  rfl

/-- From one world to another, some events were added to the log, at the time of the first. -/
def Adds (w w' : World) (es : List AuditEvent) : Prop :=
  w'.store.auditLog = w.store.auditLog ++ es.map fun e => (e, w.wall)

theorem adds_nil (h : w'.store = w.store) : w.Adds w' [] := by
  rw [Adds, h]
  exact (List.append_nil _).symm

/-- Which events were added is told by the two logs. -/
theorem Adds.unique {es es' : List AuditEvent} (h : w.Adds w' es) (h' : w.Adds w' es') :
    es = es' := by
  have hlogs := List.append_cancel_left (h.symm.trans h')
  exact (List.map_inj_right fun e e' he => congrArg Prod.fst he).1 hlogs

theorem LogWorks.adds (hw' : w'.LogWorks) (hlog : w'.store.auditLog = w.store.auditLog)
    (hwall : w'.wall = w.wall) (e : AuditEvent) : w.Adds (w'.answer (.appendEvent e)).2 [e] := by
  rw [Adds, hw'.appendEvent, Store.appendEvent, hlog, hwall]
  rfl

end World

/-! ### Events that say how it ended -/

/-- An event says how an operation ended: who did what, that it succeeded, or with which error it
failed, and then nothing but what was asked for. -/
structure Journal.Reports {α : Type} (action : AuditAction) (actor : UserId) (records : Json)
    (o : Outcome α) (e : AuditEvent) : Prop where
  action : e.action = action
  actor : e.actorId = some actor
  succeeded : ∀ v, o = .ok v → e.error = none
  failed : ∀ err, o = .error err →
    e.error = some err.message ∧ e.payload = .obj [("records", records)]

/-- **The event of an operation says how it ended.** -/
theorem Journal.reports_event {α : Type} (action : AuditAction) (actor : UserId) (records : Json)
    (ms : Nat) (o : Outcome (α × Journal.Extra)) :
    Journal.Reports action actor records (o.map Prod.fst)
      (Journal.event action (some actor) records ms o) := by
  cases o with
  | error err =>
      refine ⟨rfl, rfl, fun v hv => ?_, fun err' herr => ?_⟩
      · cases hv
      · cases herr
        exact ⟨rfl, rfl⟩
  | ok v =>
      refine ⟨rfl, rfl, fun _ _ => rfl, fun err herr => ?_⟩
      cases herr

namespace World

variable {α : Type} {w : World}

/-- **An audited operation leaves the event of its body.** -/
theorem adds_audited (hw : w.LogWorks) (action : AuditAction) (actor : Option UserId)
    (records : Json) {body : Service (α × Journal.Extra)}
    (hbody : body.run.Asks fun r => r.isOfLog = false) :
    w.Adds (w.run (Journal.audited action actor records body)).2
      [Journal.event action actor records 0 (w.run body).1] := by
  obtain ⟨hwall, -, hlog⟩ := w.call_keeps_clocks body.run
  rw [run, Journal.run_audited, call_bind]
  exact (hlog hw).adds (call_auditLog_of_asks hbody) hwall _

/-- An audited operation leaves the event that says how it ended. -/
theorem run_audited_adds (hw : w.LogWorks) (action : AuditAction) (actor : UserId) (records : Json)
    {body : Service (α × Journal.Extra)} (hbody : body.run.Asks fun r => r.isOfLog = false) :
    ∃ e, w.Adds (w.run (Journal.audited action (some actor) records body)).2 [e] ∧
      Journal.Reports action actor records
        (w.run (Journal.audited action (some actor) records body)).1 e := by
  refine ⟨_, w.adds_audited hw action (some actor) records hbody, ?_⟩
  rw [run, Journal.run_audited, call_bind]
  exact Journal.reports_event ..

end World

/-! ### Operations -/

namespace Operation

variable {op : Operation} {w : World} {actor : Principal} {lifetimeDays : Nat}

/-- **An audited operation leaves one event, which says how it ended.** -/
theorem run_adds {action : AuditAction} {records : Json}
    (haudit : op.audit? w.clock = some (action, records)) (hactor : actor.active && actor.isAdmin)
    (hw : w.LogWorks) :
    ∃ e, w.Adds (w.run (op.service lifetimeDays actor)).2 [e] ∧
      Journal.Reports action actor.id records (w.run (op.service lifetimeDays actor)).1 e := by
  have hop := (op.changes_iff_audited w.clock).2 ⟨action, records, haudit⟩
  obtain ⟨audit, body, haudit', hbody, hservice⟩ := op.service_eq_audited hop lifetimeDays actor
  have hsame : audit w.clock = (action, records) :=
    Option.some.inj ((haudit' w.clock).symm.trans haudit)
  -- the clock may be read first, which changes nothing
  have hrun : w.run (op.service lifetimeDays actor) = w.run (Journal.audited
      (audit w.clock).1 (some actor.id) (audit w.clock).2 (body w.clock)) := by
    obtain hservice | hservice := hservice
    · rw [hservice w.clock]
      exact World.run_requireAdmin hactor _
    · rw [hservice, World.run_requireAdmin hactor, World.run, Service.run_now_bind]
      rfl
  rw [hrun, hsame]
  exact World.run_audited_adds hw action actor.id records (hbody w.clock)

/-- **All other operations leave the store as it is.** -/
theorem run_store_of_reads (hop : op.changingPort? = none) :
    (w.run (op.service lifetimeDays actor)).2.store = w.store :=
  World.call_store_of_reads (op.asks_reads hop lifetimeDays actor)

end Operation

end TableAccess
