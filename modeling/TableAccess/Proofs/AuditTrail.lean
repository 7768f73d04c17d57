/-
**The audit log is complete and truthful.**

Every request over HTTP leaves one event at most.  One that reaches an audited operation leaves an
event that says how the operation ended, and one that the gate turns away leaves an event that says
so.  All others leave nothing, and they change nothing either; so there is no change without its
event, and no event without what it tells of.

Main definitions:

* `Http.Reaches`, `Http.TurnedAway` — a request reaches an operation, or is turned away at the gate;
* `Http.Unlogged` — the requests that leave nothing;
* `Http.Router.Accounts` — the log accounts for a request;
* `Http.Visit`, `Http.Router.visits` — requests that arrive one after the other.

Main results:

* `Http.unlogged_iff` — the requests that leave nothing are those that are neither turned away nor
  reach an audited operation;
* `Http.Router.adds_of_reaches`, `Http.Router.adds_of_turnedAway`, `Http.Router.store_of_unlogged` —
  what the three kinds of requests leave;
* `Http.Router.reaches_of_changed` — only an audited operation that succeeds changes anything else;
* `Http.Router.accounts` — the log accounts for a request;
* `Http.Router.accounts_for_all` — it accounts for every request of every run, and only grows.
-/
import TableAccess.Proofs.Atomicity
import TableAccess.Proofs.Mediation
import TableAccess.Proofs.Rejections
import TableAccess.Proofs.Requests

set_option relaxedAutoImplicit false
set_option autoImplicit false

namespace TableAccess

namespace Http

/-! ### Three kinds of requests -/

/-- A request reaches an operation on behalf of a principal: it is passed on to a resource that has
its method, and its parameters can be read. -/
def Reaches (w : World) (m : Message) (p : Principal) (op : Operation) : Prop :=
  ∃ r, Route.ofPath? m.path = some r ∧ m.method ∈ r.methods ∧ PassesOn w r m p ∧
    Endpoint.operation? r m = some op

/-- The gate in front of a guarded resource turns a request away. -/
def TurnedAway (w : World) (m : Message) (rejection : GateRejection) : Prop :=
  ∃ r request, Route.ofPath? m.path = some r ∧ r.access ≠ .anyone ∧ m.method ≠ .options ∧
    Guard.gateRequest m = .ok request ∧
    (w.call (Gate.authenticate request (r.access = .administrator))).1 =
      .error (.rejected rejection)

/-- The requests that leave nothing in the log: there is no such resource, a browser asks
beforehand, or anyone may use the resource; the gate cannot read the body, or cannot ask who has the
token; the resource does not have the method; the principal asks who it is or what it may use; or
the parameters cannot be read, or the request only looks at something. -/
inductive Unlogged (w : World) (m : Message) : Prop
  | unknown (hr : Route.ofPath? m.path = none)
  | preflight (hmethod : m.method = .options)
  | unguarded {r : Route} (hr : Route.ofPath? m.path = some r) (haccess : r.access = .anyone)
  | unread {e : AppError} (hrequest : Guard.gateRequest m = .error e)
  | unasked {r : Route} {request : GateRequest} {e : AppError}
      (hr : Route.ofPath? m.path = some r) (hrequest : Guard.gateRequest m = .ok request)
      (hverdict : (w.call (Gate.authenticate request (r.access = .administrator))).1 =
        .error (.store e))
  | unsupported {r : Route} {p : Principal} (hr : Route.ofPath? m.path = some r)
      (hpass : PassesOn w r m p) (hmethod : m.method ∉ r.methods)
  | own {r : Route} {p : Principal} (hr : Route.ofPath? m.path = some r) (hpass : PassesOn w r m p)
      (how : r = .me ∨ r = .tablePermissions)
  | undecodable {r : Route} {p : Principal} (hr : Route.ofPath? m.path = some r)
      (hpass : PassesOn w r m p) (hop : Endpoint.operation? r m = none)
  | looks {r : Route} {p : Principal} (hr : Route.ofPath? m.path = some r)
      (hpass : PassesOn w r m p) (hget : m.method = .get ∨ m.method = .head)

section Kinds

variable {w : World} {m : Message} {r : Route} {p : Principal} {op : Operation}
  {rejection : GateRejection}

/-- A request that can be read is passed on by the verdict of the gate. -/
theorem passesOn_iff_verdict {request : GateRequest}
    (hrequest : Guard.gateRequest m = .ok request) :
    PassesOn w r m p ↔
      (w.call (Gate.authenticate request (r.access = .administrator))).1 = .ok p := by
  rw [PassesOn, Guard.call_check _ w hrequest]
  rcases w.call (Gate.authenticate request (r.access = .administrator)) with ⟨verdict, w'⟩
  cases verdict with
  | ok q => simp
  | error e => simp

theorem TurnedAway.not_passesOn (h : TurnedAway w m rejection)
    (hr : Route.ofPath? m.path = some r) : ¬ PassesOn w r m p := by
  obtain ⟨r', request, hr', -, -, hrequest, hverdict⟩ := h
  cases hr.symm.trans hr'
  intro hpass
  cases ((passesOn_iff_verdict hrequest).1 hpass).symm.trans hverdict

theorem Unlogged.not_turnedAway (h : Unlogged w m) : ¬ TurnedAway w m rejection := by
  intro haway
  have hnotPassed := fun r hr p => haway.not_passesOn (r := r) (p := p) hr
  obtain ⟨r', request', hr', haccess', hmethod', hrequest', hverdict'⟩ := haway
  -- a request is about one resource and shows the gate one thing, so both accounts of it agree
  cases h with
  | unknown hr => cases hr.symm.trans hr'
  | preflight hmethod => exact hmethod' hmethod
  | unguarded hr haccess =>
      cases hr.symm.trans hr'
      exact haccess' haccess
  | unread hrequest => cases hrequest.symm.trans hrequest'
  | unasked hr hrequest hverdict =>
      cases hr.symm.trans hr'
      cases hrequest.symm.trans hrequest'
      cases hverdict.symm.trans hverdict'
  | unsupported hr hpass hmethod => exact hnotPassed _ hr _ hpass
  | own hr hpass how => exact hnotPassed _ hr _ hpass
  | undecodable hr hpass hop => exact hnotPassed _ hr _ hpass
  | looks hr hpass hget => exact hnotPassed _ hr _ hpass

/-- The requests that leave nothing reach no audited operation. -/
theorem Unlogged.reads (h : Unlogged w m) (hreaches : Reaches w m p op) :
    op.changingPort? = none := by
  obtain ⟨r', hr', hmem, hpass', hop'⟩ := hreaches
  cases h with
  | unknown hr => cases hr.symm.trans hr'
  | preflight hmethod => exact absurd (hmethod ▸ hmem) (Router.options_notMem_methods r')
  | unguarded hr haccess =>
      cases hr.symm.trans hr'
      cases haccess.symm.trans (Endpoint.access_of_operation? hop')
  | unread hrequest =>
      rw [PassesOn, Guard.check, hrequest] at hpass'
      cases hpass'
  | unasked hr hrequest hverdict =>
      cases hr.symm.trans hr'
      cases ((passesOn_iff_verdict hrequest).1 hpass').symm.trans hverdict
  | unsupported hr hpass hmethod =>
      cases hr.symm.trans hr'
      exact absurd hmem hmethod
  | own hr hpass how =>
      cases hr.symm.trans hr'
      obtain rfl | rfl := how
      · cases hop'
      · cases hop'
  | undecodable hr hpass hop =>
      cases hr.symm.trans hr'
      cases hop.symm.trans hop'
  | looks hr hpass hget =>
      cases hr.symm.trans hr'
      exact (Endpoint.reads_iff hmem hop').2 hget

/-- **The requests that leave nothing** are neither turned away, nor do they reach an audited
operation. -/
theorem unlogged_iff : Unlogged w m ↔ (∀ rejection, ¬ TurnedAway w m rejection) ∧
    ∀ p op, Reaches w m p op → op.changingPort? = none := by
  refine ⟨fun h => ⟨fun _ => h.not_turnedAway, fun p op => h.reads⟩, ?_⟩
  rintro ⟨haway, hreads⟩
  cases hr : Route.ofPath? m.path with
  | none => exact .unknown hr
  | some r =>
      by_cases hmethod : m.method = .options
      · exact .preflight hmethod
      by_cases haccess : r.access = .anyone
      · exact .unguarded hr haccess
      cases hrequest : Guard.gateRequest m with
      | error e => exact .unread hrequest
      | ok request =>
          cases hverdict :
            (w.call (Gate.authenticate request (r.access = .administrator))).1 with
          | error e =>
              cases e with
              | rejected rejection =>
                  exact absurd ⟨r, request, hr, haccess, hmethod, hrequest, hverdict⟩
                    (haway rejection)
              | store e => exact .unasked hr hrequest hverdict
          | ok p =>
              -- the request is passed on, and what becomes of it depends on the resource
              have hpass := (passesOn_iff_verdict hrequest).2 hverdict
              by_cases hmem : m.method ∈ r.methods
              · cases hop : Endpoint.operation? r m with
                | none => exact .undecodable hr hpass hop
                | some op =>
                    have hreaches : Reaches w m p op := ⟨r, hr, hmem, hpass, hop⟩
                    exact .looks hr hpass ((Endpoint.reads_iff hmem hop).1 (hreads p op hreaches))
              · exact .unsupported hr hpass hmem

/-- A request is of one of three kinds. -/
theorem three_kinds (w : World) (m : Message) :
    Unlogged w m ∨ (∃ rejection, TurnedAway w m rejection) ∨
      ∃ p op action records, Reaches w m p op ∧ op.audit? w.clock = some (action, records) := by
  by_cases hunlogged : Unlogged w m
  · exact .inl hunlogged
  right
  by_cases haway : ∃ rejection, TurnedAway w m rejection
  · exact .inl haway
  right
  refine Classical.byContradiction fun hnone => hunlogged (unlogged_iff.2 ⟨?_, ?_⟩)
  · exact fun rejection h => haway ⟨rejection, h⟩
  · intro p op hreaches
    refine Classical.byContradiction fun hop => hnone ?_
    obtain ⟨action, records, haudit⟩ := (op.changes_iff_audited w.clock).1 hop
    exact ⟨p, op, action, records, hreaches, haudit⟩

end Kinds

/-! ### What each kind of request leaves -/

namespace Router

variable {router : Router} {w : World} {m : Message} {r : Route} {p : Principal} {op : Operation}
  {rejection : GateRejection} {action : AuditAction} {records : Json}

/-- How an operation ends that a request reaches.  The gate has asked the store before. -/
def outcome (router : Router) (w : World) (p : Principal) (op : Operation) :
    Outcome op.Value × World :=
  World.run { w with script := w.script.advance .resolveKey }
    (op.service router.settings.lifetimeDays p)

/-- A request that is passed on leaves nothing unless it reaches an audited operation. -/
theorem store_perform (s : Settings) (w' : World)
    (hreads : ∀ op, m.method ∈ r.methods → Endpoint.operation? r m = some op →
      op.changingPort? = none) :
    (w'.call (perform s (some p) r m)).2.store = w'.store := by
  unfold perform
  split
  · rfl
  · next hmethod =>
      have hmem : m.method ∈ r.methods := by simpa using hmethod
      dsimp only
      by_cases hown : r = .tablePermissions
      · subst hown
        exact World.call_store_of_reads
          ((Service.asks_effectiveCapabilities fun _ => rfl).bind fun o => trivial)
      · have hperforms := Endpoint.guarded_performs s p m hown
        cases hop : Endpoint.operation? r m with
        | none =>
            rw [hop] at hperforms
            obtain ⟨response, hguarded⟩ := hperforms
            rw [hguarded]
            rfl
        | some op =>
            rw [hop] at hperforms
            rw [hperforms, World.call_bind]
            exact Operation.run_store_of_reads (hreads op hmem hop)

/-- **The requests that leave nothing** leave the store as it is. -/
theorem store_of_unlogged (router : Router) (h : Unlogged w m) :
    (w.call (router.respond m)).2.store = w.store := by
  -- the gate leaves nothing, and neither does what comes behind it
  refine respond_keeps (P := fun s => s = w.store) router rfl fun r hr hmethod haccess => ?_
  have hcheck : (w.call (Guard.check (r.access = .administrator) m)).2.store = w.store :=
    Guard.store_check fun request rejection hrequest hverdict =>
      h.not_turnedAway ⟨r, request, hr, haccess, hmethod, hrequest, hverdict⟩
  have hreads : ∀ p, (w.call (Guard.check (r.access = .administrator) m)).1 = .ok p →
      ∀ op, m.method ∈ r.methods → Endpoint.operation? r m = some op → op.changingPort? = none :=
    fun p hpass op hmem hop => h.reads ⟨r, hr, hmem, hpass, hop⟩
  rw [call_dispatch_guarded _ w hr hmethod haccess]
  rcases hcall : w.call (Guard.check (r.access = .administrator) m) with ⟨verdict, w'⟩
  rw [hcall] at hcheck hreads
  cases verdict with
  | ok p => exact (store_perform _ w' (hreads p rfl)).trans hcheck
  | error response => exact hcheck

/-- **A request that is turned away** leaves the event of its rejection. -/
theorem adds_of_turnedAway (router : Router) (hw : w.LogWorks) (h : TurnedAway w m rejection) :
    w.Adds (w.call (router.respond m)).2 [Guard.rejectionEvent rejection] := by
  obtain ⟨r, request, hr, haccess, hmethod, hrequest, hverdict⟩ := h
  obtain ⟨⟨response, herror⟩, hadds⟩ := Guard.call_check_of_rejected hw hrequest hverdict
  rw [call_respond, call_dispatch_guarded _ w hr hmethod haccess]
  rcases hcheck : w.call (Guard.check (r.access = .administrator) m) with ⟨verdict, w'⟩
  rw [hcheck] at herror hadds
  cases herror
  exact hadds

theorem call_respond_of_reaches (hscript : w.script.FaultsOnly) (h : Reaches w m p op) :
    w.call (router.respond m) =
      (router.finish m (Endpoint.reply op (router.outcome w p op).1),
        (router.outcome w p op).2) := by
  obtain ⟨r, hr, hmem, hpass, hop⟩ := h
  have hadmin : r.access = .administrator := Endpoint.access_of_operation? hop
  have haccess : r.access ≠ .anyone := by simp [hadmin]
  have hown : r ≠ .tablePermissions := by
    rintro rfl
    cases hadmin
  have hperforms := Endpoint.guarded_performs router.settings p m hown
  rw [hop] at hperforms
  rw [call_respond_of_passesOn router hscript hr hmem haccess hpass, hperforms, World.call_bind]
  rfl

/-- Whoever reaches an operation is an active administrator, and the owner of the token. -/
theorem owner_of_reaches (hscript : w.script.FaultsOnly) (h : Reaches w m p op) :
    ∃ token, m.Presents token ∧ w.Resolves token p ∧ (p.active && p.isAdmin) = true := by
  obtain ⟨r, hr, -, hpass, hop⟩ := h
  obtain ⟨token, htoken, hresolves, hadmin⟩ := (passesOn_iff_admits hscript hr).1 hpass
  have hisAdmin := hadmin ((Route.access_of_ofPath? hr).1.1 (Endpoint.access_of_operation? hop))
  refine ⟨token, htoken, hresolves, ?_⟩
  obtain ⟨-, record, -, hactive⟩ := hresolves
  rw [hactive, hisAdmin]
  rfl

/-- **A request that reaches an audited operation** leaves the event that says how it ended. -/
theorem adds_of_reaches (router : Router) (hw : w.LogWorks) (h : Reaches w m p op)
    (haudit : op.audit? w.clock = some (action, records)) :
    ∃ e, w.Adds (w.call (router.respond m)).2 [e] ∧
      Journal.Reports action p.id records (router.outcome w p op).1 e := by
  obtain ⟨token, -, -, hactor⟩ := owner_of_reaches hw.faults h
  rw [call_respond_of_reaches hw.faults h]
  exact Operation.run_adds haudit hactor (hw.advance .resolveKey)

theorem respond_of_failed (hscript : w.script.FaultsOnly) (h : Reaches w m p op)
    (haudit : op.audit? w.clock = some (action, records)) {err : AppError}
    (herr : (router.outcome w p op).1 = .error err) :
    (w.call (router.respond m)).2.store.withoutLog = w.store.withoutLog ∧
      (w.call (router.respond m)).1.body = .json (.obj [("message", .str err.message)]) := by
  have hop := (op.changes_iff_audited w.clock).2 ⟨action, records, haudit⟩
  have hcommitted := World.call_of_ensures (w := { w with script := w.script.advance .resolveKey })
    (hscript.advance _) (Operation.ensures_committed p hop router.settings.lifetimeDays)
  have houtcome : (World.call { w with script := w.script.advance .resolveKey }
      (op.service router.settings.lifetimeDays p).run).1 = .error err := herr
  rw [houtcome] at hcommitted
  -- the response has a body, since a request for the header fields only would change nothing
  have hhead : m.method ≠ .head := by
    obtain ⟨r, -, hmem, -, hoperation⟩ := h
    exact fun hhead => hop ((Endpoint.reads_iff hmem hoperation).2 (.inr hhead))
  rw [call_respond_of_reaches hscript h, herr, Endpoint.reply_error, finish, if_neg hhead]
  exact ⟨hcommitted, rfl⟩

/-- **Only an audited operation that succeeds changes anything but the log.** -/
theorem reaches_of_changed (hscript : w.script.FaultsOnly)
    (hchanged : (w.call (router.respond m)).2.store.withoutLog ≠ w.store.withoutLog) :
    ∃ p op action records v, Reaches w m p op ∧ op.audit? w.clock = some (action, records) ∧
      (router.outcome w p op).1 = .ok v := by
  obtain hunlogged | ⟨rejection, haway⟩ | ⟨p, op, action, records, hreaches, haudit⟩ :=
    three_kinds w m
  · exact absurd (congrArg Store.withoutLog (store_of_unlogged router hunlogged)) hchanged
  · exact absurd (withoutLog_respond router hscript fun r p hr _ => haway.not_passesOn hr) hchanged
  · cases hend : (router.outcome w p op).1 with
    | error err => exact absurd (respond_of_failed hscript hreaches haudit hend).1 hchanged
    | ok v => exact ⟨p, op, action, records, v, hreaches, haudit, hend⟩

/-! ### The log accounts for every request -/

/-- **The log accounts for a request.** -/
structure Accounts (router : Router) (w : World) (m : Message) : Prop where
  /-- The request leaves nothing, is turned away, or reaches an audited operation. -/
  known : Unlogged w m ∨ (∃ rejection, TurnedAway w m rejection) ∨
    ∃ p op action records, Reaches w m p op ∧ op.audit? w.clock = some (action, records)
  /-- It leaves one event at most. -/
  once : ∃ es, es.length ≤ 1 ∧ w.Adds (w.call (router.respond m)).2 es
  /-- If it changes anything but the log, its event says which operation succeeded, called by the
  owner of its token. -/
  changed : (w.call (router.respond m)).2.store.withoutLog ≠ w.store.withoutLog →
    ∃ token p op action records e, m.Presents token ∧ w.Resolves token p ∧ Reaches w m p op ∧
      op.audit? w.clock = some (action, records) ∧ w.Adds (w.call (router.respond m)).2 [e] ∧
      e.action = action ∧ e.actorId = some p.id ∧ e.error = none
  /-- An event reports success only of an operation that succeeded. -/
  honest : ∀ e, w.Adds (w.call (router.respond m)).2 [e] → e.error = none →
    ∃ p op records v, Reaches w m p op ∧ op.audit? w.clock = some (e.action, records) ∧
      e.actorId = some p.id ∧ (router.outcome w p op).1 = .ok v
  /-- If it reaches an audited operation that succeeds, its event says so. -/
  succeeded : ∀ p op action records v, Reaches w m p op →
    op.audit? w.clock = some (action, records) → (router.outcome w p op).1 = .ok v →
    ∃ e, w.Adds (w.call (router.respond m)).2 [e] ∧ e.action = action ∧
      e.actorId = some p.id ∧ e.error = none
  /-- If it reaches an audited operation that fails, its event has the message of the response, and
  what was asked for. -/
  failed : ∀ p op action records err, Reaches w m p op →
    op.audit? w.clock = some (action, records) → (router.outcome w p op).1 = .error err →
    ∃ e, w.Adds (w.call (router.respond m)).2 [e] ∧ e.action = action ∧
      e.actorId = some p.id ∧ e.error = some err.message ∧ e.payload = .obj [("records", records)] ∧
      (w.call (router.respond m)).1.body = .json (.obj [("message", .str err.message)])
  /-- If it is turned away, its event says why, shows what its body carried, and names the owner of
  its token if the store knows the token. -/
  rejected : ∀ rejection, TurnedAway w m rejection →
    ∃ v e, m.Carries v ∧ w.Adds (w.call (router.respond m)).2 [e] ∧
      e.action = .accessKeyRejected ∧ e.error = some rejection.message ∧
      e.payload = .obj [("error_message", .str rejection.message), ("offending_request", v)] ∧
      ∀ u, e.actorId = some u ↔ ∃ token k, m.Presents token ∧
        w.store.resolveKey token = some k ∧ k.record.userId = u
  /-- All other requests leave the store as it is, the log included. -/
  silent : Unlogged w m → (w.call (router.respond m)).2.store = w.store

/-- **The log accounts for every request.** -/
theorem accounts (router : Router) (m : Message) (hw : w.LogWorks) : router.Accounts w m where
  known := three_kinds w m
  once := by
    obtain hunlogged | ⟨rejection, haway⟩ | ⟨p, op, action, records, hreaches, haudit⟩ :=
      three_kinds w m
    · exact ⟨[], Nat.zero_le 1, World.adds_nil (store_of_unlogged router hunlogged)⟩
    · exact ⟨[Guard.rejectionEvent rejection], Nat.le_refl 1, adds_of_turnedAway router hw haway⟩
    · obtain ⟨e, hadds, -⟩ := adds_of_reaches router hw hreaches haudit
      exact ⟨[e], Nat.le_refl 1, hadds⟩
  changed := by
    intro hchanged
    obtain ⟨p, op, action, records, v, hreaches, haudit, hend⟩ :=
      reaches_of_changed hw.faults hchanged
    obtain ⟨token, htoken, hresolves, -⟩ := owner_of_reaches hw.faults hreaches
    obtain ⟨e, hadds, hreports⟩ := adds_of_reaches router hw hreaches haudit
    exact ⟨token, p, op, action, records, e, htoken, hresolves, hreaches, haudit, hadds,
      hreports.action, hreports.actor, hreports.succeeded v hend⟩
  honest := by
    intro e hadds hsuccess
    -- the log tells which events were added, so this is the one that such a request leaves
    obtain hunlogged | ⟨rejection, haway⟩ | ⟨p, op, action, records, hreaches, haudit⟩ :=
      three_kinds w m
    · cases hadds.unique (World.adds_nil (store_of_unlogged router hunlogged))
    · cases hadds.unique (adds_of_turnedAway router hw haway)
      cases hsuccess
    · obtain ⟨e', hadds', hreports⟩ := adds_of_reaches router hw hreaches haudit
      cases hadds.unique hadds'
      cases hend : (router.outcome w p op).1 with
      | ok v => exact ⟨p, op, records, v, hreaches, hreports.action ▸ haudit, hreports.actor, hend⟩
      | error err => cases hsuccess.symm.trans (hreports.failed err hend).1
  succeeded := by
    intro p op action records v hreaches haudit hend
    obtain ⟨e, hadds, hreports⟩ := adds_of_reaches router hw hreaches haudit
    exact ⟨e, hadds, hreports.action, hreports.actor, hreports.succeeded v hend⟩
  failed := by
    intro p op action records err hreaches haudit herr
    obtain ⟨e, hadds, hreports⟩ := adds_of_reaches router hw hreaches haudit
    obtain ⟨herror, hpayload⟩ := hreports.failed err herr
    exact ⟨e, hadds, hreports.action, hreports.actor, herror, hpayload,
      (respond_of_failed hw.faults hreaches haudit herr).2⟩
  rejected := by
    intro rejection haway
    have hadds := adds_of_turnedAway router hw haway
    obtain ⟨r, request, -, -, -, hrequest, hverdict⟩ := haway
    obtain ⟨v, hv, hshown⟩ := Guard.gateRequest_eq_ok_iff.1 hrequest
    have hoffending : rejection.offendingRequest = v := by
      rw [(Gate.rejection_of_authenticate hw.faults hverdict).1, hshown]
    refine ⟨v, _, hv, hadds, rfl, rfl, ?_, Guard.owner_iff hw.faults hrequest hverdict⟩
    rw [← hoffending]
    exact rejection.auditPayload_eq
  silent := store_of_unlogged router

end Router

/-! ### Requests that arrive one after the other -/

/-- A request that arrives at some time, by the clock of the application and by that of the
machine. -/
structure Visit where
  message : Message
  clock : Instant
  wall : Instant

/-- The world when a request arrives. -/
def Visit.finds (v : Visit) (w : World) : World := { w with clock := v.clock, wall := v.wall }

namespace Router

variable {router : Router} {w : World}

def visit (router : Router) (w : World) (v : Visit) : World :=
  ((v.finds w).call (router.respond v.message)).2

/-- The world after requests that arrived one after the other. -/
def visits (router : Router) (vs : List Visit) (w : World) : World := vs.foldl router.visit w

theorem logWorks_visits (router : Router) (hw : w.LogWorks) (vs : List Visit) :
    (router.visits vs w).LogWorks := by
  induction vs generalizing w with
  | nil => exact hw
  | cons v vs ih =>
      obtain ⟨-, -, hlog⟩ := (v.finds w).call_keeps_clocks (router.respond v.message)
      exact ih (hlog ⟨hw.faults, hw.log⟩)

/-- The log only grows, by one event for each request at most. -/
theorem auditLog_visits (router : Router) (hw : w.LogWorks) (vs : List Visit) :
    ∃ es, (router.visits vs w).store.auditLog = w.store.auditLog ++ es ∧
      es.length ≤ vs.length := by
  induction vs generalizing w with
  | nil => exact ⟨[], (List.append_nil _).symm, Nat.le_refl 0⟩
  | cons v vs ih =>
      have hfinds : (v.finds w).LogWorks := ⟨hw.faults, hw.log⟩
      obtain ⟨es, hone, hadds⟩ := (accounts router v.message hfinds).once
      obtain ⟨es', hrest, hlength⟩ := ih (logWorks_visits router hw [v])
      refine ⟨es.map (fun e => (e, v.wall)) ++ es', ?_, ?_⟩
      · -- the event of the first request comes before those of the others
        rw [← List.append_assoc]
        exact hrest.trans (congrArg (· ++ es') hadds)
      · rw [List.length_append, List.length_map, List.length_cons]
        omega

/-- **The audit log is complete and truthful.**  Requests arrive one after the other, and requests
to the store may fail at any point, as long as events are added.

The log only grows, by one event for each request at most, and it accounts for each of them: what
changed has its event, an event tells what happened, and requests that only read, or that are
refused before they reach anything, leave nothing. -/
theorem accounts_for_all (router : Router) (hw : w.LogWorks) (vs : List Visit) :
    (∃ es, (router.visits vs w).store.auditLog = w.store.auditLog ++ es ∧
      es.length ≤ vs.length) ∧
    ∀ v : Visit, router.Accounts (v.finds (router.visits vs w)) v.message := by
  refine ⟨auditLog_visits router hw vs, fun v => ?_⟩
  have hvisits : (router.visits vs w).LogWorks := logWorks_visits router hw vs
  exact accounts router v.message ⟨hvisits.faults, hvisits.log⟩

theorem accounts_for_all_revokeSoleKey :
    soleKey.LogWorks ∧
    (soleKey.call (local8080.respond revokeSoleKey)).2.store.accessKeys.values = [] ∧
    ∃ token p e, revokeSoleKey.Presents token ∧ soleKey.Resolves token p ∧
      soleKey.Adds (soleKey.call (local8080.respond revokeSoleKey)).2 [e] ∧
      e.actorId = some p.id ∧ e.error = none := by
  have hw : soleKey.LogWorks := World.logWorks_of_quiet rfl
  have hgone : (soleKey.call (local8080.respond revokeSoleKey)).2.store.accessKeys.values = [] := by
    decide +kernel
  have hchanged : (soleKey.call (local8080.respond revokeSoleKey)).2.store.withoutLog ≠
      soleKey.store.withoutLog := by
    intro hsame
    have hkeys := (Store.withoutLog_eq_iff.1 hsame).2.1
    rw [hkeys] at hgone
    exact absurd hgone (by decide)
  obtain ⟨-, haccounts⟩ := accounts_for_all local8080 hw []
  obtain ⟨token, p, op, action, records, e, htoken, hresolves, -, -, hadds, -, hactor, herror⟩ :=
    (haccounts ⟨revokeSoleKey, .year1970, .year1970⟩).changed hchanged
  exact ⟨hw, hgone, token, p, e, htoken, hresolves, hadds, hactor, herror⟩

end Router

end Http

end TableAccess
