/-
**Stores that fail.**

A store that cannot be reached answers a request with an error and is left as it is.  Here any
request of an operation may fail so, each on its own and with any error: a script of faults decides
which.  What holds of an operation under every such script follows from what it ensures when each
answer is either an error or the store's own.

Main definitions:

* `Script.FaultsOnly` — a script that makes requests fail and prepares no other answer;
* `Exchange`, `World.exchanges` — the requests that reached the store, with its answers;
* `Faults.may` — the answers of a store that may fail.

Main results:

* `World.call_keeps_world`, `World.call_keeps` — what no call or no answer of the store changes, no
  calls change;
* `World.call_of_ensures` — from what is ensured under faults to what happens in a world;
* `Faults.ensures_read` — a request that only reads fails, or is answered by the store.
-/
import TableAccess.Proofs.Dialogues
import TableAccess.Proofs.Operations
import TableAccess.Proofs.Serving
import TableAccess.World

set_option relaxedAutoImplicit false
set_option autoImplicit false

namespace TableAccess

/-! ### Scripts of faults -/

/-- The script makes requests fail, or lets them pass to the store; it prepares no other answer. -/
def Script.FaultsOnly (s : Script) : Prop := ∀ p, ∀ c ∈ s p, c = .pass ∨ ∃ e, c = .fail e

theorem Script.FaultsOnly.advance {s : Script} (h : s.FaultsOnly) (p : Port) :
    (s.advance p).FaultsOnly := by
  intro q c hc
  unfold Script.advance at hc
  split at hc
  · exact h q c (List.mem_of_mem_drop hc)
  · exact h q c hc

theorem Script.faultsOnly_empty : Script.empty.FaultsOnly := by
  intro p c hc
  cases hc

/-! ### What reached the store -/

/-- A request that reached the store, with the store's answer. -/
structure Exchange where
  request : Request
  answer : request.Answer

/-- Whether a request may change anything but the audit log. -/
def Request.isChange (r : Request) : Bool :=
  r.changes? = some .keys || r.changes? = some .grants

def Exchange.isChange (x : Exchange) : Bool := x.request.isChange

namespace World

variable {α β : Type}

@[simp] theorem call_ask (w : World) (c : Call) (next : c.Reply → Calls α) :
    w.call (.ask c next) = (reply c w).2.call (next (reply c w).1) := rfl

theorem call_bind (w : World) (d : Calls α) (f : α → Calls β) :
    w.call (d >>= f) = (w.call d).2.call (f (w.call d).1) := Dialogue.run_bind ..

/-- A call leaves the store as it is, or is a request that the store answers. -/
theorem store_reply (c : Call) (w : World) :
    (reply c w).2.store = w.store ∨
      ∃ r, c = .store r ∧ (reply c w).2.store = (w.store.answer w.wall r).2 := by
  cases c with
  | store r =>
      simp only [reply, answer]
      split
      · exact .inl rfl
      · exact .inl rfl
      · exact .inr ⟨r, rfl, rfl⟩
  | _ => exact .inl rfl

/-- **What every call keeps, calls keep.** -/
theorem call_keeps_world {Q : World → Prop} (hQ : ∀ c w, Q w → Q (reply c w).2) {w : World}
    (hw : Q w) (d : Calls α) : Q (w.call d).2 := by
  induction d generalizing w with
  | done a => exact hw
  | ask c next ih => exact ih _ (hQ c w hw)

/-- What is true of the store whatever it is asked, no calls change. -/
theorem call_keeps {P : Store → Prop} (hP : ∀ s now r, P s → P (s.answer now r).2) {w : World}
    (hw : P w.store) (d : Calls α) : P (w.call d).2.store := by
  refine call_keeps_world (Q := fun w => P w.store) (fun c w hw => ?_) hw d
  obtain hkept | ⟨r, -, hanswer⟩ := store_reply c w
  · rw [hkept]
    exact hw
  · rw [hanswer]
    exact hP w.store w.wall r hw

/-- **Principals and capabilities are never changed**, whatever is called. -/
theorem call_principals (w : World) (d : Calls α) :
    (w.call d).2.store.principals = w.store.principals ∧
      (w.call d).2.store.capabilities = w.store.capabilities := by
  refine call_keeps (P := fun s => s.principals = w.store.principals ∧
    s.capabilities = w.store.capabilities) (fun s now r hs => ?_) ⟨rfl, rfl⟩ d
  exact ⟨(s.answer_principals now r).trans hs.1, (s.answer_capabilities now r).trans hs.2⟩

/-- A request that changes nothing but the audit log, whoever answers it. -/
theorem withoutLog_answer (w : World) {r : Request} (hr : r.isChange = false) :
    (w.answer r).2.store.withoutLog = w.store.withoutLog := by
  rw [Request.isChange, Bool.or_eq_false_iff, decide_eq_false_iff_not,
    decide_eq_false_iff_not] at hr
  simp only [answer]
  split
  · rfl
  · rfl
  · exact Store.withoutLog_answer hr.1 hr.2

/-- What a call exchanges with the store, unless the script answers in its place. -/
def exchanged (w : World) : Call → List Exchange
  | .store r =>
      match w.script r.port with
      | .fail _ :: _ => []
      | .give _ :: _ => []
      | _ => [⟨r, (w.store.answer w.wall r).1⟩]
  | _ => []

/-- What the calls of a dialogue exchange with the store, in order. -/
def exchanges : Calls α → World → List Exchange
  | .done _, _ => []
  | .ask c next, w => w.exchanged c ++ exchanges (next (reply c w).1) (reply c w).2

end World

/-! ### Answers of a store that may fail -/

namespace Faults

/-- The store, and the exchanges so far that may have changed it. -/
structure State where
  store : Store
  changes : List Exchange

def State.after (x : State) (wall : Instant) (r : Request) : State :=
  ⟨(x.store.answer wall r).2,
    x.changes ++ if r.isChange then [⟨r, (x.store.answer wall r).1⟩] else []⟩

/-- A request fails and changes nothing, or the store answers it; the clock stands still, and any
key may be drawn. -/
def may (wall clock : Instant) : Dialogue.Answers Call Call.Reply State
  | .store r, x, a, y =>
      (∃ e, a = .error e ∧ y = x) ∨ (a = (x.store.answer wall r).1 ∧ y = x.after wall r)
  | .now, x, t, y => t = clock ∧ y = x
  | .newKey, x, _, y => y = x
  | .elapsed, x, _, y => y = x

variable {α : Type} {wall clock : Instant} {post : α → State → Prop} {x : State}

theorem ensures_store {r : Request} {next : r.Answer → Calls α} :
    (Dialogue.ask (.store r) next : Calls α).Ensures (may wall clock) post x ↔
      (∀ e, (next (.error e)).Ensures (may wall clock) post x) ∧
        (next (x.store.answer wall r).1).Ensures (may wall clock) post (x.after wall r) := by
  constructor
  · intro h
    exact ⟨fun e => h _ _ (.inl ⟨e, rfl, rfl⟩), h _ _ (.inr ⟨rfl, rfl⟩)⟩
  · rintro ⟨herror, hanswer⟩ a y (⟨e, rfl, rfl⟩ | ⟨rfl, rfl⟩)
    · exact herror e
    · exact hanswer

theorem State.after_of_reads {r : Request} (hr : r.changes? = none) : x.after wall r = x := by
  obtain ⟨s, xs⟩ := x
  have hs : (s.answer wall r).2 = s := by
    obtain h | ⟨_, h, -⟩ | ⟨_, _, h, -⟩ | ⟨_, rfl, -⟩ := Store.answer_cases wall r s
    · exact h
    · cases hr.symm.trans h
    · cases hr.symm.trans h
    · cases hr
  simp [State.after, hs, Request.isChange, hr]

/-- **A request that only reads fails, or is answered by the store; either way nothing changes.** -/
theorem ensures_read {r : Request} {next : r.Answer → Calls α} (hr : r.changes? = none) :
    (Dialogue.ask (.store r) next : Calls α).Ensures (may wall clock) post x ↔
      (∀ e, (next (.error e)).Ensures (may wall clock) post x) ∧
        (next (x.store.answer wall r).1).Ensures (may wall clock) post x := by
  rw [ensures_store, State.after_of_reads hr]

/-- A request that only reads, in a sequence that a failure ends: it is enough to go on with the
store's answer. -/
theorem ensures_resume_read {β : Type} {post : Outcome β → State → Prop} {r : Request}
    {k : r.Value → Service β} {v : r.Value} (hr : r.changes? = none)
    (hv : (x.store.answer wall r).1 = .ok v) (herror : ∀ e, post (.error e) x)
    (hnext : (k v).run.Ensures (may wall clock) post x) :
    (Dialogue.ask (.store r) (Service.resume k) : Calls (Outcome β)).Ensures (may wall clock)
      post x := by
  rw [ensures_read hr, hv]
  exact ⟨herror, hnext⟩

@[simp] theorem ensures_now {next : Instant → Calls α} :
    (Dialogue.ask .now next : Calls α).Ensures (may wall clock) post x ↔
      (next clock).Ensures (may wall clock) post x :=
  ⟨fun h => h clock x ⟨rfl, rfl⟩, by rintro h _ _ ⟨rfl, rfl⟩; exact h⟩

@[simp] theorem ensures_newKey {next : AccessKey → Calls α} :
    (Dialogue.ask .newKey next : Calls α).Ensures (may wall clock) post x ↔
      ∀ k, (next k).Ensures (may wall clock) post x :=
  ⟨fun h k => h k x rfl, by rintro h k _ rfl; exact h k⟩

@[simp] theorem ensures_elapsed {next : Nat → Calls α} :
    (Dialogue.ask .elapsed next : Calls α).Ensures (may wall clock) post x ↔
      ∀ ms, (next ms).Ensures (may wall clock) post x :=
  ⟨fun h ms => h ms x rfl, by rintro h ms _ rfl; exact h ms⟩

end Faults

/-! ### Runs in a world -/

namespace World

theorem answer_faulty {w : World} (hw : w.script.FaultsOnly) (r : Request) :
    (∃ e, w.answer r = (.error e, { w with script := w.script.advance r.port }) ∧
      w.exchanged (.store r) = []) ∨
    (w.answer r = ((w.store.answer w.wall r).1,
      { w with script := w.script.advance r.port, store := (w.store.answer w.wall r).2 }) ∧
      w.exchanged (.store r) = [⟨r, (w.store.answer w.wall r).1⟩]) := by
  simp only [answer, exchanged]
  cases hc : w.script r.port with
  | nil => exact .inr ⟨rfl, rfl⟩
  | cons c cs =>
      obtain rfl | ⟨e, rfl⟩ := hw r.port c (by rw [hc]; exact List.mem_cons_self ..)
      · exact .inr ⟨rfl, rfl⟩
      · exact .inl ⟨e, rfl, rfl⟩

/-- **What is ensured under faults happens in every world whose script is one of faults.** -/
theorem call_of_ensures {α : Type} {post : α → Faults.State → Prop} {d : Calls α} {w : World}
    (hw : w.script.FaultsOnly) {xs : List Exchange}
    (h : d.Ensures (Faults.may w.wall w.clock) post ⟨w.store, xs⟩) :
    post (w.call d).1 ⟨(w.call d).2.store, xs ++ (exchanges d w).filter Exchange.isChange⟩ := by
  induction d generalizing w xs with
  | done a => simpa [call, exchanges] using h
  | ask c next ih =>
      cases c with
      | store r =>
          obtain ⟨herror, hanswer⟩ := Faults.ensures_store.1 h
          obtain ⟨e, ha, hx⟩ | ⟨ha, hx⟩ := answer_faulty hw r
          · have := ih _ (w := { w with script := w.script.advance r.port }) (hw.advance _)
              (herror e)
            simpa [call, exchanges, reply, ha, hx] using this
          · have := ih _
              (w := { w with
                script := w.script.advance r.port, store := (w.store.answer w.wall r).2 })
              (hw.advance _) hanswer
            cases hr : r.isChange <;>
              simpa [call, exchanges, reply, ha, hx, Faults.State.after, Exchange.isChange, hr]
                using this
      | now => exact ih _ hw (Faults.ensures_now.1 h)
      | newKey => exact ih _ (w := { w with drawn := w.drawn + 1 }) hw (Faults.ensures_newKey.1 h _)
      | elapsed => exact ih _ hw (Faults.ensures_elapsed.1 h _)

end World

end TableAccess
