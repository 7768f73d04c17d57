/-
**Who gets past the gate.**

The gate reads a request, asks the store once who has its token, and judges the answer.  It lets
exactly those pass whose token belongs to an active principal, who must be an administrator where
that is asked for.  All others are turned away with an error, and at most an event in the audit log
shows that they were there.

Main definitions:

* `Http.Message.Carries`, `Http.Message.Presents` — the value in a body, and the token of a request;
* `World.Resolves` — the store knows an active owner of a token;
* `Http.Cleared` — a request has the token of somebody who may pass.

Main results:

* `Http.Guard.call_check_of_cleared` — who is cleared passes, after one look at the store;
* `Http.Guard.call_check_of_not_cleared` — who is not cleared is turned away;
* `Http.Guard.check_eq_ok_iff` — exactly those who are cleared pass.
-/
import TableAccess.Http.Guard
import TableAccess.Proofs.CallsMade

set_option relaxedAutoImplicit false
set_option autoImplicit false

namespace TableAccess

/-- The store knows an active owner of a token, and can be asked. -/
def World.Resolves (w : World) (token : String) (p : Principal) : Prop :=
  (∀ e cues, w.script .resolveKey ≠ .fail e :: cues) ∧
    ∃ record, w.store.resolveKey token = some ⟨record, some p⟩ ∧ p.active = true

theorem World.answer_resolveKey (w : World) (hscript : w.script.FaultsOnly)
    (hreached : ∀ e cues, w.script .resolveKey ≠ .fail e :: cues) (token : String) :
    w.answer (.resolveKey token) = (.ok (w.store.resolveKey token),
      { w with script := w.script.advance .resolveKey }) := by
  cases hcues : w.script .resolveKey with
  | nil =>
      simp only [answer, Request.port, hcues]
      rfl
  | cons c cues =>
      obtain rfl | ⟨e, rfl⟩ := hscript .resolveKey c (hcues ▸ List.mem_cons_self ..)
      · simp only [answer, Request.port, hcues]
        rfl
      · exact absurd hcues (hreached e cues)

theorem Gate.asks_authenticate (request : GateRequest) (administration : Bool) :
    (Gate.authenticate request administration).Asks fun r => r.changes? = none := by
  unfold Gate.authenticate
  split
  · trivial
  · exact Dialogue.asks_store rfl fun _ => trivial

namespace Http

/-! ### What a request shows to the gate -/

namespace Message

/-- The value in the body of a request, which has one MiB at most; a blank body stands for a record
without fields. -/
def Carries (m : Message) (v : Json) : Prop :=
  m.body.length ≤ 1024 * 1024 ∧
    (Payload.isBlank m.body = true ∧ v = .obj [] ∨
      Payload.isBlank m.body = false ∧ Json.parse (Utf8.pieces m.body) = .ok v)

/-- The token of a request, which is not empty: a text in the field `access_key` of its body or, if
there is none, the token in its header. -/
def Presents (m : Message) (token : String) : Prop :=
  token ≠ "" ∧ ∃ v, m.Carries v ∧
    ((v.get? "access_key").bind Json.text?).or (Guard.bearerToken? m) = some token

end Message

/-- A request has a token of an active principal, who is an administrator if that is asked for. -/
def Cleared (administration : Prop) (w : World) (m : Message) (p : Principal) : Prop :=
  ∃ token, m.Presents token ∧ w.Resolves token p ∧ (administration → p.isAdmin = true)

namespace Guard

theorem value_eq_ok_iff {body : List UInt8} {v : Json} :
    Payload.value body = .ok v ↔ Payload.isBlank body = true ∧ v = .obj [] ∨
      Payload.isBlank body = false ∧ Json.parse (Utf8.pieces body) = .ok v := by
  unfold Payload.value
  cases Payload.isBlank body with
  | true => simp [eq_comm]
  | false => cases Json.parse (Utf8.pieces body) <;> simp

theorem gateRequest_eq_ok_iff {m : Message} {r : GateRequest} :
    gateRequest m = .ok r ↔ ∃ v, m.Carries v ∧
      r = ⟨((v.get? "access_key").bind Json.text?).or (bearerToken? m), v⟩ := by
  have hmax : Payload.maxGuarded = 1024 * 1024 := rfl
  unfold gateRequest Message.Carries
  rw [hmax]
  by_cases hsize : 1024 * 1024 < m.body.length
  · rw [if_pos hsize]
    constructor
    · intro h
      cases h
    · rintro ⟨v, ⟨hle, -⟩, -⟩
      omega
  · rw [if_neg hsize]
    have hle : m.body.length ≤ 1024 * 1024 := by omega
    cases hvalue : Payload.value m.body with
    | error e =>
        constructor
        · intro h
          cases h
        · rintro ⟨v, ⟨-, hv⟩, -⟩
          cases hvalue.symm.trans (value_eq_ok_iff.2 hv)
    | ok v =>
        constructor
        · intro h
          cases h
          exact ⟨v, ⟨hle, value_eq_ok_iff.1 hvalue⟩, rfl⟩
        · rintro ⟨v', ⟨-, hv'⟩, rfl⟩
          have hsame := hvalue.symm.trans (value_eq_ok_iff.2 hv')
          cases hsame
          rfl

theorem presents_iff {m : Message} {request : GateRequest}
    (hrequest : gateRequest m = .ok request) {token : String} :
    m.Presents token ↔ token ≠ "" ∧ request.accessKey = some token := by
  obtain ⟨v, hv, rfl⟩ := gateRequest_eq_ok_iff.1 hrequest
  constructor
  · rintro ⟨hne, v', hv', htoken⟩
    have hsame := hrequest.symm.trans (gateRequest_eq_ok_iff.2 ⟨v', hv', rfl⟩)
    exact ⟨hne, (congrArg GateRequest.accessKey (Except.ok.inj hsame)).trans htoken⟩
  · rintro ⟨hne, htoken⟩
    exact ⟨hne, v, hv, htoken⟩

/-! ### The verdict of the gate -/

/-- A failure at the gate is answered with an error, and only the audit log may show it. -/
theorem call_refuse (w : World) (e : GateError) :
    (w.call (refuse e)).1 = .ofError e.toAppError ∧
      (w.call (refuse e)).2.store.withoutLog = w.store.withoutLog := by
  cases e with
  | rejected r =>
      refine ⟨rfl, ?_⟩
      exact w.withoutLog_answer (r := .appendEvent (rejectionEvent r)) rfl
  | store e => exact ⟨rfl, rfl⟩

theorem le_status_ofError (e : AppError) : 400 ≤ (Response.ofError e).status := by
  have hstatus : ∀ kind, 400 ≤ Response.statusOf kind := by
    intro kind
    cases kind <;> decide
  exact hstatus e.kind

/-- The gate lets an active principal pass, who is an administrator if that is asked for. -/
theorem judge_eq_ok_iff {v : Json} {administration : Bool} {token : String}
    {o : Outcome (Option KeyedPrincipal)} {p : Principal} :
    Gate.judge v administration token o = .ok p ↔
      ∃ record, o = .ok (some ⟨record, some p⟩) ∧ p.active = true ∧
        (administration = true → p.isAdmin = true) := by
  constructor
  · intro h
    cases o with
    | error e => cases h
    | ok found =>
        cases found with
        | none => cases h
        | some k =>
            obtain ⟨record, principal⟩ := k
            cases principal with
            | none => cases h
            | some q =>
                simp only [Gate.judge, Gate.judgeKey] at h
                split at h
                · cases h
                · next hactive =>
                    split at h
                    · cases h
                    · next hadmin =>
                        cases h
                        refine ⟨record, rfl, by simpa using hactive, fun ha => ?_⟩
                        simpa [ha] using hadmin
  · rintro ⟨record, rfl, hactive, hadmin⟩
    have hkey : Gate.judgeKey v administration ⟨record, some p⟩ = .ok p := by
      cases administration with
      | false => simp [Gate.judgeKey, hactive]
      | true => simp [Gate.judgeKey, hactive, hadmin rfl]
    exact congrArg (Except.mapError GateError.rejected) hkey

/-- With a token, the gate looks at the store once and judges what it is told. -/
theorem call_authenticate (administration : Bool) (w : World) {token : String} (v : Json)
    (hne : token ≠ "") :
    w.call (Gate.authenticate ⟨some token, v⟩ administration) =
      (Gate.judge v administration token (w.answer (.resolveKey token)).1,
        (w.answer (.resolveKey token)).2) := by
  have hfilter : (some token).filter (fun t => !t.isEmpty) = some token := by
    simp [Option.filter, hne]
  rw [Gate.authenticate, hfilter]
  rfl

theorem call_check (administration : Bool) (w : World) {m : Message} {r : GateRequest}
    (hr : gateRequest m = .ok r) :
    w.call (check administration m) =
      match w.call (Gate.authenticate r administration) with
      | (.ok p, w') => (.ok p, w')
      | (.error e, w') => (.error (w'.call (refuse e)).1, (w'.call (refuse e)).2) := by
  unfold check
  rw [hr]
  dsimp only
  rw [World.call_bind]
  rcases w.call (Gate.authenticate r administration) with ⟨verdict, w'⟩
  cases verdict with
  | ok p => rfl
  | error e =>
      dsimp only
      rw [World.call_bind]
      rfl

/-- **Who is cleared passes the gate**, after one look at the store. -/
theorem call_check_of_cleared {administration : Bool} {w : World} {m : Message} {p : Principal}
    (hscript : w.script.FaultsOnly) (h : Cleared administration w m p) :
    w.call (check administration m) =
      (.ok p, { w with script := w.script.advance .resolveKey }) := by
  obtain ⟨token, ⟨hne, v, hv, htoken⟩, ⟨hreached, record, hrecord, hactive⟩, hadmin⟩ := h
  have hrequest : gateRequest m = .ok ⟨some token, v⟩ :=
    gateRequest_eq_ok_iff.2 ⟨v, hv, by rw [htoken]⟩
  have hanswer := w.answer_resolveKey hscript hreached token
  have hverdict : w.call (Gate.authenticate ⟨some token, v⟩ administration) =
      (.ok p, { w with script := w.script.advance .resolveKey }) := by
    rw [call_authenticate administration w v hne, hanswer]
    exact congrArg (·, _) (judge_eq_ok_iff.2 ⟨record, congrArg Except.ok hrecord, hactive, hadmin⟩)
  rw [call_check administration w hrequest, hverdict]

/-- Whoever the gate recognizes is cleared. -/
theorem cleared_of_authenticate {administration : Bool} {w : World} {m : Message}
    {r : GateRequest} {p : Principal} (hscript : w.script.FaultsOnly)
    (hrequest : gateRequest m = .ok r)
    (hverdict : (w.call (Gate.authenticate r administration)).1 = .ok p) :
    Cleared administration w m p := by
  have hpresents : ∀ token, m.Presents token ↔ token ≠ "" ∧ r.accessKey = some token :=
    fun token => presents_iff hrequest
  obtain ⟨presented, v⟩ := r
  obtain rfl | ⟨token, rfl⟩ := presented.eq_none_or_eq_some
  · cases hverdict
  by_cases hne : token = ""
  · subst hne
    cases hverdict
  rw [call_authenticate administration w v hne] at hverdict
  obtain ⟨record, hanswer, hactive, hadmin⟩ := judge_eq_ok_iff.1 hverdict
  refine ⟨token, (hpresents token).2 ⟨hne, rfl⟩,
    ⟨fun e cues hcues => ?_, record, ?_, hactive⟩, hadmin⟩
  · simp only [World.answer, Request.port, hcues] at hanswer
    cases hanswer
  · obtain ⟨e, hfails, -⟩ | ⟨hreached, -⟩ := World.answer_faulty hscript (.resolveKey token)
    · rw [hfails] at hanswer
      cases hanswer
    · rw [hreached] at hanswer
      exact Except.ok.inj hanswer

/-- **Who is not cleared is turned away** with an error, and only the audit log may show it. -/
theorem call_check_of_not_cleared {administration : Bool} {w : World} {m : Message}
    (hscript : w.script.FaultsOnly) (h : ∀ p, ¬ Cleared administration w m p) :
    ∃ response, (w.call (check administration m)).1 = .error response ∧ 400 ≤ response.status ∧
      (w.call (check administration m)).2.store.withoutLog = w.store.withoutLog := by
  cases hrequest : gateRequest m with
  | error e =>
      rw [check, hrequest]
      exact ⟨.ofError e, rfl, le_status_ofError e, rfl⟩
  | ok r =>
      have hstore := World.call_store_of_reads (w := w) (Gate.asks_authenticate r administration)
      have hcleared : ∀ p, (w.call (Gate.authenticate r administration)).1 = .ok p →
          Cleared administration w m p := fun p => cleared_of_authenticate hscript hrequest
      rw [call_check administration w hrequest]
      rcases hcall : w.call (Gate.authenticate r administration) with ⟨verdict, w'⟩
      rw [hcall] at hstore hcleared
      cases verdict with
      | ok p => exact absurd (hcleared p rfl) (h p)
      | error e =>
          obtain ⟨hresponse, hkept⟩ := call_refuse w' e
          exact ⟨_, rfl, hresponse ▸ le_status_ofError _, hkept.trans (congrArg _ hstore)⟩

/-- **Exactly those who are cleared pass the gate.** -/
theorem check_eq_ok_iff {administration : Bool} {w : World} {m : Message} {p : Principal}
    (hscript : w.script.FaultsOnly) :
    (w.call (check administration m)).1 = .ok p ↔ Cleared administration w m p := by
  constructor
  · intro hpass
    by_cases hcleared : ∃ q, Cleared administration w m q
    · obtain ⟨q, hq⟩ := hcleared
      rw [call_check_of_cleared hscript hq] at hpass
      cases hpass
      exact hq
    · obtain ⟨response, herror, -⟩ := call_check_of_not_cleared hscript fun q hq => hcleared ⟨q, hq⟩
      rw [herror] at hpass
      cases hpass
  · intro hcleared
    rw [call_check_of_cleared hscript hcleared]

end Guard

end Http

end TableAccess
