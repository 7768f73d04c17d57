/-
**What a rejection leaves in the audit log.**

A request that the gate turns away leaves one event, which shows what the request carried and who
owns its token.  When the gate cannot read a request, or cannot ask who has its token, it leaves
nothing; and neither does it when a request passes.

Main results:

* `Gate.rejection_of_authenticate` — what a rejection says about a request;
* `Http.Guard.call_check_of_rejected` — a rejection leaves its event;
* `Http.Guard.store_check` — without a rejection, the gate leaves the store as it is.
-/
import TableAccess.Proofs.Clearance
import TableAccess.Proofs.Journaling

set_option relaxedAutoImplicit false
set_option autoImplicit false

namespace TableAccess

/-! ### What a rejection says -/

/-- The event of a rejection shows the request. -/
theorem GateRejection.auditPayload_eq (r : GateRejection) : r.auditPayload =
    .obj [("error_message", .str r.message), ("offending_request", r.offendingRequest)] := by
  have hlater : ¬ "offending_request" < "error_message" := by decide
  simp [auditPayload, Json.ofFields, Json.insertField, hlater]

namespace Gate

variable {w : World} {request : GateRequest} {rejection : GateRejection} {administration : Bool}

/-- A rejection shows the request, and names the owner of the key that was found. -/
theorem rejection_of_judge {v : Json} {token : String} {found : Option KeyedPrincipal}
    (h : judge v administration token (.ok found) = .error (.rejected rejection)) :
    rejection.offendingRequest = v ∧
      rejection.userId = found.map fun k => k.record.userId := by
  cases found with
  | none =>
      cases h
      exact ⟨rfl, rfl⟩
  | some k =>
      obtain ⟨record, principal⟩ := k
      cases principal with
      | none =>
          cases h
          exact ⟨rfl, rfl⟩
      | some p =>
          simp only [judge, judgeKey] at h
          split at h
          · cases h
            exact ⟨rfl, rfl⟩
          · split at h
            · cases h
              exact ⟨rfl, rfl⟩
            · cases h

/-- **A rejection shows the request, and names the owner of its token**, if there is one. -/
theorem rejection_of_authenticate (hscript : w.script.FaultsOnly)
    (h : (w.call (authenticate request administration)).1 = .error (.rejected rejection)) :
    rejection.offendingRequest = request.payload ∧
      rejection.userId = ((request.accessKey.filter fun t => !t.isEmpty).bind
        w.store.resolveKey).map fun k => k.record.userId := by
  unfold authenticate at h
  cases hpresented : request.accessKey.filter fun t => !t.isEmpty with
  | none =>
      -- without a token the store is not asked
      rw [hpresented] at h
      cases h
      exact ⟨rfl, rfl⟩
  | some token =>
      rw [hpresented, World.call_bind] at h
      have hverdict : judge request.payload administration token
          (w.answer (.resolveKey token)).1 = .error (.rejected rejection) := h
      obtain ⟨e, hfails, -⟩ | ⟨hanswer, -⟩ := World.answer_faulty hscript (.resolveKey token)
      · rw [hfails] at hverdict
        cases hverdict
      · rw [hanswer] at hverdict
        exact rejection_of_judge hverdict

end Gate

/-! ### What the gate leaves -/

namespace Http

namespace Guard

variable {w : World} {m : Message} {request : GateRequest} {rejection : GateRejection}
  {administration : Bool}

/-- **A rejection is about the token of the request**: it names an owner exactly when the store
knows the token. -/
theorem owner_iff (hscript : w.script.FaultsOnly) (hrequest : gateRequest m = .ok request)
    (hverdict : (w.call (Gate.authenticate request administration)).1 =
      .error (.rejected rejection)) (u : UserId) :
    rejection.userId = some u ↔ ∃ token k, m.Presents token ∧
      w.store.resolveKey token = some k ∧ k.record.userId = u := by
  rw [(Gate.rejection_of_authenticate hscript hverdict).2]
  simp only [presents_iff hrequest, Option.map_eq_some_iff, Option.bind_eq_some_iff,
    Option.filter_eq_some_iff]
  constructor
  · rintro ⟨k, ⟨token, ⟨htoken, hne⟩, hk⟩, hu⟩
    exact ⟨token, k, ⟨by simpa using hne, htoken⟩, hk, hu⟩
  · rintro ⟨token, k, ⟨hne, htoken⟩, hk, hu⟩
    exact ⟨k, ⟨token, ⟨htoken, by simpa using hne⟩, hk⟩, hu⟩

/-- **A rejection leaves its event.** -/
theorem call_check_of_rejected (hw : w.LogWorks) (hrequest : gateRequest m = .ok request)
    (hverdict : (w.call (Gate.authenticate request administration)).1 =
      .error (.rejected rejection)) :
    (∃ response, (w.call (check administration m)).1 = .error response) ∧
      w.Adds (w.call (check administration m)).2 [rejectionEvent rejection] := by
  obtain ⟨hwall, -, hlog⟩ := w.call_keeps_clocks (Gate.authenticate request administration)
  have hstore := World.call_store_of_reads (w := w) (Gate.asks_authenticate request administration)
  rw [call_check administration w hrequest]
  rcases hcall : w.call (Gate.authenticate request administration) with ⟨verdict, w'⟩
  rw [hcall] at hverdict hwall hlog hstore
  cases hverdict
  exact ⟨⟨_, rfl⟩, (hlog hw).adds (congrArg Store.auditLog hstore) hwall _⟩

theorem store_check (h : ∀ request rejection, gateRequest m = .ok request →
      (w.call (Gate.authenticate request administration)).1 ≠ .error (.rejected rejection)) :
    (w.call (check administration m)).2.store = w.store := by
  cases hrequest : gateRequest m with
  | error e =>
      rw [check, hrequest]
      rfl
  | ok request =>
      have hstore :=
        World.call_store_of_reads (w := w) (Gate.asks_authenticate request administration)
      have hverdict := h request
      rw [call_check administration w hrequest]
      rcases hcall : w.call (Gate.authenticate request administration) with ⟨verdict, w'⟩
      rw [hcall] at hstore hverdict
      cases verdict with
      | ok p => exact hstore
      | error e =>
          cases e with
          | rejected rejection => exact absurd rfl (hverdict rejection hrequest)
          | store e => exact hstore

end Guard

end Http

end TableAccess
