/-
**Nothing happens behind the gate's back.**

Whatever request arrives over HTTP, and whether or not the store can be asked who has a token: keys
and grants change only for an active administrator.  A request for a guarded resource is passed on
exactly when it can be read and its token belongs to somebody who may use the resource, and it is
then carried out on behalf of that principal; otherwise it ends with an error.

Main definitions:

* `Http.Admits` — a request may pass;
* `Http.PassesOn` — a request is passed on.

Main results:

* `Http.Router.passesOn_iff_admits` — who may pass is passed on, and nobody else;
* `Http.Router.call_respond_of_passesOn` — what is passed on is carried out for its principal;
* `Http.Router.mediates` — nothing happens behind the gate's back.
-/
import TableAccess.Http.Router
import TableAccess.Proofs.CallsMade
import TableAccess.Proofs.Clearance
import TableAccess.Proofs.Routes

set_option relaxedAutoImplicit false
set_option autoImplicit false

namespace TableAccess

namespace Http

/-- A request may pass: its token belongs to an active principal, who is an administrator if the
path is below the administration. -/
def Admits (w : World) (m : Message) (p : Principal) : Prop :=
  Cleared ("/api/admin/".toList <+: m.path) w m p

/-- A request is passed on to the handler of a resource, on behalf of a principal. -/
def PassesOn (w : World) (r : Route) (m : Message) (p : Principal) : Prop :=
  (w.call (Guard.check (r.access = .administrator) m)).1 = .ok p

namespace Router

variable {w : World} {m : Message} {r : Route} {p : Principal}

/-! ### Resources -/

/-- What is done to every response before it is sent. -/
def finish (router : Router) (m : Message) (response : Response) : Response :=
  withOrigin router.origin (if m.method = .head then response.withoutBody else response)

theorem status_finish (router : Router) (m : Message) (response : Response) :
    (finish router m response).status = response.status := by
  unfold finish
  split <;> rfl

theorem call_respond (router : Router) (w : World) (m : Message) :
    w.call (router.respond m) =
      (router.finish m (w.call (dispatch router.settings m)).1,
        (w.call (dispatch router.settings m)).2) := by
  rw [respond, World.call_bind]
  rfl

theorem guardAndPerform_guarded (s : Settings) (m : Message) (haccess : r.access ≠ .anyone) :
    guardAndPerform s r m = (do
      let checked ← Guard.check (r.access = .administrator) m
      match checked with
      | .ok p => perform s (some p) r m
      | .error response => pure response) := by
  unfold guardAndPerform
  split
  · next hanyone => exact absurd hanyone haccess
  · rfl

/-- The verdict of its gate decides what becomes of a request for a guarded resource. -/
theorem call_dispatch_guarded (s : Settings) (w : World) (hr : Route.ofPath? m.path = some r)
    (hmethod : m.method ≠ .options) (haccess : r.access ≠ .anyone) :
    w.call (dispatch s m) =
      match w.call (Guard.check (r.access = .administrator) m) with
      | (.ok p, w') => (withAllow r m (w'.call (perform s (some p) r m)).1,
          (w'.call (perform s (some p) r m)).2)
      | (.error response, w') => (withAllow r m response, w') := by
  unfold dispatch
  rw [hr]
  dsimp only
  rw [if_neg hmethod, World.call_bind, guardAndPerform_guarded s m haccess, World.call_bind]
  rcases w.call (Guard.check (r.access = .administrator) m) with ⟨verdict, w'⟩
  cases verdict with
  | ok p => rfl
  | error response => rfl

/-- What active principals may use only reads. -/
theorem call_perform_activePrincipal (s : Settings) (w : World) (p : Principal) (m : Message)
    (haccess : r.access = .activePrincipal) :
    (w.call (perform s (some p) r m)).2.store = w.store := by
  refine World.call_store_of_reads ?_
  unfold perform
  split
  · trivial
  · cases r with
    | me => trivial
    | tablePermissions =>
        exact (Service.asks_effectiveCapabilities fun _ => rfl).bind fun o => trivial
    | _ => cases haccess

/-- What anyone may use makes no calls. -/
theorem call_unguarded (s : Settings) (w : World) (r : Route) (m : Message) :
    (w.call (Endpoint.unguarded s r m)).2 = w := by
  cases r with
  | providerProfile provider =>
      simp only [Endpoint.unguarded, Endpoint.identify, Endpoint.whenRead]
      split
      · split
        · rfl
        · rfl
      · rfl
  | _ => rfl

/-- **A request is passed on exactly when it may pass.** -/
theorem passesOn_iff_admits (hscript : w.script.FaultsOnly) (hr : Route.ofPath? m.path = some r) :
    PassesOn w r m p ↔ Admits w m p := by
  have hadmin : (decide (r.access = .administrator) = true) =
      ("/api/admin/".toList <+: m.path) := by
    rw [decide_eq_true_eq]
    exact propext (Route.access_of_ofPath? hr).1
  rw [Admits, ← hadmin, PassesOn]
  exact Guard.check_eq_ok_iff hscript

/-- A request that is passed on reaches the handler after one look at the store. -/
theorem call_check_of_passesOn (hscript : w.script.FaultsOnly) (hpass : PassesOn w r m p) :
    w.call (Guard.check (r.access = .administrator) m) =
      (.ok p, { w with script := w.script.advance .resolveKey }) :=
  Guard.call_check_of_cleared hscript ((Guard.check_eq_ok_iff hscript).1 hpass)

theorem call_check_of_not_passesOn (hscript : w.script.FaultsOnly)
    (hpass : ∀ p, ¬ PassesOn w r m p) :
    ∃ response, (w.call (Guard.check (r.access = .administrator) m)).1 = .error response ∧
      400 ≤ response.status ∧
      (w.call (Guard.check (r.access = .administrator) m)).2.store.withoutLog =
        w.store.withoutLog :=
  Guard.call_check_of_not_cleared hscript fun p hp =>
    hpass p ((Guard.check_eq_ok_iff hscript).2 hp)

theorem status_withAllow (r : Route) (m : Message) (response : Response) :
    (withAllow r m response).status = response.status := by
  unfold withAllow
  split <;> rfl

/-- No resource has the method that asks beforehand. -/
theorem options_notMem_methods (r : Route) : Method.options ∉ r.methods := by
  cases r <;> simp [Route.methods]

/-! ### All requests -/

theorem call_dispatch_anyone (s : Settings) (w : World)
    (hr : Route.ofPath? m.path = some r) (hmethod : m.method ≠ .options)
    (haccess : r.access = .anyone) : (w.call (dispatch s m)).2 = w := by
  have hperform : guardAndPerform s r m = perform s none r m := by
    unfold guardAndPerform
    rw [haccess]
  have hkept : (w.call (perform s none r m)).2 = w := by
    unfold perform
    split
    · rfl
    · exact call_unguarded s w r m
  unfold dispatch
  rw [hr]
  dsimp only
  rw [if_neg hmethod, World.call_bind, hperform]
  exact hkept

/-- A request that is not passed on ends with an error, and only the audit log may show it. -/
theorem call_dispatch_of_not_passesOn (s : Settings) (hscript : w.script.FaultsOnly)
    (hr : Route.ofPath? m.path = some r) (hmethod : m.method ≠ .options)
    (haccess : r.access ≠ .anyone) (hpass : ∀ p, ¬ PassesOn w r m p) :
    400 ≤ (w.call (dispatch s m)).1.status ∧
      (w.call (dispatch s m)).2.store.withoutLog = w.store.withoutLog := by
  obtain ⟨response, herror, hstatus, hkept⟩ := call_check_of_not_passesOn hscript hpass
  rw [call_dispatch_guarded s w hr hmethod haccess]
  rcases hcheck : w.call (Guard.check (r.access = .administrator) m) with ⟨verdict, w'⟩
  rw [hcheck] at herror hkept
  cases herror
  exact ⟨(status_withAllow r m response).symm ▸ hstatus, hkept⟩

theorem respond_keeps {P : Store → Prop} (router : Router) (hw : P w.store)
    (hguarded : ∀ r, Route.ofPath? m.path = some r → m.method ≠ .options → r.access ≠ .anyone →
      P (w.call (dispatch router.settings m)).2.store) :
    P (w.call (router.respond m)).2.store := by
  rw [call_respond]
  cases hr : Route.ofPath? m.path with
  | none =>
      rw [dispatch, hr]
      exact hw
  | some r =>
      by_cases hmethod : m.method = .options
      · rw [dispatch, hr]
        dsimp only
        rw [if_pos hmethod]
        exact hw
      by_cases haccess : r.access = .anyone
      · rw [call_dispatch_anyone _ w hr hmethod haccess]
        exact hw
      · exact hguarded r hr hmethod haccess

/-- A request changes nothing but the audit log, unless it is passed on to the administration. -/
theorem withoutLog_respond (router : Router) (hscript : w.script.FaultsOnly)
    (h : ∀ r p, Route.ofPath? m.path = some r → r.access = .administrator →
      ¬ PassesOn w r m p) :
    (w.call (router.respond m)).2.store.withoutLog = w.store.withoutLog := by
  refine respond_keeps (P := fun s => s.withoutLog = w.store.withoutLog) router rfl
    fun r hr hmethod haccess => ?_
  by_cases hpass : ∃ p, PassesOn w r m p
  · obtain ⟨p, hp⟩ := hpass
    have hactive : r.access = .activePrincipal := by
      cases hr' : r.access with
      | anyone => exact absurd hr' haccess
      | activePrincipal => rfl
      | administrator => exact absurd hp (h r p hr hr')
    rw [call_dispatch_guarded _ w hr hmethod haccess, call_check_of_passesOn hscript hp]
    exact congrArg Store.withoutLog (call_perform_activePrincipal _ _ p m hactive)
  · exact (call_dispatch_of_not_passesOn _ hscript hr hmethod haccess
      fun p hp => hpass ⟨p, hp⟩).2

/-- A request that is passed on is carried out on behalf of its principal. -/
theorem call_respond_of_passesOn (router : Router) (hscript : w.script.FaultsOnly)
    (hr : Route.ofPath? m.path = some r) (hmem : m.method ∈ r.methods)
    (haccess : r.access ≠ .anyone) (hpass : PassesOn w r m p) :
    w.call (router.respond m) =
      (router.finish m (World.call { w with script := w.script.advance .resolveKey }
          (Endpoint.guarded router.settings p r m)).1,
        (World.call { w with script := w.script.advance .resolveKey }
          (Endpoint.guarded router.settings p r m)).2) := by
  have hmethod : m.method ≠ .options := fun h => options_notMem_methods r (h ▸ hmem)
  have hcontains : r.methods.contains m.method = true := List.contains_iff_mem.2 hmem
  have hperform : perform router.settings (some p) r m =
      Endpoint.guarded router.settings p r m := by
    unfold perform
    rw [hcontains]
    rfl
  rw [call_respond, call_dispatch_guarded _ w hr hmethod haccess,
    call_check_of_passesOn hscript hpass]
  dsimp only
  rw [hperform, withAllow, if_pos hcontains]

/-- **Nothing happens behind the gate's back.**  The store may fail to answer at any point.

No request changes principals or capabilities, and only a request with the token of an active
administrator changes keys or grants.  Behind the gate, a request is passed on exactly when it may
pass; it then has the response and the effect of its operation, called by the owner of the token.
Otherwise it ends with an error, and only the audit log may show it. -/
theorem mediates (router : Router) (m : Message) {w : World} (hscript : w.script.FaultsOnly) :
    ((w.call (router.respond m)).2.store.principals = w.store.principals ∧
      (w.call (router.respond m)).2.store.capabilities = w.store.capabilities) ∧
    ((w.call (router.respond m)).2.store.withoutLog ≠ w.store.withoutLog →
      ∃ token p, m.Presents token ∧ w.Resolves token p ∧ p.isAdmin = true) ∧
    (∀ r, Route.ofPath? m.path = some r → m.method ∈ r.methods →
      "/api/v1/".toList <+: m.path ∨ "/api/admin/".toList <+: m.path →
      (∀ p, PassesOn w r m p ↔ Admits w m p) ∧
      (∀ p, PassesOn w r m p → ∀ response w', World.call
          { w with script := w.script.advance .resolveKey }
          (Endpoint.guarded router.settings p r m) = (response, w') →
        w.call (router.respond m) = (router.finish m response, w')) ∧
      ((∀ p, ¬ PassesOn w r m p) → 400 ≤ (w.call (router.respond m)).1.status ∧
        (w.call (router.respond m)).2.store.withoutLog = w.store.withoutLog)) := by
  refine ⟨w.call_principals _, fun hchanged => ?_, fun r hr hmem hbelow => ?_⟩
  · -- a change needs a request that is passed on to the administration, hence an administrator
    refine Classical.byContradiction fun hnobody => ?_
    refine hchanged (withoutLog_respond router hscript fun r p hr haccess hpass => hnobody ?_)
    obtain ⟨token, htoken, hresolves, hadmin⟩ := (passesOn_iff_admits hscript hr).1 hpass
    exact ⟨token, p, htoken, hresolves, hadmin ((Route.access_of_ofPath? hr).1.1 haccess)⟩
  · have haccess : r.access ≠ .anyone := by
      intro hanyone
      obtain ⟨hadmin, hv1⟩ := Route.access_of_ofPath? hr
      obtain h | h := hbelow
      · cases hanyone.symm.trans (hv1.2 h)
      · cases hanyone.symm.trans (hadmin.2 h)
    refine ⟨fun p => passesOn_iff_admits hscript hr, fun p hpass response w' hrun => ?_,
      fun hpass => ?_⟩
    · rw [call_respond_of_passesOn router hscript hr hmem haccess hpass, hrun]
    · -- the method is one of the resource, so it is not the one that asks beforehand
      have hmethod : m.method ≠ .options := fun h => options_notMem_methods r (h ▸ hmem)
      obtain ⟨hstatus, hkept⟩ :=
        call_dispatch_of_not_passesOn router.settings hscript hr hmethod haccess hpass
      rw [call_respond]
      exact ⟨(status_finish router m _).symm ▸ hstatus, hkept⟩

/-- A world with one key, which is the administrator's. -/
def soleKey : World where
  store := (Store.empty.putPrincipal .root).putKey .year1970 ⟨1⟩ ⟨"alpha"⟩
  script := .empty
  clock := .year1970
  wall := .year1970
  drawn := 0
  random := id

/-- The administrator revokes that key and shows it for it. -/
def revokeSoleKey : Message where
  method := .delete
  path := "/api/admin/access-keys/1".toList
  query := []
  headers := [("Authorization", "Bearer alpha")]
  body := []

def local8080 : Router := ⟨⟨183, "example.org"⟩, "http://localhost:8080"⟩

theorem mediates_revokeSoleKey :
    soleKey.script.FaultsOnly ∧
    PassesOn soleKey (.accessKey ['1']) revokeSoleKey .root ∧
    (soleKey.call (local8080.respond revokeSoleKey)).1.status = 204 ∧
    (soleKey.call (local8080.respond revokeSoleKey)).2.store.accessKeys.values = [] := by
  have hscript : soleKey.script.FaultsOnly := Script.faultsOnly_empty
  have hadmits : Admits soleKey revokeSoleKey .root := by
    refine ⟨"alpha", ⟨by decide, .obj [], ⟨by decide, .inl ⟨rfl, rfl⟩⟩, by decide +kernel⟩, ?_,
      fun _ => by decide⟩
    refine ⟨fun e cues hcues => ?_, _, rfl, rfl⟩
    cases hcues
  obtain ⟨-, -, hguarded⟩ := mediates local8080 revokeSoleKey hscript
  obtain ⟨hiff, hcarriedOut, -⟩ :=
    hguarded (.accessKey ['1']) (by decide) (by decide) (.inr (by decide))
  have hpass := (hiff .root).2 hadmits
  rw [hcarriedOut _ hpass _ _ rfl, status_finish]
  exact ⟨hscript, hpass, by decide +kernel, by decide +kernel⟩

end Router

end Http

end TableAccess
