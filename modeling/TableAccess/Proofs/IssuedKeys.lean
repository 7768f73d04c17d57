/-
**A key that was issued works.**

An administrator issues a key or rotates one, with whatever token, and is answered with success.
From then on the owner, if active, gets past the gate with the token of the response, shown in a
body or in a header, and is recognized as who it is.  This stays so through all further requests, as
long as none of them rotates or revokes that very key; attempts that fail do no harm.

Main definitions:

* `Http.Message.AsksForKey`, `Http.Response.GivesKey` — a request for a key, and its success;
* `Http.Router.Replaces`, `Http.Router.Spares` — requests that replace a key, and those that do not;
* `Store.HasKey` — the keys of a store are sound, and a user has a key.

Main results:

* `Http.Router.receives_of_givesKey` — the key of the response came into the store;
* `Http.Router.hasKey_respond`, `Http.Router.hasKey_visits` — a key stays through all requests that
  spare it;
* `Http.Router.call_respond_me` — whoever holds a key is recognized by it;
* `Http.Router.issued_key_works` — **a key that was issued works**.
-/
import TableAccess.Proofs.AuditTrail
import TableAccess.Proofs.Isolation
import TableAccess.Proofs.ReceivedKeys
import TableAccess.Proofs.ShownTokens

set_option relaxedAutoImplicit false
set_option autoImplicit false

namespace TableAccess

/-! ### Who has a key -/

/-- In a store with sound keys, a user has a key. -/
structure Store.HasKey (s : Store) (u : UserId) (k : AccessKey) : Prop where
  sound : s.KeysSound
  held : ∃ r, s.accessKeys.find? u = some r ∧ r.accessKey = k

namespace Store.HasKey

variable {s t : Store} {u : UserId} {k : AccessKey} {q : AccessKeyRecord}

theorem congr (h : s.HasKey u k) (hkeys : t.accessKeys = s.accessKeys) : t.HasKey u k := by
  obtain ⟨hsound, r, hr, hk⟩ := h
  exact ⟨hsound.congr hkeys, r, hkeys ▸ hr, hk⟩

theorem of_receives (hs : s.KeysSound) (h : s.Receives q t) : t.HasKey q.userId q.accessKey :=
  ⟨h.keysSound hs, q, (h.find? q.userId).trans (if_pos rfl), rfl⟩

theorem receives (h : s.HasKey u k) (hreceives : s.Receives q t) (hother : q.userId ≠ u) :
    t.HasKey u k := by
  obtain ⟨hsound, r, hr, hk⟩ := h
  exact ⟨hreceives.keysSound hsound, r,
    ((hreceives.find? u).trans (if_neg hother)).trans hr, hk⟩

theorem erase (h : s.HasKey u k) {v : UserId} (hother : v ≠ u)
    (hkeys : t.accessKeys = s.accessKeys.erase v) : t.HasKey u k := by
  obtain ⟨hsound, r, hr, hk⟩ := h
  refine ⟨(hsound.erase v).congr hkeys, r, ?_, hk⟩
  rw [hkeys, Shelf.find?_erase, if_neg hother, hr]

end Store.HasKey

/-! ### Operations that leave a key alone -/

/-- An operation rotates or revokes the key of a user. -/
def Operation.ReplacesKeyOf (u : UserId) : Operation → Prop
  | .rotateKey user _ => user = u
  | .revokeKey user => user = u
  | _ => False

namespace World

variable {w : World} {u : UserId} {k : AccessKey} {op : Operation} {actor : Principal}
  {lifetimeDays : Nat} {v : op.Value}

/-- An audited operation that succeeds has made one change. -/
theorem change_of_ok (hw : w.script = .empty) (hop : op.changingPort? ≠ none)
    (hok : (w.run (op.service lifetimeDays actor)).1 = .ok v) :
    ∃ r, Operation.ChangesBy actor w.clock w.store op r ∧
      (w.run (op.service lifetimeDays actor)).2.store.withoutLog =
        (w.store.answer w.wall r).2.withoutLog := by
  have hcommitted := call_of_ensures (hw ▸ Script.faultsOnly_empty)
    (Operation.ensures_committed actor hop lifetimeDays)
  rw [run] at hok ⊢
  rw [hok] at hcommitted
  obtain ⟨r, hkind, -, -, hafter⟩ := hcommitted
  exact ⟨r, hkind, hafter⟩

/-- **A user keeps a key through every operation but one that rotates or revokes it.** -/
theorem hasKey_run (hw : w.script = .empty) (h : w.store.HasKey u k)
    (hop : op.changingPort? ≠ none)
    (hok : (w.run (op.service lifetimeDays actor)).1 = .ok v) (hspared : ¬ op.ReplacesKeyOf u) :
    (w.run (op.service lifetimeDays actor)).2.store.HasKey u k := by
  obtain ⟨r, hkind, hafter⟩ := change_of_ok hw hop hok
  have hkeys := (Store.withoutLog_eq_iff.1 hafter).2.1
  cases op with
  | issueKey user supplied =>
      obtain ⟨hnone, hreceives⟩ := receives_of_issue hw hok
      refine h.receives hreceives fun hu => ?_
      obtain ⟨q, hq, -⟩ := h.held
      rw [hu, hq] at hnone
      cases hnone
  | rotateKey user supplied =>
      obtain ⟨huser, hreceives⟩ := receives_of_rotate hw h.sound hok
      exact h.receives hreceives fun hu => hspared (huser.symm.trans hu)
  | revokeKey user =>
      cases hkind
      exact h.erase hspared hkeys
  | createGrant input =>
      obtain ⟨d, rfl⟩ := hkind
      exact h.congr (hkeys.trans (Store.answer_accessKeys (by simp [Request.changes?])))
  | updateGrant id forceRevoke =>
      obtain ⟨g, -, rfl⟩ := hkind
      exact h.congr (hkeys.trans (Store.answer_accessKeys (by simp [Request.changes?])))
  | deleteGrant id =>
      cases hkind
      exact h.congr (hkeys.trans (Store.answer_accessKeys (by simp [Request.changes?])))
  | sweepGrants =>
      cases hkind
      exact h.congr (hkeys.trans (Store.answer_accessKeys (by simp [Request.changes?])))
  | _ => exact absurd rfl hop

end World

namespace Http

/-! ### Requests and responses -/

/-- A request asks to issue a key, or to rotate one. -/
def Message.AsksForKey (m : Message) : Prop :=
  m.method = .post ∧ m.path = "/api/admin/access-keys".toList ∨
    m.method = .put ∧ ∃ word, Route.ofPath? m.path = some (.accessKey word)

/-- A response reports success, and names a user and the user's token. -/
def Response.GivesKey (response : Response) (u : UserId) (token : String) : Prop :=
  response.status < 400 ∧ ∃ v, response.body = .json v ∧ v.get? "user_id" = some (.int u.value) ∧
    v.get? "access_key" = some (.str token)

/-- A request asks to rotate or to revoke the key of a user. -/
def Message.AboutKeyOf (m : Message) (u : UserId) : Prop :=
  (m.method = .put ∨ m.method = .delete) ∧ ∃ word, Route.ofPath? m.path = some (.accessKey word) ∧
    Parameter.identifier "user_id" word = .ok u.value

namespace Router

/-- A request rotates or revokes the key of a user: it asks for that, and is answered with
success. -/
def Replaces (router : Router) (w : World) (m : Message) (u : UserId) : Prop :=
  m.AboutKeyOf u ∧ (w.call (router.respond m)).1.status < 400

/-- Requests that arrive one after the other spare the key of a user: none of them rotates or
revokes it. -/
def Spares (router : Router) (u : UserId) : List Visit → World → Prop
  | [], _ => True
  | v :: vs, w => ¬ router.Replaces (v.finds w) v.message u ∧ Spares router u vs (router.visit w v)

end Router

/-! ### The request for a key -/

theorem Parameter.le_status_of_identifier {name : String} {word : List Char} {response : Response}
    (h : identifier name word = .error response) : 400 ≤ response.status := by
  unfold identifier text at h
  split at h
  · next r hword =>
      split at hword
      · cases hword
      · cases hword
        cases h
        exact Nat.le_refl 400
  · split at h
    · cases h
    · cases h
      exact Nat.le_refl 400

/-- The resource and the method of a request for a key. -/
def Route.GivesKey (r : Route) (method : Method) : Prop :=
  r = .accessKeys ∧ method = .post ∨ (∃ word, r = .accessKey word) ∧ method = .put

theorem Message.AsksForKey.route {m : Message} (h : m.AsksForKey) :
    ∃ r, Route.ofPath? m.path = some r ∧ r.GivesKey m.method := by
  obtain ⟨hmethod, hpath⟩ | ⟨hmethod, word, hr⟩ := h
  · exact ⟨.accessKeys, by rw [hpath]; decide, .inl ⟨rfl, hmethod⟩⟩
  · exact ⟨_, hr, .inr ⟨⟨word, rfl⟩, hmethod⟩⟩

theorem Route.GivesKey.access {r : Route} {method : Method} (h : r.GivesKey method) :
    method ∈ r.methods ∧ r.access = .administrator := by
  obtain ⟨rfl, rfl⟩ | ⟨⟨word, rfl⟩, rfl⟩ := h
  · exact ⟨by decide, rfl⟩
  · exact ⟨by simp [methods], rfl⟩

namespace Endpoint

variable {m : Message} {r : Route}

theorem guarded_of_givesKey (s : Settings) (p : Principal) (hr : r.GivesKey m.method) :
    (∃ response, guarded s p r m = pure response ∧ 400 ≤ response.status) ∨
    (∃ user supplied, operation? r m = some (.issueKey user supplied)) ∨
    ∃ user supplied, operation? r m = some (.rotateKey user supplied) := by
  obtain ⟨rfl, hmethod⟩ | ⟨⟨word, rfl⟩, hmethod⟩ := hr
  · simp only [guarded, operation?, hmethod, issueKey]
    cases IssueBody.read m.body with
    | error e => exact .inl ⟨_, rfl, Guard.le_status_ofError e⟩
    | ok b => exact .inr (.inl ⟨_, _, rfl⟩)
  · simp only [guarded, operation?, hmethod, rotateKey]
    cases hword : Parameter.identifier "user_id" word with
    | error response => exact .inl ⟨_, rfl, Parameter.le_status_of_identifier hword⟩
    | ok u =>
        cases RotateBody.read m.body with
        | error e => exact .inl ⟨_, rfl, Guard.le_status_ofError e⟩
        | ok b => exact .inr (.inr ⟨_, _, rfl⟩)

theorem identifier_of_toOption {word : List Char} {n : Int}
    (h : (Parameter.identifier "user_id" word).toOption = some n) :
    Parameter.identifier "user_id" word = .ok n := by
  cases hword : Parameter.identifier "user_id" word with
  | error response =>
      rw [hword] at h
      cases h
  | ok n' =>
      rw [hword] at h
      cases h
      rfl

/-- Only the requests about the key of a user rotate or revoke it. -/
theorem route_of_replacesKeyOf {op : Operation} {u : UserId} (h : operation? r m = some op)
    (hop : op.ReplacesKeyOf u) :
    ∃ word, r = .accessKey word ∧ Parameter.identifier "user_id" word = .ok u.value := by
  -- every other resource and method has an operation of another kind
  unfold operation? at h
  cases op with
  | rotateKey user supplied =>
      split at h <;> simp only [Option.bind_eq_bind, Option.bind_eq_some_iff, Option.some.injEq,
        reduceCtorEq, and_false, exists_false, Operation.rotateKey.injEq] at h
      obtain ⟨n, hn, b, -, rfl, -⟩ := h
      exact ⟨_, rfl, hop ▸ identifier_of_toOption hn⟩
  | revokeKey user =>
      split at h <;> simp only [Option.bind_eq_bind, Option.bind_eq_some_iff, Option.some.injEq,
        reduceCtorEq, and_false, exists_false, Operation.revokeKey.injEq] at h
      obtain ⟨n, hn, rfl⟩ := h
      exact ⟨_, rfl, hop ▸ identifier_of_toOption hn⟩
  | _ => exact hop.elim

theorem status_reply_ok (op : Operation) (v : op.Value) : (reply op (.ok v)).status < 400 := by
  cases op <;> exact Nat.le_of_ble_eq_true rfl

end Endpoint

namespace Router

variable {router : Router} {w : World} {m : Message} {u : UserId} {token : String}

/-- A request for a key that is answered with success reaches the operation that issues or rotates
one. -/
theorem reaches_of_asksForKey (hscript : w.script.FaultsOnly) (hm : m.AsksForKey)
    (hstatus : (w.call (router.respond m)).1.status < 400) :
    ∃ p user supplied, Reaches w m p (.issueKey user supplied) ∨
      Reaches w m p (.rotateKey user supplied) := by
  obtain ⟨r, hr, hgives⟩ := hm.route
  obtain ⟨hmem, hadmin⟩ := hgives.access
  have haccess : r.access ≠ .anyone := by simp [hadmin]
  by_cases hpass : ∃ p, PassesOn w r m p
  · obtain ⟨p, hp⟩ := hpass
    obtain ⟨response, hguarded, hrefused⟩ | ⟨user, supplied, hop⟩ | ⟨user, supplied, hop⟩ :=
      Endpoint.guarded_of_givesKey router.settings p hgives
    · rw [call_respond_of_passesOn router hscript hr hmem haccess hp, hguarded,
        status_finish] at hstatus
      exact absurd hrefused (Nat.not_le.2 hstatus)
    · exact ⟨p, user, supplied, .inl ⟨r, hr, hmem, hp, hop⟩⟩
    · exact ⟨p, user, supplied, .inr ⟨r, hr, hmem, hp, hop⟩⟩
  · have hmethod : m.method ≠ .options := fun h => options_notMem_methods r (h ▸ hmem)
    obtain ⟨hrefused, -⟩ := call_dispatch_of_not_passesOn router.settings hscript hr hmethod haccess
      fun p hp => hpass ⟨p, hp⟩
    rw [call_respond, status_finish] at hstatus
    exact absurd hrefused (Nat.not_le.2 hstatus)

theorem outcome_of_empty (hscript : w.script = .empty) (p : Principal) (op : Operation) :
    router.outcome w p op = w.run (op.service router.settings.lifetimeDays p) := by
  rw [outcome, World.advance_of_empty hscript]

theorem outcome_of_succeeded (hscript : w.script = .empty) {p : Principal} {op : Operation}
    (hreaches : Reaches w m p op) (hstatus : (w.call (router.respond m)).1.status < 400) :
    ∃ v, (w.run (op.service router.settings.lifetimeDays p)).1 = .ok v ∧
      w.call (router.respond m) = (router.finish m (Endpoint.reply op (.ok v)),
        (w.run (op.service router.settings.lifetimeDays p)).2) := by
  have hcall : w.call (router.respond m) = (router.finish m (Endpoint.reply op
      (router.outcome w p op).1), (router.outcome w p op).2) :=
    call_respond_of_reaches (hscript ▸ Script.faultsOnly_empty) hreaches
  rw [outcome_of_empty hscript] at hcall
  cases hend : (w.run (op.service router.settings.lifetimeDays p)).1 with
  | error e =>
      rw [hcall, hend, Endpoint.reply_error, status_finish] at hstatus
      exact absurd (Guard.le_status_ofError e) (Nat.not_le.2 hstatus)
  | ok v =>
      rw [hend] at hcall
      exact ⟨v, rfl, hcall⟩

theorem body_finish (router : Router) (hmethod : m.method ≠ .head) (response : Response) :
    (router.finish m response).body = response.body := by
  rw [finish, if_neg hmethod]
  rfl

theorem record_of_givesKey (hm : m.AsksForKey) {status : Nat} {q : AccessKeyRecord}
    (hgives : (router.finish m (.ofJson status (View.keyRecord q))).GivesKey u token) :
    q.userId = u ∧ q.accessKey.token = token := by
  have hmethod : m.method ≠ .head := by
    obtain ⟨hmethod, -⟩ | ⟨hmethod, -⟩ := hm
    · simp [hmethod]
    · simp [hmethod]
  obtain ⟨-, v, hbody, huser, htoken⟩ := hgives
  rw [body_finish router hmethod] at hbody
  cases hbody
  have hvalue : q.userId.value = u.value := Json.int.inj (Option.some.inj huser)
  exact ⟨Id.ext hvalue, Json.str.inj (Option.some.inj htoken)⟩

/-- **The key of the response came into the store.** -/
theorem receives_of_givesKey (hscript : w.script = .empty) (hs : w.store.KeysSound)
    (hm : m.AsksForKey) (hgives : (w.call (router.respond m)).1.GivesKey u token) :
    ∃ q, q.userId = u ∧ q.accessKey.token = token ∧
      w.store.Receives q (w.call (router.respond m)).2.store := by
  obtain ⟨p, user, supplied, hreaches | hreaches⟩ :=
    reaches_of_asksForKey (hscript ▸ Script.faultsOnly_empty) hm hgives.1
  · obtain ⟨q, hq, hcall⟩ := outcome_of_succeeded hscript hreaches hgives.1
    rw [hcall] at hgives ⊢
    obtain ⟨huser, htoken⟩ := record_of_givesKey hm hgives
    obtain ⟨-, hreceives⟩ := World.receives_of_issue hscript hq
    exact ⟨q, huser, htoken, hreceives⟩
  · obtain ⟨q, hq, hcall⟩ := outcome_of_succeeded hscript hreaches hgives.1
    rw [hcall] at hgives ⊢
    obtain ⟨huser, htoken⟩ := record_of_givesKey hm hgives
    obtain ⟨-, hreceives⟩ := World.receives_of_rotate hscript hs hq
    exact ⟨q, huser, htoken, hreceives⟩

/-! ### Later requests -/

theorem aboutKeyOf_of_reaches {p : Principal} {op : Operation} (hreaches : Reaches w m p op)
    (hop : op.ReplacesKeyOf u) : m.AboutKeyOf u := by
  obtain ⟨r, hr, hmem, -, hoperation⟩ := hreaches
  obtain ⟨word, rfl, hword⟩ := Endpoint.route_of_replacesKeyOf hoperation hop
  exact ⟨by simpa [Route.methods] using hmem, word, hr, hword⟩

/-- **A user keeps a key through every request that spares it.** -/
theorem hasKey_respond (hscript : w.script = .empty) {k : AccessKey} (h : w.store.HasKey u k)
    (hspared : ¬ router.Replaces w m u) : (w.call (router.respond m)).2.store.HasKey u k := by
  by_cases hsame : (w.call (router.respond m)).2.store.withoutLog = w.store.withoutLog
  · exact h.congr (Store.withoutLog_eq_iff.1 hsame).2.1
  have hfaults : w.script.FaultsOnly := hscript ▸ Script.faultsOnly_empty
  obtain ⟨p, op, action, records, v, hreaches, haudit, hend⟩ := reaches_of_changed hfaults hsame
  have hop := (op.changes_iff_audited w.clock).2 ⟨action, records, haudit⟩
  have hcall : w.call (router.respond m) = (router.finish m (Endpoint.reply op
      (router.outcome w p op).1), (router.outcome w p op).2) :=
    call_respond_of_reaches hfaults hreaches
  rw [hend] at hcall
  rw [outcome_of_empty hscript] at hend hcall
  rw [hcall]
  refine World.hasKey_run hscript h hop hend fun hreplaces => hspared ?_
  refine ⟨aboutKeyOf_of_reaches hreaches hreplaces, ?_⟩
  rw [hcall, status_finish]
  exact Endpoint.status_reply_ok op v

/-- **A key stays through all requests that spare it**, and so do the principals. -/
theorem hasKey_visits {k : AccessKey} {vs : List Visit} (hscript : w.script = .empty)
    (h : w.store.HasKey u k) (hspared : router.Spares u vs w) :
    (router.visits vs w).script = .empty ∧ (router.visits vs w).store.HasKey u k ∧
      (router.visits vs w).store.principals = w.store.principals := by
  induction vs generalizing w with
  | nil => exact ⟨hscript, h, rfl⟩
  | cons v vs ih =>
      obtain ⟨hv, hvs⟩ := hspared
      have hkept := (v.finds w).call_principals (router.respond v.message)
      obtain ⟨hlater, hkey, hprincipals⟩ :=
        ih (World.script_call (w := v.finds w) hscript _)
          (hasKey_respond (w := v.finds w) hscript h hv) hvs
      exact ⟨hlater, hkey, hprincipals.trans hkept.1⟩

/-! ### Whoever holds a key -/

/-- **Whoever holds a key is recognized by it.** -/
theorem call_respond_me (hscript : w.script = .empty) {k : AccessKey} (h : w.store.HasKey u k)
    {p : Principal} (hp : w.store.principals.find? u = some p) (hactive : p.active = true)
    (hmethod : m.method = .post) (hpath : m.path = "/api/v1/me".toList)
    (hshows : m.Shows k.token) :
    (w.call (router.respond m)).1 = router.finish m (.ofJson 200 (View.principal p)) := by
  obtain ⟨hsound, r, hr, rfl⟩ := h
  have hresolves : w.Resolves r.accessKey.token p := by
    refine ⟨fun e cues => ?_, r, ?_, hactive⟩
    · intro hcues
      rw [hscript] at hcues
      cases hcues
    · rw [hsound.resolveKey_of_held hr, hp]
  have hroute : Route.ofPath? m.path = some .me := by
    rw [hpath]
    decide
  exact (call_respond_own router hscript hroute (hmethod ▸ List.mem_singleton_self _) rfl
    (hshows.presents (hsound.accepted u r hr)) hresolves).1

/-- **A key that was issued works.**  In a world in which nothing is prepared, with sound keys, a
request to issue or to rotate a key is answered with success, and gives a user a token; and the
principal of that user is active.  Then come any requests that do not rotate or revoke the key of
the user.  At any time afterwards, a request with the token for the identity of its owner, which
shows the token in its body or in its header, is answered with the identity of the user. -/
theorem issued_key_works (router : Router) (hscript : w.script = .empty) (hs : w.store.KeysSound)
    (hm : m.AsksForKey) (hgives : (w.call (router.respond m)).1.GivesKey u token) {p : Principal}
    (hp : (w.call (router.respond m)).2.store.principals.find? u = some p) (hid : p.id = u)
    (hactive : p.active = true) {vs : List Visit}
    (hspared : router.Spares u vs (w.call (router.respond m)).2) {v : Visit}
    (hmethod : v.message.method = .post) (hpath : v.message.path = "/api/v1/me".toList)
    (hshows : v.message.Shows token) :
    let later := v.finds (router.visits vs (w.call (router.respond m)).2)
    (later.call (router.respond v.message)).1.status = 200 ∧
      (later.call (router.respond v.message)).1.body = .json (View.principal p) ∧
      (View.principal p).get? "user_id" = some (.int u.value) := by
  intro later
  obtain ⟨q, rfl, rfl, hreceives⟩ := receives_of_givesKey hscript hs hm hgives
  obtain ⟨hlater, hkey, hprincipals⟩ := hasKey_visits (World.script_call hscript _)
    (.of_receives hs hreceives) hspared
  have hresponse : (later.call (router.respond v.message)).1 =
      router.finish v.message (.ofJson 200 (View.principal p)) :=
    call_respond_me (w := later) hlater hkey (hprincipals.symm ▸ hp) hactive hmethod hpath hshows
  rw [hresponse]
  refine ⟨status_finish router v.message _, body_finish router (by simp [hmethod]) _, ?_⟩
  rw [← hid]
  rfl

/-- A world with an administrator, who has a key, and a user without one. -/
def oneWithout : World :=
  plain (((Store.empty.putPrincipal .root).putPrincipal .ann).putKey .year1970 ⟨1⟩ ⟨"alpha"⟩)

/-- The administrator gives the user a key, and types blanks around it. -/
def issueGamma : Message where
  method := .post
  path := "/api/admin/access-keys".toList
  query := []
  headers := [("Authorization", "Bearer alpha")]
  body := "\x7b\"user_id\":2,\"new_access_key\":\" gamma \"\x7d".toList.map fun c => c.toUInt8

/-- The administrator tries to rotate that key at once, but to the same token. -/
def rotateToGamma : Visit where
  message :=
    { method := .put
      path := "/api/admin/access-keys/2".toList
      query := []
      headers := [("Authorization", "Bearer alpha")]
      body := "\x7b\"new_access_key\":\"gamma\"\x7d".toList.map fun c => c.toUInt8 }
  clock := .year1970
  wall := .year1970

/-- The user asks who it is. -/
def askAsGamma (headers : List (String × String)) (body : List UInt8) : Visit :=
  ⟨⟨.post, "/api/v1/me".toList, [], headers, body⟩, .year1970, .year1970⟩

theorem issued_key_works_gamma :
    oneWithout.store.KeysSound ∧ issueGamma.AsksForKey ∧
    (oneWithout.call (local8080.respond issueGamma)).1.GivesKey ⟨2⟩ "gamma" ∧
    local8080.Spares ⟨2⟩ [rotateToGamma] (oneWithout.call (local8080.respond issueGamma)).2 ∧
    ∀ v ∈ [askAsGamma [] (Utf8.encode (tokenRecord "gamma").render),
        askAsGamma [("authorization", "Bearer gamma")] []],
      ((v.finds (local8080.visits [rotateToGamma]
        (oneWithout.call (local8080.respond issueGamma)).2)).call
          (local8080.respond v.message)).1.status = 200 := by
  have halpha : (⟨"alpha"⟩ : AccessKey).Accepted := ⟨"alpha", by decide⟩
  have hprincipals : ((Store.empty.putPrincipal .root).putPrincipal .ann).KeysSound :=
    Store.KeysSound.empty.congr rfl
  have hsound : oneWithout.store.KeysSound :=
    hprincipals.putKey .year1970 halpha fun v q _ hq => by cases hq
  have hgives : (oneWithout.call (local8080.respond issueGamma)).1.GivesKey ⟨2⟩ "gamma" :=
    ⟨by decide +kernel, _, rfl, rfl, rfl⟩
  have hspared : local8080.Spares ⟨2⟩ [rotateToGamma]
      (oneWithout.call (local8080.respond issueGamma)).2 := by
    refine ⟨fun hreplaces => ?_, trivial⟩
    exact absurd hreplaces.2 (by decide +kernel)
  have hvisible : ∀ c ∈ "gamma".toList, isVisible c = true := List.all_eq_true.1 (by decide)
  refine ⟨hsound, .inl ⟨rfl, rfl⟩, hgives, hspared, fun v hv => ?_⟩
  simp only [List.mem_cons, List.not_mem_nil, or_false] at hv
  obtain rfl | rfl := hv
  · exact (issued_key_works local8080 rfl hsound (.inl ⟨rfl, rfl⟩) hgives (p := .ann) rfl rfl rfl
      hspared rfl rfl (.inText rfl)).1
  · exact (issued_key_works local8080 rfl hsound (.inl ⟨rfl, rfl⟩) hgives (p := .ann) rfl rfl rfl
      hspared rfl rfl (.inHeader rfl rfl hvisible)).1

end Router

end Http

end TableAccess
