/-
**The gate fails closed.**

Over a database the gate sends one statement, and what is replied decides alone who passes.  Many
things may be wrong with the reply: it may be a fault, or a row in which values are absent, or one
whose key would not be accepted.  Nobody passes on account of any of these.

Main definitions:

* `Tells` — what a reply tells of a key and its owner;
* `OwnedKeyRow.Vouches` — what is told is enough to let somebody pass;
* `Rejected`, `Unanswered` — somebody is turned away, and the store could not say;
* `FailsClosed` — what the gate makes of a reply.

Main results:

* `tells_iff` — what a reply tells is what is read of its first row;
* `judge_owner_iff` — who passes, once a row was read;
* `gate_fails_closed` — the gate makes this of every reply.
-/
import TableAccess.Gate
import TableAccess.Proofs.Clearance
import TableAccess.Proofs.Columns
import TableAccess.Proofs.DatabaseCalls

set_option relaxedAutoImplicit false
set_option autoImplicit false

namespace TableAccess

namespace Database

open Attempt (failed firstRow single)

variable {reply : Except Fault Result} {k : OwnedKeyRow} {p : Principal} {administration : Bool}
variable {o : Except GateError Principal} {payload : Json} {token : String}

/-! ### What is replied -/

/-- The first row of the reply tells this of a key and its owner. -/
def Tells (reply : Except Fault Result) (k : OwnedKeyRow) : Prop :=
  ∃ row rows affected, reply = .ok ⟨row :: rows, affected⟩ ∧ k.ReadFrom row

/-- There is no row. -/
def FindsNothing (reply : Except Fault Result) : Prop := ∃ affected, reply = .ok ⟨[], affected⟩

/-- **What a reply tells is what is read of its first row.** -/
theorem tells_iff : Tells reply k ↔ reply >>= firstRow readOwnedKey = .ok (some k) := by
  constructor
  · rintro ⟨row, rows, affected, rfl, hrow⟩
    exact congrArg (Except.map some) (readOwnedKey_eq_ok_iff.2 hrow)
  · intro h
    rcases reply with f | ⟨_ | ⟨row, rows⟩, affected⟩
    · cases h
    · cases h
    · change (readOwnedKey row).map some = _ at h
      cases hrow : readOwnedKey row with
      | error f =>
          rw [hrow] at h
          cases h
      | ok k' =>
          rw [hrow] at h
          cases h
          exact ⟨row, rows, affected, rfl, readOwnedKey_eq_ok_iff.1 hrow⟩

theorem findsNothing_iff : FindsNothing reply ↔ reply >>= firstRow readOwnedKey = .ok none := by
  constructor
  · rintro ⟨affected, rfl⟩
    rfl
  · intro h
    rcases reply with f | ⟨_ | ⟨row, rows⟩, affected⟩
    · cases h
    · exact ⟨affected, rfl⟩
    · change (readOwnedKey row).map some = _ at h
      cases hrow : readOwnedKey row <;> rw [hrow] at h <;> cases h

/-! ### What is made of it -/

/-- What is told of a key is enough to let somebody pass: the key is one that would be accepted, its
owner is known and active and, if that is asked for, an administrator. -/
structure OwnedKeyRow.Vouches (administration : Bool) (k : OwnedKeyRow) (p : Principal) : Prop where
  accepted : ∃ key, AccessKey.ofText k.key.token = .ok key
  id : k.principalId = some p.id
  username : k.username = some p.username
  active : k.active = some true
  admin : administration = true → "Admin" ∈ k.roles
  principal : p = ⟨p.id, p.username, k.firstName.getD "", k.lastName.getD "", k.email, true,
    .ofList k.roles⟩

/-- The request is turned away for a reason of the kind, on account of the user. -/
def Rejected (o : Except GateError Principal) (kind : GateRejection.Kind) (user : Option UserId) :
    Prop :=
  ∃ r, o = .error (.rejected r) ∧ r.kind = kind ∧ r.userId = user

/-- The store could not say who the request is from. -/
def Unanswered (o : Except GateError Principal) : Prop :=
  ∃ e, o = .error (.store e) ∧ e.kind = .internal

/-- What the gate makes of a reply. -/
structure FailsClosed (administration : Bool) (reply : Except Fault Result)
    (o : Except GateError Principal) : Prop where
  /-- Just those pass for whom the reply vouches. -/
  admits_iff : ∀ p, o = .ok p ↔ ∃ k, Tells reply k ∧ k.Vouches administration p
  /-- Nobody has the token. -/
  unknown : FindsNothing reply → Rejected o .invalidCredential none
  /-- The owner is gone or may not authenticate. -/
  inactive : ∀ k key, Tells reply k → AccessKey.ofText k.key.token = .ok key →
    (k.principalId = none ∨ k.username = none ∨ k.active ≠ some true) →
    Rejected o .inactivePrincipal (some k.key.userId)
  /-- The owner could pass where no administrator is asked for. -/
  denied : ∀ k p, Tells reply k → k.Vouches false p → administration = true → "Admin" ∉ k.roles →
    Rejected o .permissionDenied (some k.key.userId)
  /-- The key that is stored would not be accepted. -/
  unacceptable : ∀ k, Tells reply k → (∀ key, AccessKey.ofText k.key.token ≠ .ok key) →
    Unanswered o
  /-- There is a fault, or a row that cannot be read. -/
  unread : ¬ FindsNothing reply → (∀ k, ¬ Tells reply k) → Unanswered o

/-! ### A row that was read -/

theorem keyed_of_accepted {key : AccessKey} (hkey : AccessKey.ofText k.key.token = .ok key) :
    ∃ record, k.keyed = .ok ⟨record, k.principal⟩ ∧ record.userId = k.key.userId := by
  refine ⟨⟨k.key.userId, key, k.key.createdAt, k.key.changedAt, k.key.changedBy⟩, ?_, rfl⟩
  rw [OwnedKeyRow.keyed, KeyRow.record, hkey]
  rfl

theorem keyed_of_not_accepted (hkey : ∀ key, AccessKey.ofText k.key.token ≠ .ok key) :
    ∃ e, k.keyed = .error e ∧ e.kind = .internal := by
  cases hofText : AccessKey.ofText k.key.token with
  | error e =>
      refine ⟨badStoredKey k.key.userId e, ?_, rfl⟩
      rw [OwnedKeyRow.keyed, KeyRow.record, hofText]
      rfl
  | ok key => exact absurd hofText (hkey key)

theorem principal_eq_some_iff : k.principal = some p ↔
    k.principalId = some p.id ∧ k.username = some p.username ∧
      p = ⟨p.id, p.username, k.firstName.getD "", k.lastName.getD "", k.email, k.active.getD false,
        .ofList k.roles⟩ := by
  unfold OwnedKeyRow.principal
  constructor
  · intro h
    split at h
    · next hid husername =>
        cases h
        exact ⟨hid, husername, rfl⟩
    · cases h
  · rintro ⟨hid, husername, hp⟩
    rw [hid, husername]
    exact congrArg some hp.symm

theorem isAdmin_iff (hroles : p.roles = .ofList k.roles) :
    p.isAdmin = true ↔ "Admin" ∈ k.roles := by
  rw [Principal.isAdmin, hroles, List.contains_iff_mem, Ascending.mem_ofList]
  rfl

/-- A row with an acceptable key vouches for its owner, who must be active and, if that is asked
for, an administrator. -/
theorem vouches_iff {key : AccessKey} (hkey : AccessKey.ofText k.key.token = .ok key) :
    k.Vouches administration p ↔
      k.principal = some p ∧ p.active = true ∧ (administration = true → p.isAdmin = true) := by
  constructor
  · intro h
    have hactive : k.active.getD false = true := by rw [h.active, Option.getD_some]
    refine ⟨principal_eq_some_iff.2 ⟨h.id, h.username, ?_⟩, ?_, fun ha => ?_⟩
    · rw [hactive]
      exact h.principal
    · rw [h.principal]
    · exact (isAdmin_iff (by rw [h.principal])).2 (h.admin ha)
  · rintro ⟨hprincipal, hactive, hadmin⟩
    obtain ⟨hid, husername, hp⟩ := principal_eq_some_iff.1 hprincipal
    have hgetD : k.active.getD false = true := by rwa [hp] at hactive
    refine ⟨⟨key, hkey⟩, hid, husername, ?_, fun ha => ?_, ?_⟩
    · cases hk : k.active with
      | none =>
          rw [hk] at hgetD
          cases hgetD
      | some active =>
          rw [hk] at hgetD
          exact congrArg some hgetD
    · exact (isAdmin_iff (by rw [hp])).1 (hadmin ha)
    · rwa [hgetD] at hp

/-- **Who passes, once a row was read**: those for whom it vouches. -/
theorem judge_owner_iff : Gate.judge payload administration token (k.keyed.map some) = .ok p ↔
    k.Vouches administration p := by
  rw [Http.Guard.judge_eq_ok_iff]
  cases hkey : AccessKey.ofText k.key.token with
  | error e =>
      -- the stored key would not be accepted, so nothing is known and nobody is vouched for
      constructor
      · rintro ⟨record, hkeyed, -⟩
        obtain ⟨e', he', -⟩ := keyed_of_not_accepted (k := k) (by simp [hkey])
        rw [he'] at hkeyed
        cases hkeyed
      · intro h
        obtain ⟨key, hok⟩ := h.accepted
        cases hkey.symm.trans hok
  | ok key =>
      obtain ⟨record, hkeyed, -⟩ := keyed_of_accepted hkey
      rw [vouches_iff hkey, hkeyed]
      constructor
      · rintro ⟨record', h, hp⟩
        exact ⟨congrArg KeyedPrincipal.principal (Option.some.inj (Except.ok.inj h)), hp⟩
      · rintro ⟨h, hp⟩
        rw [h]
        exact ⟨record, rfl, hp⟩

theorem judge_inactive {key : AccessKey} (hkey : AccessKey.ofText k.key.token = .ok key)
    (h : k.principalId = none ∨ k.username = none ∨ k.active ≠ some true) :
    Rejected (Gate.judge payload administration token (k.keyed.map some)) .inactivePrincipal
      (some k.key.userId) := by
  obtain ⟨record, hkeyed, huser⟩ := keyed_of_accepted hkey
  rw [hkeyed, ← huser]
  cases hprincipal : k.principal with
  | none => exact ⟨_, rfl, rfl, rfl⟩
  | some p =>
      have hinactive : p.active = false := by
        refine Bool.eq_false_iff.2 fun hactive => ?_
        have hvouches : k.Vouches false p :=
          (vouches_iff hkey).2 ⟨hprincipal, hactive, fun ha => by cases ha⟩
        simp [hvouches.id, hvouches.username, hvouches.active] at h
      refine ⟨Gate.inactiveOwner payload record.userId p, ?_, rfl, rfl⟩
      change (Gate.judgeKey payload administration ⟨record, some p⟩).mapError GateError.rejected = _
      simp only [Gate.judgeKey, hinactive]
      rfl

theorem judge_denied (h : k.Vouches false p) (hroles : "Admin" ∉ k.roles) :
    Rejected (Gate.judge payload true token (k.keyed.map some)) .permissionDenied
      (some k.key.userId) := by
  obtain ⟨key, hkey⟩ := h.accepted
  obtain ⟨record, hkeyed, huser⟩ := keyed_of_accepted hkey
  obtain ⟨hprincipal, hactive, -⟩ := (vouches_iff hkey).1 h
  have hadmin : p.isAdmin = false :=
    Bool.eq_false_iff.2 fun hadmin => hroles ((isAdmin_iff (by rw [h.principal])).1 hadmin)
  rw [hkeyed, ← huser, hprincipal]
  refine ⟨Gate.notAdministrator payload record.userId p, ?_, rfl, rfl⟩
  change (Gate.judgeKey payload true ⟨record, some p⟩).mapError GateError.rejected = _
  simp only [Gate.judgeKey, hactive, hadmin]
  rfl

/-! ### Every reply -/

/-- Who has the token, by what is read of the row that was found. -/
def ownerOf (row : Option OwnedKeyRow) : Outcome (Option KeyedPrincipal) :=
  row.elim (.ok none) fun k => k.keyed.map some

theorem resolveKey_eq (token : String) :
    resolveKey token =
      single (failed "resolve access key") (.resolveKey token) (firstRow readOwnedKey) >>=
        fun row => Attempt.ofOutcome (ownerOf row) := by
  refine congrArg (_ >>= ·) (funext fun row => ?_)
  cases row <;> rfl

/-- When nothing is told of a key, nobody passes. -/
theorem failsClosed_of_untold (htold : ∀ k, ¬ Tells reply k)
    (hunknown : FindsNothing reply → Rejected o .invalidCredential none)
    (hunread : ¬ FindsNothing reply → Unanswered o) : FailsClosed administration reply o where
  admits_iff p := by
    constructor
    · rintro rfl
      by_cases hnothing : FindsNothing reply
      · obtain ⟨r, hr, -⟩ := hunknown hnothing
        cases hr
      · obtain ⟨e, he, -⟩ := hunread hnothing
        cases he
    · rintro ⟨k, hk, -⟩
      exact absurd hk (htold k)
  unknown := hunknown
  inactive k _ hk := absurd hk (htold k)
  denied k _ hk := absurd hk (htold k)
  unacceptable k hk := absurd hk (htold k)
  unread h _ := hunread h

/-- When a row was read, its key and its owner decide. -/
theorem failsClosed_of_tells (htells : Tells reply k) :
    FailsClosed administration reply
      (Gate.judge payload administration token (k.keyed.map some)) := by
  have hsame : ∀ k', Tells reply k' → k' = k := fun k' hk' => by
    cases (tells_iff.1 htells).symm.trans (tells_iff.1 hk')
    rfl
  constructor
  case admits_iff =>
    refine fun p => judge_owner_iff.trans ⟨fun h => ⟨k, htells, h⟩, ?_⟩
    rintro ⟨k', hk', h⟩
    exact hsame k' hk' ▸ h
  case unknown =>
    intro h
    cases (tells_iff.1 htells).symm.trans (findsNothing_iff.1 h)
  case inactive =>
    intro k' key hk' hkey h
    obtain rfl := hsame k' hk'
    exact judge_inactive hkey h
  case denied =>
    rintro k' p hk' hp rfl hroles
    obtain rfl := hsame k' hk'
    exact judge_denied hp hroles
  case unacceptable =>
    intro k' hk' hkey
    obtain rfl := hsame k' hk'
    obtain ⟨e, he, hkind⟩ := keyed_of_not_accepted hkey
    rw [he]
    exact ⟨e, rfl, hkind⟩
  case unread => exact fun _ h => absurd htells (h k)

/-- **What the gate makes of a reply.** -/
theorem judge_failsClosed (payload : Json) (administration : Bool) (token : String)
    (reply : Except Fault Result) (error : Fault → AppError)
    (herror : ∀ f, (error f).kind = .internal) :
    FailsClosed administration reply (Gate.judge payload administration token
      ((reply >>= firstRow readOwnedKey).mapError error >>= ownerOf)) := by
  cases hread : reply >>= firstRow readOwnedKey with
  | error f =>
      refine failsClosed_of_untold (fun k hk => ?_) (fun h => ?_) fun _ => ⟨error f, rfl, herror f⟩
      · cases hread.symm.trans (tells_iff.1 hk)
      · cases hread.symm.trans (findsNothing_iff.1 h)
  | ok row =>
      cases row with
      | none =>
          refine failsClosed_of_untold (fun k hk => ?_) (fun _ => ⟨_, rfl, rfl, rfl⟩)
            fun h => absurd (findsNothing_iff.2 hread) h
          cases hread.symm.trans (tells_iff.1 hk)
      | some k => exact failsClosed_of_tells (tells_iff.2 hread)

/-- **The gate fails closed**, whatever the database replies.  A token that is not empty is looked
up with one statement, whose only value is the token as it was presented, and what is replied
decides as said above; without a connection nobody passes. -/
theorem gate_fails_closed {token : String} (htoken : token ≠ "") (payload : Json)
    (administration : Bool) :
    (Gate.authenticate ⟨some token, payload⟩ administration).Ensures overDatabase (fun o tss =>
      (∃ f, tss = [[⟨.acquire, .error f⟩]] ∧ Unanswered o) ∨
      ∃ s reply, tss = [[⟨.acquire, .ok ()⟩, ⟨.execute s, reply⟩]] ∧
        s.sql = Sql.resolveKey ∧ s.params = [.text token] ∧
        FailsClosed administration reply o) [] := by
  have hfilter : (some token).filter (fun t => !t.isEmpty) = some token := by
    simp [Option.filter, htoken]
  rw [Gate.authenticate, hfilter]
  refine ensures_store.2 fun ts a hts => ?_
  change (resolveKey token).run.Held ts a at hts
  rw [resolveKey_eq] at hts
  obtain ⟨o, hsingle, rfl⟩ := Attempt.held_bind_ofOutcome.1 hts
  obtain ⟨f, rfl, rfl⟩ | ⟨reply, rfl, rfl⟩ := Attempt.held_single.1 hsingle
  · exact .inl ⟨f, rfl, failed "resolve access key" f, rfl, rfl⟩
  · exact .inr ⟨_, reply, rfl, rfl, rfl,
      judge_failsClosed payload administration token reply _ fun _ => rfl⟩

/-- The row of an administrator's key; the names are absent. -/
def namelessRow : Row :=
  [("user_id", .integer 1), ("access_key", .text "alpha"), ("created_at", .instant .year1970),
    ("changed_at", .instant .year1970), ("changed_by", .null), ("principal_id", .integer 1),
    ("username", .text "root"), ("first_name", .null), ("last_name", .null), ("email", .null),
    ("active", .boolean true), ("roles", .texts [some "Admin"])]

def namelessSite : Site where
  playback := Playback.ready.prepare [.statement (.ok (.ofRows [namelessRow])) false]
  clock := .year1970
  drawn := 0
  random := id

/-- The administrator passes, with empty names. -/
theorem gate_fails_closed_nameless :
    "alpha" ≠ "" ∧
    (namelessSite.call (Gate.authenticate ⟨some "alpha", .null⟩ true)).1 = .ok .root ∧
    FailsClosed true (.ok (.ofRows [namelessRow])) (.ok .root) := by
  have hne : "alpha" ≠ "" := by decide
  have hroot : (namelessSite.call (Gate.authenticate ⟨some "alpha", .null⟩ true)).1 =
      .ok .root := rfl
  refine ⟨hne, hroot, ?_⟩
  obtain ⟨f, htss, -⟩ | ⟨s, reply, htss, -, -, hcloses⟩ :=
    (gate_fails_closed hne .null true).run_map Prod.snd Site.overDatabase_record
      (t := (namelessSite, []))
  · cases htss
  · cases htss
    exact hcloses

end Database

end TableAccess
