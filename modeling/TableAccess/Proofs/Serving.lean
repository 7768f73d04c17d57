/-
**What requests leave alone.**

A request changes at most one part of the store: the keys, the grants, or the audit log.  Principals
and capabilities are only ever read.  What a run of requests keeps is therefore settled request by
request.

Main definitions:

* `Store.serve` — the store after a run of requests, each arriving at its own time;
* `Request.Part`, `Request.changes?` — the part of the store that a request may change;
* `Store.withoutLog` — the store as far as everything but the audit log is concerned.

Main results:

* `Store.serve_keeps` — what every request keeps, every run keeps;
* `Store.answer_accessKeys`, `Store.answer_grants`, `Store.answer_auditLog` — the other parts stay;
* `Store.answer_congr` — answers do not depend on the audit log.
-/
import TableAccess.Store

set_option relaxedAutoImplicit false
set_option autoImplicit false

namespace TableAccess

/-! ### The parts of the store -/

/-- The parts of the store that requests change. -/
inductive Request.Part where
  | keys
  | grants
  | log
deriving DecidableEq, Repr

/-- The part that a request may change, if there is one. -/
def Request.changes? : Request → Option Request.Part
  | .createKey .. => some .keys
  | .rotateKey .. => some .keys
  | .deleteKey _ => some .keys
  | .createGrant .. => some .grants
  | .forceRevokeGrant .. => some .grants
  | .deleteInactiveGrant _ => some .grants
  | .deactivateExpired _ => some .grants
  | .appendEvent _ => some .log
  | _ => none

/-- Whether a request reads the audit log. -/
def Request.readsLog : Request → Bool
  | .listRecentEntries _ => true
  | _ => false

/-! ### Records and grants after a change -/

/-- A key record after a rotation. -/
def AccessKeyRecord.renewed (r : AccessKeyRecord) (k : AccessKey) (now : Instant) (c : UserId) :
    AccessKeyRecord :=
  { r with accessKey := k, changedAt := now, changedBy := some c }

/-- A grant after its revocation. -/
def Grant.revoked (g : Grant) (t : Instant) : Grant :=
  { g with isActive := false, forceTerminateAt := some t }

namespace Store

variable {s t : Store} {now : Instant} {r : Request}

/-- The store as far as everything but the audit log is concerned. -/
def withoutLog (s : Store) : Store := { s with auditLog := [] }

/-- Two stores agree on everything but the audit log when they agree on each other part. -/
theorem withoutLog_eq_iff : s.withoutLog = t.withoutLog ↔
    s.principals = t.principals ∧ s.accessKeys = t.accessKeys ∧ s.capabilities = t.capabilities ∧
      s.grants = t.grants ∧ s.grantCount = t.grantCount := by
  obtain ⟨p, k, c, g, l, n⟩ := s
  obtain ⟨p', k', c', g', l', n'⟩ := t
  simp [withoutLog]

/-! ### Names -/

theorem nameOf_of_find? {u : UserId} {p : Principal} (h : s.principals.find? u = some p) :
    s.nameOf u = p.displayName := by
  rw [nameOf, h, Option.elim_some]

theorem nameOf_of_missing {u : UserId} (h : s.principals.find? u = none) :
    s.nameOf u = "user " ++ u.write := by
  rw [nameOf, h, Option.elim_none, UserId.unknownName]

/-! ### What a change can do -/

/-- A new key is refused, or its owner exists and has none, nobody has the token, and it is
filed. -/
theorem createKey_cases (s : Store) (now : Instant) (u : UserId) (k : AccessKey) (c : UserId) :
    (∃ e, s.createKey now u k c = (.error e, s)) ∨
    (s.principals.contains u = true ∧ s.accessKeys.find? u = none ∧
      (∀ r ∈ s.accessKeys.values, r.accessKey ≠ k) ∧
      s.createKey now u k c = (.ok ⟨u, k, now, now, some c⟩,
        { s with accessKeys := s.accessKeys.insert u ⟨u, k, now, now, some c⟩ })) := by
  unfold createKey
  split
  · exact .inl ⟨_, rfl⟩
  · next hp =>
      split
      · exact .inl ⟨_, rfl⟩
      · next hk =>
          split
          · exact .inl ⟨_, rfl⟩
          · next ht =>
              refine .inr ⟨by simpa using hp, by simpa [Shelf.contains] using hk, ?_, rfl⟩
              simpa using ht

/-- A rotation is refused; or there is no key to rotate; or no other user has the token, and the
record of the user is filed again with it. -/
theorem rotateKey_cases (s : Store) (now : Instant) (u : UserId) (k : AccessKey) (c : UserId) :
    (∃ e, s.rotateKey now u k c = (.error e, s)) ∨
    (s.accessKeys.find? u = none ∧ s.rotateKey now u k c = (.ok none, s)) ∨
    (∃ r, s.accessKeys.find? u = some r ∧
      (∀ q ∈ s.accessKeys.values, q.userId ≠ u → q.accessKey ≠ k) ∧
      s.rotateKey now u k c = (.ok (some (r.renewed k now c)),
        { s with accessKeys := s.accessKeys.insert u (r.renewed k now c) })) := by
  unfold rotateKey
  split
  · exact .inl ⟨_, rfl⟩
  · next ht =>
      cases hr : s.accessKeys.find? u with
      | none => exact .inr (.inl ⟨rfl, rfl⟩)
      | some r => exact .inr (.inr ⟨r, rfl, by simpa using ht, rfl⟩)

/-- A draft is refused, or all its capabilities exist and it is stored under the next number. -/
theorem createGrant_cases (s : Store) (d : Grant.Draft) :
    (∃ e, s.createGrant d = (.error e, s)) ∨
    (∃ cs, s.capabilitiesOf d.capabilityIds.toList = .ok cs ∧
      s.createGrant d =
        (.ok ⟨⟨s.grantCount + 1⟩, d.userId, d.applyDate, d.expireDate, none, true, cs⟩,
          { s with
              grants := s.grants.insert ⟨s.grantCount + 1⟩
                ⟨⟨s.grantCount + 1⟩, d.userId, d.applyDate, d.expireDate, none, true, cs⟩
              grantCount := s.grantCount + 1 })) := by
  unfold createGrant
  cases hcs : s.capabilitiesOf d.capabilityIds.toList with
  | error e => exact .inl ⟨e, rfl⟩
  | ok cs => exact .inr ⟨cs, rfl, rfl⟩

/-- A revocation finds no active grant and changes nothing, or it ends the grant it finds. -/
theorem forceRevokeGrant_cases (s : Store) (id : GrantId) (t : Instant) :
    ((∀ g, s.grants.find? id = some g → g.status t.date ≠ .active) ∧
      s.forceRevokeGrant id t = (none, s)) ∨
    (∃ g, s.grants.find? id = some g ∧ g.status t.date = .active ∧
      s.forceRevokeGrant id t = (some (g.revoked t),
        { s with grants := s.grants.insert id (g.revoked t) })) := by
  unfold forceRevokeGrant
  cases hg : s.grants.find? id with
  | none => exact .inl ⟨by simp, rfl⟩
  | some g =>
      by_cases ha : g.status t.date = .active
      · refine .inr ⟨g, rfl, ha, ?_⟩
        simp [Grant.forceRevoke, Grant.ensureMutable, ha, Grant.revoked]
      · refine .inl ⟨fun g' hg' => ?_, by simp [Grant.forceRevoke, Grant.ensureMutable, ha]⟩
        cases hg'
        exact ha

/-- A deletion finds no inactive grant and changes nothing, or it takes out the grant it finds. -/
theorem deleteInactiveGrant_cases (s : Store) (id : GrantId) :
    ((∀ g, s.grants.find? id = some g → g.isActive = true) ∧
      s.deleteInactiveGrant id = (false, s)) ∨
    (∃ g, s.grants.find? id = some g ∧ g.isActive = false ∧
      s.deleteInactiveGrant id = (true, { s with grants := s.grants.erase id })) := by
  unfold deleteInactiveGrant
  cases hg : s.grants.find? id with
  | none => exact .inl ⟨by simp, rfl⟩
  | some g =>
      cases ha : g.isActive with
      | true =>
          refine .inl ⟨fun g' hg' => ?_, by simp [ha]⟩
          cases hg'
          exact ha
      | false => exact .inr ⟨g, rfl, ha, by simp [ha]⟩

/-! ### One request -/

/-- **A request changes one part of the store at most**, the one that `Request.changes?` names. -/
theorem answer_cases (now : Instant) (r : Request) (s : Store) :
    (s.answer now r).2 = s ∨
    (∃ keys, r.changes? = some .keys ∧ (s.answer now r).2 = { s with accessKeys := keys }) ∨
    (∃ grants n, r.changes? = some .grants ∧
      (s.answer now r).2 = { s with grants := grants, grantCount := n }) ∨
    (∃ e, r = .appendEvent e ∧ (s.answer now r).2 = s.appendEvent now e) := by
  cases r with
  | createKey u k c =>
      obtain ⟨e, h⟩ | ⟨-, -, -, h⟩ := s.createKey_cases now u k c
      · exact .inl (congrArg Prod.snd h)
      · exact .inr (.inl ⟨_, rfl, congrArg Prod.snd h⟩)
  | rotateKey u k c =>
      obtain ⟨e, h⟩ | ⟨-, h⟩ | ⟨_, -, -, h⟩ := s.rotateKey_cases now u k c
      · exact .inl (congrArg Prod.snd h)
      · exact .inl (congrArg Prod.snd h)
      · exact .inr (.inl ⟨_, rfl, congrArg Prod.snd h⟩)
  | deleteKey u => exact .inr (.inl ⟨_, rfl, rfl⟩)
  | createGrant d c =>
      obtain ⟨e, h⟩ | ⟨_, -, h⟩ := s.createGrant_cases d
      · exact .inl (congrArg Prod.snd h)
      · exact .inr (.inr (.inl ⟨_, _, rfl, congrArg Prod.snd h⟩))
  | forceRevokeGrant id t c =>
      obtain ⟨-, h⟩ | ⟨_, -, -, h⟩ := s.forceRevokeGrant_cases id t
      · exact .inl (congrArg Prod.snd h)
      · exact .inr (.inr (.inl ⟨_, _, rfl, congrArg Prod.snd h⟩))
  | deleteInactiveGrant id =>
      obtain ⟨-, h⟩ | ⟨_, -, -, h⟩ := s.deleteInactiveGrant_cases id
      · exact .inl (congrArg Prod.snd h)
      · exact .inr (.inr (.inl ⟨_, _, rfl, congrArg Prod.snd h⟩))
  | deactivateExpired today => exact .inr (.inr (.inl ⟨_, _, rfl, rfl⟩))
  | appendEvent e => exact .inr (.inr (.inr ⟨e, rfl, rfl⟩))
  | _ => exact .inl rfl

/-- **Principals are only ever read.** -/
@[simp] theorem answer_principals (now : Instant) (r : Request) (s : Store) :
    (s.answer now r).2.principals = s.principals := by
  obtain h | ⟨_, -, h⟩ | ⟨_, _, -, h⟩ | ⟨_, -, h⟩ := answer_cases now r s
  · rw [h]
  · rw [h]
  · rw [h]
  · rw [h]
    rfl

/-- **Capabilities are only ever read.** -/
@[simp] theorem answer_capabilities (now : Instant) (r : Request) (s : Store) :
    (s.answer now r).2.capabilities = s.capabilities := by
  obtain h | ⟨_, -, h⟩ | ⟨_, _, -, h⟩ | ⟨_, -, h⟩ := answer_cases now r s
  · rw [h]
  · rw [h]
  · rw [h]
  · rw [h]
    rfl

theorem answer_accessKeys (h : r.changes? ≠ some .keys) :
    (s.answer now r).2.accessKeys = s.accessKeys := by
  obtain h' | ⟨_, hk, -⟩ | ⟨_, _, -, h'⟩ | ⟨_, -, h'⟩ := answer_cases now r s
  · rw [h']
  · exact absurd hk h
  · rw [h']
  · rw [h']; rfl

theorem answer_grants (h : r.changes? ≠ some .grants) :
    (s.answer now r).2.grants = s.grants ∧ (s.answer now r).2.grantCount = s.grantCount := by
  obtain h' | ⟨_, -, h'⟩ | ⟨_, _, hg, -⟩ | ⟨_, -, h'⟩ := answer_cases now r s
  · rw [h']; exact ⟨rfl, rfl⟩
  · rw [h']; exact ⟨rfl, rfl⟩
  · exact absurd hg h
  · rw [h']; exact ⟨rfl, rfl⟩

theorem answer_auditLog (h : r.changes? ≠ some .log) :
    (s.answer now r).2.auditLog = s.auditLog := by
  obtain h' | ⟨_, -, h'⟩ | ⟨_, _, -, h'⟩ | ⟨_, rfl, -⟩ := answer_cases now r s
  · rw [h']
  · rw [h']
  · rw [h']
  · exact absurd rfl h

/-- A request that changes nothing but the audit log leaves the rest as it is. -/
theorem withoutLog_answer (hk : r.changes? ≠ some .keys) (hg : r.changes? ≠ some .grants) :
    (s.answer now r).2.withoutLog = s.withoutLog :=
  withoutLog_eq_iff.2 ⟨answer_principals now r s, answer_accessKeys hk, answer_capabilities now r s,
    (answer_grants hg).1, (answer_grants hg).2⟩

theorem answer_of_reads (h : r.changes? = none) : (s.answer now r).2 = s := by
  obtain h' | ⟨_, hk, -⟩ | ⟨_, _, hg, -⟩ | ⟨_, rfl, -⟩ := answer_cases now r s
  · exact h'
  · cases h.symm.trans hk
  · cases h.symm.trans hg
  · cases h

/-! ### What an answer depends on -/

theorem capabilitiesOf_congr (h : s.capabilities = t.capabilities) (ids : List CapabilityId) :
    s.capabilitiesOf ids = t.capabilitiesOf ids := by
  induction ids with
  | nil => rfl
  | cons id ids ih => rw [capabilitiesOf, capabilitiesOf, h, ih]

/-- **The audit log decides no answer**, unless it is what is asked for. -/
theorem answer_congr (h : s.withoutLog = t.withoutLog) (hr : r.readsLog = false) :
    (s.answer now r).1 = (t.answer now r).1 ∧
      (s.answer now r).2.withoutLog = (t.answer now r).2.withoutLog := by
  obtain ⟨p, k, c, g, l, n⟩ := s
  obtain ⟨p', k', c', g', l', n'⟩ := t
  obtain ⟨rfl, rfl, rfl, rfl, rfl⟩ := withoutLog_eq_iff.1 h
  cases r with
  | createKey u key maker =>
      simp only [answer, createKey]
      split
      · exact ⟨rfl, rfl⟩
      · split
        · exact ⟨rfl, rfl⟩
        · split
          · exact ⟨rfl, rfl⟩
          · exact ⟨rfl, rfl⟩
  | rotateKey u key maker =>
      simp only [answer, rotateKey]
      split
      · exact ⟨rfl, rfl⟩
      · cases k.find? u with
        | none => exact ⟨rfl, rfl⟩
        | some q => exact ⟨rfl, rfl⟩
  | createGrant d maker =>
      have hcs : capabilitiesOf ⟨p, k, c, g, l, n⟩ d.capabilityIds.toList =
          capabilitiesOf ⟨p, k, c, g, l', n⟩ d.capabilityIds.toList :=
        capabilitiesOf_congr (by rfl) _
      simp only [answer, createGrant, hcs]
      cases capabilitiesOf ⟨p, k, c, g, l', n⟩ d.capabilityIds.toList with
      | error e => exact ⟨rfl, rfl⟩
      | ok cs => exact ⟨rfl, rfl⟩
  | forceRevokeGrant id t maker =>
      simp only [answer, forceRevokeGrant]
      cases g.find? id with
      | none => exact ⟨rfl, rfl⟩
      | some q =>
          dsimp only
          cases q.forceRevoke t with
          | error e => exact ⟨rfl, rfl⟩
          | ok q' => exact ⟨rfl, rfl⟩
  | deleteInactiveGrant id =>
      simp only [answer, deleteInactiveGrant]
      split
      · exact ⟨rfl, rfl⟩
      · exact ⟨rfl, rfl⟩
  | listRecentEntries q => cases hr
  | _ => exact ⟨rfl, rfl⟩

/-! ### What a request is about -/

/-- Whose keys may differ between two stores, which grants may, and whether the number of the last
grant may; all else is the same. -/
structure ChangedOnly (keys : UserId → Prop) (grants : GrantId → Prop) (counted : Prop)
    (s t : Store) : Prop where
  principals : t.principals = s.principals
  capabilities : t.capabilities = s.capabilities
  accessKeys : ∀ u, ¬ keys u → t.accessKeys.find? u = s.accessKeys.find? u
  grants : ∀ id, ¬ grants id → t.grants.find? id = s.grants.find? id
  grantCount : ¬ counted → t.grantCount = s.grantCount

/-- A request may change the key of a user. -/
def KeyTarget : Request → UserId → Prop
  | .createKey u _ _ => (· = u)
  | .rotateKey u _ _ => (· = u)
  | .deleteKey u => (· = u)
  | _ => fun _ => False

/-- A request may change a grant: the one it names, the next one to be stored, or, when expiry is
recorded, one whose time is over. -/
def GrantTarget (s : Store) : Request → GrantId → Prop
  | .createGrant .. => (· = ⟨s.grantCount + 1⟩)
  | .forceRevokeGrant id _ _ => (· = id)
  | .deleteInactiveGrant id => (· = id)
  | .deactivateExpired today => fun id => ∃ g, s.grants.find? id = some g ∧ g.isLapsed today = true
  | _ => fun _ => False

def TakesNumber : Request → Prop
  | .createGrant .. => True
  | _ => False

theorem ChangedOnly.refl (keys : UserId → Prop) (grants : GrantId → Prop) (counted : Prop)
    (s : Store) : ChangedOnly keys grants counted s s :=
  ⟨rfl, rfl, fun _ _ => rfl, fun _ _ => rfl, fun _ => rfl⟩

theorem ChangedOnly.of_withoutLog_eq {keys : UserId → Prop} {grants : GrantId → Prop}
    {counted : Prop} {t' : Store} (h : ChangedOnly keys grants counted s t)
    (ht : t'.withoutLog = t.withoutLog) : ChangedOnly keys grants counted s t' := by
  obtain ⟨hprincipals, hkeys, hcapabilities, hgrants, hcount⟩ := withoutLog_eq_iff.1 ht
  refine ⟨?_, ?_, ?_, ?_, ?_⟩
  · rw [hprincipals, h.principals]
  · rw [hcapabilities, h.capabilities]
  · rw [hkeys]
    exact h.accessKeys
  · rw [hgrants]
    exact h.grants
  · rw [hcount]
    exact h.grantCount

/-- **A request changes nothing that it is not about.** -/
theorem answer_changedOnly (now : Instant) (r : Request) (s : Store) :
    ChangedOnly (KeyTarget r) (GrantTarget s r) (TakesNumber r) s (s.answer now r).2 := by
  cases r with
  | createKey u k c =>
      obtain ⟨e, h⟩ | ⟨-, -, -, h⟩ := s.createKey_cases now u k c
      · rw [answer, h]
        exact .refl ..
      · rw [answer, h]
        refine ⟨rfl, rfl, fun v hv => ?_, fun _ _ => rfl, fun _ => rfl⟩
        exact (Shelf.find?_insert ..).trans (if_neg (Ne.symm hv))
  | rotateKey u k c =>
      obtain ⟨e, h⟩ | ⟨-, h⟩ | ⟨q, -, -, h⟩ := s.rotateKey_cases now u k c
      · rw [answer, h]
        exact .refl ..
      · rw [answer, h]
        exact .refl ..
      · rw [answer, h]
        refine ⟨rfl, rfl, fun v hv => ?_, fun _ _ => rfl, fun _ => rfl⟩
        exact (Shelf.find?_insert ..).trans (if_neg (Ne.symm hv))
  | deleteKey u =>
      refine ⟨rfl, rfl, fun v hv => ?_, fun _ _ => rfl, fun _ => rfl⟩
      exact (Shelf.find?_erase ..).trans (if_neg (Ne.symm hv))
  | createGrant d c =>
      obtain ⟨e, h⟩ | ⟨cs, -, h⟩ := s.createGrant_cases d
      · rw [answer, h]
        exact .refl ..
      · rw [answer, h]
        refine ⟨rfl, rfl, fun _ _ => rfl, fun id hid => ?_, fun hc => absurd trivial hc⟩
        exact (Shelf.find?_insert ..).trans (if_neg (Ne.symm hid))
  | forceRevokeGrant id t c =>
      obtain ⟨-, h⟩ | ⟨g, -, -, h⟩ := s.forceRevokeGrant_cases id t
      · rw [answer, h]
        exact .refl ..
      · rw [answer, h]
        refine ⟨rfl, rfl, fun _ _ => rfl, fun j hj => ?_, fun _ => rfl⟩
        exact (Shelf.find?_insert ..).trans (if_neg (Ne.symm hj))
  | deleteInactiveGrant id =>
      obtain ⟨-, h⟩ | ⟨g, -, -, h⟩ := s.deleteInactiveGrant_cases id
      · rw [answer, h]
        exact .refl ..
      · rw [answer, h]
        refine ⟨rfl, rfl, fun _ _ => rfl, fun j hj => ?_, fun _ => rfl⟩
        exact (Shelf.find?_erase ..).trans (if_neg (Ne.symm hj))
  | deactivateExpired today =>
      refine ⟨rfl, rfl, fun _ _ => rfl, fun id hid => ?_, fun _ => rfl⟩
      refine (Shelf.find?_mapValues ..).trans ?_
      cases hg : s.grants.find? id with
      | none => rfl
      | some g =>
          have hlapsed : ¬ g.isLapsed today = true := fun h => hid ⟨g, hg, h⟩
          simp [Grant.markExpired, hlapsed]
  | appendEvent e => exact ⟨rfl, rfl, fun _ _ => rfl, fun _ _ => rfl, fun _ => rfl⟩
  | _ => exact .refl ..

/-! ### Runs of requests -/

/-- The store after requests that arrive one after the other, each at its time. -/
def serve : List (Instant × Request) → Store → Store
  | [], s => s
  | (now, r) :: rs, s => serve rs (s.answer now r).2

/-- **What every request keeps, every run keeps**, when the requests are of the kind that keeps
it. -/
theorem serve_keeps {P : Store → Prop} {Q : Request → Prop}
    (hstep : ∀ now r s, Q r → P s → P (s.answer now r).2) {rs : List (Instant × Request)}
    (hrs : ∀ x ∈ rs, Q x.2) (hs : P s) : P (serve rs s) := by
  induction rs generalizing s with
  | nil => exact hs
  | cons x rs ih =>
      have hx := hrs x (List.mem_cons_self ..)
      exact ih (fun y hy => hrs y (List.mem_cons_of_mem _ hy)) (hstep x.1 x.2 s hx hs)

end Store

end TableAccess
