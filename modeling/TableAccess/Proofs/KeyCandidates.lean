/-
**Who may get a key.**

Before an administrator issues a key, the application offers the users who may get one.  The list
and the operation come to the same answer in different ways: the list goes through the principals
and leaves out who has a key, the operation looks one user up and lets the store refuse.  They
agree: with an accepted token that nobody has, a key is issued to those who are offered and to
nobody else.

Main definitions:

* `Store.MayGetKey` — a user is there, is active and has no key;
* `World.Offers` — a user is on the list.

Main results:

* `Store.mem_keyCandidates`, `Store.pairwise_keyCandidates` — who is on the list, and in which
  order;
* `World.issue_cases` — how it ends to issue a key with a free token;
* `World.revoke_of_ok` — what is left after a revocation that succeeds;
* `World.candidates_are_issuable` — the list and the operation agree, now and after each.
-/
import TableAccess.Proofs.ReceivedKeys

set_option relaxedAutoImplicit false
set_option autoImplicit false

namespace TableAccess

/-! ### The list -/

namespace Store

variable {s t : Store} {u : UserId}

/-- The user is there, is active and has no key. -/
def MayGetKey (s : Store) (u : UserId) : Prop :=
  (∃ p, s.principals.find? u = some p ∧ p.active = true) ∧ s.accessKeys.find? u = none

/-- Principals are filed under their own identifiers. -/
def OwnIds (s : Store) : Prop := ∀ u p, s.principals.find? u = some p → p.id = u

theorem mem_keyCandidates {p : Principal} : p ∈ s.keyCandidates ↔
    (∃ i, s.principals.find? i = some p) ∧ p.active = true ∧ s.accessKeys.find? p.id = none := by
  rw [keyCandidates, List.mem_mergeSort, List.mem_filter, Shelf.mem_values_iff]
  simp [Shelf.contains]

/-- **On the list are those who may get a key.** -/
theorem exists_keyCandidate_iff (hs : s.OwnIds) :
    (∃ p ∈ s.keyCandidates, p.id = u) ↔ s.MayGetKey u := by
  constructor
  · rintro ⟨p, hp, rfl⟩
    obtain ⟨⟨i, hi⟩, hactive, hnone⟩ := mem_keyCandidates.1 hp
    exact ⟨⟨p, hs i p hi ▸ hi, hactive⟩, hnone⟩
  · rintro ⟨⟨p, hp, hactive⟩, hnone⟩
    have hid : p.id = u := hs u p hp
    exact ⟨p, mem_keyCandidates.2 ⟨⟨u, hp⟩, hactive, hid ▸ hnone⟩, hid⟩

/-- **The list is in the order of the user names**, and of those who are called alike in the order
of their identifiers. -/
theorem pairwise_keyCandidates (hs : s.OwnIds) : s.keyCandidates.Pairwise fun p q =>
    p.username < q.username ∨ p.username = q.username ∧ p.id < q.id :=
  pairwise_mergeSort_name ((Shelf.pairwise_values hs).filter _)

theorem nodup_keyCandidates (hs : s.OwnIds) : (s.keyCandidates.map Principal.id).Nodup := by
  have hids : (s.principals.values.map Principal.id).Nodup :=
    Shelf.nodup_map_values Principal.id fun i j p q hp hq hpq => by
      rw [← hs i p hp, ← hs j q hq, hpq]
  have hfiltered := (List.pairwise_map.1 hids).filter
    (fun p => p.active && !s.accessKeys.contains p.id)
  exact List.pairwise_map.2 ((List.mergeSort_perm _ _).symm.pairwise hfiltered Ne.symm)

/-- Principals stay filed under their own identifiers, whatever an act does. -/
theorem ownIds_act (a : Act) (hs : s.OwnIds) : (s.act a).OwnIds := by
  cases a with
  | putPrincipal p =>
      intro v q hq
      rw [act, putPrincipal, Shelf.find?_insert] at hq
      split at hq
      · next hpv =>
          cases hq
          exact hpv
      · exact hs v q hq
  | serve now r =>
      rw [act, OwnIds, answer_principals]
      exact hs
  | _ => exact hs

theorem ownIds_acts (as : List Act) (hs : s.OwnIds) : (acts as s).OwnIds :=
  acts_keeps (Q := fun _ => True) (fun a _ _ hs => ownIds_act a hs) (fun _ _ => trivial) hs

/-- Who may get a key depends on what is filed for this user only. -/
theorem mayGetKey_congr (hprincipals : t.principals.find? u = s.principals.find? u)
    (hkeys : t.accessKeys.find? u = s.accessKeys.find? u) : t.MayGetKey u ↔ s.MayGetKey u := by
  rw [MayGetKey, MayGetKey, hprincipals, hkeys]

/-- With a token that nobody has, a principal without a key gets one. -/
theorem createKey_of_unheld {k : AccessKey} (hk : s.Unheld k)
    (hu : s.principals.contains u = true) (now : Instant) (c : UserId) :
    s.createKey now u k c =
      if s.accessKeys.contains u then (.error (ownsKey u), s)
      else (.ok ⟨u, k, now, now, some c⟩,
        { s with accessKeys := s.accessKeys.insert u ⟨u, k, now, now, some c⟩ }) := by
  have hfree : s.accessKeys.values.any (fun r => r.accessKey = k) = false := by
    rw [List.any_eq_false]
    intro r hr
    obtain ⟨v, hv⟩ := Shelf.mem_values_iff.1 hr
    simpa using hk v r hv
  rw [createKey, hu, hfree]
  rfl

end Store

/-! ### The operations -/

namespace World

variable {w : World} {actor : Principal} {u : UserId} {supplied : String} {k : AccessKey}

open KeyAdministration

/-- The user is on the list that the actor is shown. -/
def Offers (w : World) (actor : Principal) (u : UserId) : Prop :=
  ∃ ps, (w.run (candidates actor)).1 = .ok ps ∧ ∃ p ∈ ps, p.id = u

/-- The list is what the store says, and reading it changes nothing. -/
theorem run_candidates (hw : w.script = .empty) (hactor : actor.active && actor.isAdmin) :
    w.run (candidates actor) = (.ok w.store.keyCandidates, w) :=
  (run_requireAdmin hactor _).trans (call_ask_quiet hw .listKeyCandidates .done)

theorem offers_iff (hw : w.script = .empty) (hactor : actor.active && actor.isAdmin)
    (hs : w.store.OwnIds) : w.Offers actor u ↔ w.store.MayGetKey u := by
  rw [Offers, run_candidates hw hactor, ← Store.exists_keyCandidate_iff hs]
  simp

theorem ownIds_run {α : Type} (op : Service α) (hs : w.store.OwnIds) :
    (w.run op).2.store.OwnIds := by
  rw [Store.OwnIds, run, (call_principals w op.run).1]
  exact hs

/-- After an operation the list shows who may get a key then. -/
theorem offers_run_iff {α : Type} (op : Service α) (hw : w.script = .empty)
    (hactor : actor.active && actor.isAdmin) (hs : w.store.OwnIds) :
    (w.run op).2.Offers actor u ↔ (w.run op).2.store.MayGetKey u :=
  offers_iff (script_call hw _) hactor (ownIds_run op hs)

/-- For an active principal and an accepted token the store decides about an issue. -/
theorem run_issuance_of_active (hw : w.script = .empty) {p : Principal}
    (hp : w.store.principals.find? u = some p) (hid : p.id = u) (hactive : p.active = true)
    (hkey : AccessKey.ofText supplied = .ok k) :
    w.run (issuance actor u (some supplied)) =
      ((w.store.createKey w.wall u k actor.id).1.map fun r =>
          (r, .message ("create access key " ++ k.masked ++ " for " ++ p.displayName)),
        { w with store := (w.store.createKey w.wall u k actor.id).2 }) := by
  have hchosen : w.chosen (some supplied) = .ok k := hkey
  rw [run_issuance hw, hp, Option.elim_some, if_pos hactive, hchosen, hid]
  rfl

/-- For a user who is not there or not active, the work of an issue ends before a key is chosen. -/
theorem issuance_refused (hw : w.script = .empty) (actor : Principal) (supplied : String)
    (h : ¬ ∃ p, w.store.principals.find? u = some p ∧ p.active = true) :
    ∃ e, w.run (issuance actor u (some supplied)) = (.error e, w) := by
  rw [run_issuance hw]
  cases hp : w.store.principals.find? u with
  | none => exact ⟨_, rfl⟩
  | some p =>
      rw [Option.elim_some, if_neg fun hactive => h ⟨p, hp, hactive⟩]
      exact ⟨_, rfl⟩

section Issue

variable (hw : w.script = .empty) (hs : w.store.OwnIds) (hactor : actor.active && actor.isAdmin)
  (hkey : AccessKey.ofText supplied = .ok k) (hk : w.store.Unheld k)

include hw hs hactor hkey hk

/-- **How it ends to issue a key with an accepted token that nobody has.**  The user may get a key
and has it now, or is refused and nothing changes. -/
theorem issue_cases (u : UserId) :
    let issued := w.run (issue actor u (some supplied))
    let r : AccessKeyRecord := ⟨u, k, w.wall, w.wall, some actor.id⟩
    (w.store.MayGetKey u ∧ issued.1 = .ok r ∧ issued.2.store.withoutLog =
      Store.withoutLog { w.store with accessKeys := w.store.accessKeys.insert u r }) ∨
    (¬ w.store.MayGetKey u ∧ (∃ e, issued.1 = .error e) ∧
      issued.2.store.withoutLog = w.store.withoutLog) := by
  intro issued r
  obtain ⟨hvalue, hstore⟩ : issued.1 = _ ∧ issued.2.store.withoutLog = _ :=
    run_administered hactor _ _ (issuance actor u (some supplied))
  by_cases hthere : ∃ p, w.store.principals.find? u = some p ∧ p.active = true
  · obtain ⟨p, hp, hactive⟩ := hthere
    have hcontains : w.store.principals.contains u = true := by
      rw [Shelf.contains, hp, Option.isSome_some]
    rw [run_issuance_of_active hw hp (hs u p hp) hactive hkey,
      Store.createKey_of_unheld hk hcontains w.wall actor.id] at hvalue hstore
    cases hkeyed : w.store.accessKeys.find? u with
    | none =>
        rw [Shelf.contains, hkeyed, Option.isSome_none, if_neg Bool.false_ne_true] at hvalue hstore
        exact .inl ⟨⟨⟨p, hp, hactive⟩, hkeyed⟩, hvalue, hstore⟩
    | some q =>
        rw [Shelf.contains, hkeyed, Option.isSome_some, if_pos rfl] at hvalue hstore
        refine .inr ⟨fun hmay => ?_, ⟨_, hvalue⟩, hstore⟩
        cases hkeyed.symm.trans hmay.2
  · obtain ⟨e, he⟩ := issuance_refused hw actor supplied hthere
    rw [he] at hvalue hstore
    exact .inr ⟨fun hmay => hthere hmay.1, ⟨e, hvalue⟩, hstore⟩

end Issue

/-- **A revocation is about one key only**, and when it succeeds the user has none. -/
theorem revoke_changes (hw : w.script = .empty) (actor : Principal) (u : UserId) :
    let revoked := w.run (revoke actor u)
    revoked.2.store.principals = w.store.principals ∧
    (∀ v, v ≠ u → revoked.2.store.accessKeys.find? v = w.store.accessKeys.find? v) ∧
    (revoked.1 = .ok () → revoked.2.store.accessKeys.find? u = none) := by
  intro revoked
  by_cases hactor : (actor.active && actor.isAdmin) = true
  · obtain ⟨-, hstore⟩ : revoked.1 = _ ∧ revoked.2.store.withoutLog = _ :=
      run_administered hactor _ _ (revocation u)
    rw [run_revocation hw u] at hstore
    obtain ⟨hprincipals, hkeys, -⟩ := Store.withoutLog_eq_iff.1 hstore
    refine ⟨hprincipals, fun v hv => ?_, fun _ => ?_⟩
    · rw [hkeys, Shelf.find?_erase, if_neg (Ne.symm hv)]
    · rw [hkeys, Shelf.find?_erase, if_pos rfl]
  · have hrefused : revoked = (.error (notAdmin actor), w) := run_requireAdmin_of_not hactor _
    rw [hrefused]
    exact ⟨rfl, fun _ _ => rfl, fun h => by cases h⟩

/-! ### The list and the operations -/

/-- **The list and the operations agree.**  An administrator is shown every user once, by user name
and then by identifier.  With an accepted token that nobody has, a key is issued to a user exactly
if the user is on the list.  The user is not on it afterwards, and is on it again after any later
revocation that succeeds, whatever else happened, as long as the principal is the same then.  For
all others neither an issue nor a revocation makes a difference, whether it succeeds or not. -/
theorem candidates_are_issuable (hw : w.script = .empty) (hs : w.store.OwnIds)
    (hactor : actor.active && actor.isAdmin) :
    (∃ ps, w.run (candidates actor) = (.ok ps, w) ∧ (ps.map Principal.id).Nodup ∧
      ps.Pairwise fun p q => p.username < q.username ∨ p.username = q.username ∧ p.id < q.id) ∧
    (∀ u supplied k, AccessKey.ofText supplied = .ok k → w.store.Unheld k →
      let issued := w.run (issue actor u (some supplied))
      (w.Offers actor u ↔ ∃ r, issued.1 = .ok r) ∧
      (∀ v, v ≠ u → (issued.2.Offers actor v ↔ w.Offers actor v)) ∧
      ∀ r, issued.1 = .ok r → ¬ issued.2.Offers actor u ∧
        ∀ (as : List Store.Act) (w' : World) (remover : Principal),
          w'.store = Store.acts as issued.2.store → w'.script = .empty →
          w'.store.principals.find? u = w.store.principals.find? u →
          (w'.run (revoke remover u)).1 = .ok () →
          (w'.run (revoke remover u)).2.Offers actor u) ∧
    ∀ (remover : Principal) (u v : UserId), v ≠ u →
      ((w.run (revoke remover u)).2.Offers actor v ↔ w.Offers actor v) := by
  refine ⟨⟨_, run_candidates hw hactor, Store.nodup_keyCandidates hs,
    Store.pairwise_keyCandidates hs⟩, fun u supplied k hkey hk => ?_, fun remover u v hv => ?_⟩
  · intro issued
    obtain ⟨hmay, hvalue, hstore⟩ | ⟨hnot, ⟨e, he⟩, hstore⟩ :=
      issue_cases hw hs hactor hkey hk u
    · obtain ⟨hprincipals, hkeys, -⟩ := Store.withoutLog_eq_iff.1 hstore
      refine ⟨iff_of_true ((offers_iff hw hactor hs).2 hmay) ⟨_, hvalue⟩, fun v hv => ?_,
        fun r hr => ⟨fun hoffered => ?_, fun as w' remover hlater hw' hsame hok => ?_⟩⟩
      · rw [offers_run_iff _ hw hactor hs, offers_iff hw hactor hs]
        refine Store.mayGetKey_congr (by rw [hprincipals]) ?_
        rw [hkeys, Shelf.find?_insert, if_neg (Ne.symm hv)]
      · have hnone := ((offers_run_iff _ hw hactor hs).1 hoffered).2
        rw [hkeys, Shelf.find?_insert, if_pos rfl] at hnone
        cases hnone
      · have hs' : w'.store.OwnIds := by
          rw [hlater]
          exact Store.ownIds_acts as (ownIds_run _ hs)
        obtain ⟨hkept, -, hgone⟩ := revoke_changes hw' remover u
        refine (offers_run_iff _ hw' hactor hs').2 ⟨?_, hgone hok⟩
        rw [hkept, hsame]
        exact hmay.1
    · obtain ⟨hprincipals, hkeys, -⟩ := Store.withoutLog_eq_iff.1 hstore
      refine ⟨iff_of_false (mt (offers_iff hw hactor hs).1 hnot) fun hok => ?_, fun v hv => ?_,
        fun r hr => ?_⟩
      · obtain ⟨r, hr⟩ := hok
        cases he.symm.trans hr
      · rw [offers_run_iff _ hw hactor hs, offers_iff hw hactor hs]
        exact Store.mayGetKey_congr (by rw [hprincipals]) (by rw [hkeys])
      · cases he.symm.trans hr
  · obtain ⟨hprincipals, hothers, -⟩ := revoke_changes hw remover u
    rw [offers_run_iff _ hw hactor hs, offers_iff hw hactor hs]
    exact Store.mayGetKey_congr (by rw [hprincipals]) (hothers v hv)

/-- Two users called alike, one who is not active, and an administrator with a key. -/
def office : World where
  store := Store.acts [.putPrincipal .root, .putPrincipal ⟨⟨5⟩, "ann", "", "", none, true, .empty⟩,
    .putPrincipal ⟨⟨2⟩, "ann", "", "", none, true, .empty⟩,
    .putPrincipal ⟨⟨3⟩, "bob", "", "", none, false, .empty⟩,
    .putKey .year1970 ⟨1⟩ ⟨"alpha"⟩] .empty
  script := .empty
  clock := .year1970
  wall := .year1970
  drawn := 0
  random := id

/-- One of the two gets a key and loses it again; the one who is not active gets none. -/
theorem candidates_are_issuable_office :
    office.script = .empty ∧ office.store.OwnIds ∧
    (Principal.root.active && Principal.root.isAdmin) = true ∧
    AccessKey.ofText " gamma " = .ok ⟨"gamma"⟩ ∧ office.store.Unheld ⟨"gamma"⟩ ∧
    (∃ issued, office.run (issue .root ⟨5⟩ (some " gamma ")) = issued ∧
      (∃ r, issued.1 = .ok r) ∧ ¬ issued.2.Offers .root ⟨5⟩ ∧ issued.2.Offers .root ⟨2⟩ ∧
      (issued.2.run (revoke .root ⟨5⟩)).2.Offers .root ⟨5⟩) ∧
    ¬ ∃ r, (office.run (issue .root ⟨3⟩ (some " gamma "))).1 = .ok r := by
  have hs : office.store.OwnIds := Store.ownIds_acts _ fun u p hp => by cases hp
  have hroot : (Principal.root.active && Principal.root.isAdmin) = true := by decide
  have hkey : AccessKey.ofText " gamma " = .ok ⟨"gamma"⟩ := by decide
  have hvalues : ∀ r ∈ office.store.accessKeys.values, r.accessKey ≠ ⟨"gamma"⟩ := by decide +kernel
  have hk : office.store.Unheld ⟨"gamma"⟩ := fun u r hr =>
    hvalues r (Shelf.mem_values_of_find? hr)
  have hoffers : ∀ u, office.Offers .root u ↔ office.store.MayGetKey u :=
    fun u => offers_iff rfl hroot hs
  have hfirst : office.store.MayGetKey ⟨2⟩ := ⟨⟨_, rfl, rfl⟩, rfl⟩
  have hsecond : office.store.MayGetKey ⟨5⟩ := ⟨⟨_, rfl, rfl⟩, rfl⟩
  obtain ⟨-, hissue, -⟩ := candidates_are_issuable rfl hs hroot
  obtain ⟨hann, hothers, hdone⟩ := hissue ⟨5⟩ " gamma " ⟨"gamma"⟩ hkey hk
  obtain ⟨r, hr⟩ := hann.1 ((hoffers ⟨5⟩).2 hsecond)
  obtain ⟨hgone, hback⟩ := hdone r hr
  refine ⟨rfl, hs, hroot, hkey, hk, ⟨_, rfl, ⟨r, hr⟩, hgone, ?_, ?_⟩, fun hbob => ?_⟩
  · exact (hothers ⟨2⟩ (by decide)).2 ((hoffers ⟨2⟩).2 hfirst)
  · exact hback [] _ .root rfl (script_call rfl _) rfl (by decide +kernel)
  · have hoffered := (hissue ⟨3⟩ " gamma " ⟨"gamma"⟩ hkey hk).1.2 hbob
    obtain ⟨⟨p, hp, hactive⟩, -⟩ := (hoffers ⟨3⟩).1 hoffered
    cases hp
    cases hactive

end World

end TableAccess
