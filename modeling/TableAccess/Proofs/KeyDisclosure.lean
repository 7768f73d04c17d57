/-
**Events tell keys apart by their masked forms only.**

Two stores are alike but for the tokens of keys, and the masked forms of these are the same.  An
administrator changes a key in both, and may supply tokens with one masked form.  The tokens decide
whether the change is refused, because the key is there already or somebody else has it.  When it
ends in the same way, the two events are the same, so whoever reads them learns no more of a token
than its masked form shows.  Of a supplied token that is not accepted they tell even less: whether
it was blank or too long.

Main definitions:

* `World.KeysAlike` — two worlds that are alike but for what masks hide;
* `KeyAdministration.AcceptedAlike`, `KeyAdministration.RefusedAlike` — supplied tokens that are
  accepted with one masked form, or refused for one reason;
* `Operation.SameChange` — one change to a key, with tokens that are supplied in two ways;
* `KeyAdministration.Ending`, `KeyAdministration.EndAlike` — the ways in which a change can end once
  a key was chosen, and two changes that differ in nothing else;
* `World.LeaveSame` — two operations leave the same events.

Main results:

* `World.issuance_alike`, `World.rotation_alike`, `World.revocation_alike` — how two changes end;
* `World.events_show_masks_only` — all of it.
-/
import TableAccess.Proofs.EffectiveCapabilities
import TableAccess.Proofs.KeyEvents

set_option relaxedAutoImplicit false
set_option autoImplicit false

namespace TableAccess

/-! ### Tokens -/

/-- How an operation failed, if it did. -/
def Outcome.failure? {α : Type} : Outcome α → Option ErrorKind
  | .ok _ => none
  | .error e => some e.kind

theorem Outcome.failure?_map {α β : Type} (f : α → β) (o : Outcome α) :
    Outcome.failure? (o.map f) = Outcome.failure? o := by
  cases o <;> rfl

namespace KeyAdministration

/-- Two supplied tokens are accepted and have one masked form, or none is supplied. -/
inductive AcceptedAlike : Option String → Option String → Prop
  | drawn : AcceptedAlike none none
  | supplied {s s' : String} {k k' : AccessKey} (hk : AccessKey.ofText s = .ok k)
      (hk' : AccessKey.ofText s' = .ok k') (hmask : k.masked = k'.masked) :
      AcceptedAlike (some s) (some s')

/-- Two supplied tokens are both blank, or both too long without the blanks around them. -/
inductive RefusedAlike : Option String → Option String → Prop
  | blank {s s' : String} (h : Text.trim s = "") (h' : Text.trim s' = "") :
      RefusedAlike (some s) (some s')
  | tooLong {s s' : String} (h : 36 < (Text.trim s).toList.length)
      (h' : 36 < (Text.trim s').toList.length) : RefusedAlike (some s) (some s')

end KeyAdministration

/-- Both operations change the key of one user in one way; their supplied tokens may differ. -/
inductive Operation.SameChange (alike : Option String → Option String → Prop) :
    Operation → Operation → Prop
  | issue (u : UserId) {t t' : Option String} (h : alike t t') :
      SameChange alike (.issueKey u t) (.issueKey u t')
  | rotate (u : UserId) {t t' : Option String} (h : alike t t') :
      SameChange alike (.rotateKey u t) (.rotateKey u t')
  | revoke (u : UserId) : SameChange alike (.revokeKey u) (.revokeKey u)

/-! ### Worlds -/

/-- The masked form of a user's key, if the user has one. -/
def Store.shownKey? (s : Store) (u : UserId) : Option String :=
  (s.accessKeys.find? u).map fun r => r.accessKey.masked

/-- Two worlds are alike but for what masks hide: nothing is prepared in either, both have the same
principals, every user has keys with one masked form in both, or has no key in either, and so have
the keys that are drawn next. -/
structure World.KeysAlike (w w' : World) : Prop where
  script : w.script = .empty
  script' : w'.script = .empty
  principals : w.store.principals = w'.store.principals
  keys : ∀ u, w.store.shownKey? u = w'.store.shownKey? u
  drawn : (AccessKey.ofRandom (w.random w.drawn)).masked =
    (AccessKey.ofRandom (w'.random w'.drawn)).masked

/-- The ways in which a change ends once a key was chosen: the key is there already, somebody else
has it, or the change is made and something is noted. -/
inductive KeyAdministration.Ending (note : Journal.Extra) : Outcome Journal.Extra → Prop
  | same : Ending note (.error sameKey)
  | taken : Ending note (.error Store.tokenTaken)
  | made : Ending note (.ok note)

/-- Two changes end in one way, or the chosen keys decide how each of them ends. -/
def KeyAdministration.EndAlike (o o' : Outcome Journal.Extra) : Prop :=
  o = o' ∨ ∃ note, Ending note o ∧ Ending note o'

/-- **The kind of a failure says how a change ends.** -/
theorem KeyAdministration.EndAlike.eq_of_failure {o o' : Outcome Journal.Extra}
    (h : EndAlike o o') (hkind : Outcome.failure? o = Outcome.failure? o') : o = o' := by
  obtain hsame | ⟨note, hends, hends'⟩ := h
  · exact hsame
  · cases hends <;> cases hends' <;> first | rfl | cases hkind

namespace World

open KeyAdministration

variable {w w' : World} {actor : Principal} {user : UserId} {t t' : Option String}
  {k k' : AccessKey}

namespace KeysAlike

theorem nameOf (h : w.KeysAlike w') (u : UserId) : w.store.nameOf u = w'.store.nameOf u := by
  rw [Store.nameOf, Store.nameOf, h.principals]

/-- A user has a key in both or in neither, and in the former case with one masked form. -/
theorem find? (h : w.KeysAlike w') (u : UserId) :
    (w.store.accessKeys.find? u = none ∧ w'.store.accessKeys.find? u = none) ∨
    ∃ r r', w.store.accessKeys.find? u = some r ∧ w'.store.accessKeys.find? u = some r' ∧
      r.accessKey.masked = r'.accessKey.masked := by
  have hkeys := h.keys u
  unfold Store.shownKey? at hkeys
  cases hr : w.store.accessKeys.find? u with
  | none =>
      rw [hr] at hkeys
      exact .inl ⟨rfl, Option.map_eq_none_iff.1 hkeys.symm⟩
  | some r =>
      rw [hr] at hkeys
      obtain ⟨r', hr', hmask⟩ := Option.map_eq_some_iff.1 hkeys.symm
      exact .inr ⟨r, r', rfl, hr', hmask.symm⟩

theorem masked_chosen (h : w.KeysAlike w') (ht : AcceptedAlike t t') :
    ∃ k k', w.chosen t = .ok k ∧ w'.chosen t' = .ok k' ∧ k.masked = k'.masked := by
  cases ht with
  | drawn => exact ⟨_, _, rfl, rfl, h.drawn⟩
  | supplied hk hk' hmask => exact ⟨_, _, hk, hk', hmask⟩

end KeysAlike

theorem chosen_of_refusedAlike (w w' : World) (ht : RefusedAlike t t') :
    ∃ e, w.chosen t = .error e ∧ w'.chosen t' = .error e := by
  cases ht with
  | blank h h' =>
      exact ⟨_, AccessKey.ofText_eq_error_iff.2 (.inl ⟨h, rfl⟩),
        AccessKey.ofText_eq_error_iff.2 (.inl ⟨h', rfl⟩)⟩
  | tooLong h h' =>
      exact ⟨_, AccessKey.ofText_eq_error_iff.2 (.inr ⟨h, rfl⟩),
        AccessKey.ofText_eq_error_iff.2 (.inr ⟨h', rfl⟩)⟩

end World

/-! ### What a change notes -/

namespace Store

variable {s : Store} {u : UserId}

theorem createKey_of_missing (hp : s.principals.contains u = false) (now : Instant) (k : AccessKey)
    (c : UserId) : (s.createKey now u k c).1 = .error (noUser u) := by
  rw [createKey, hp]
  rfl

theorem createKey_of_owner (hp : s.principals.contains u = true) {r : AccessKeyRecord}
    (hr : s.accessKeys.find? u = some r) (now : Instant) (k : AccessKey) (c : UserId) :
    (s.createKey now u k c).1 = .error (ownsKey u) := by
  rw [createKey, hp, Shelf.contains, hr]
  rfl

/-- For a user without a key, only the token can be in the way. -/
theorem createKey_of_free (hp : s.principals.contains u = true)
    (hr : s.accessKeys.find? u = none) (now : Instant) (k : AccessKey) (c : UserId)
    (note : Journal.Extra) :
    KeyAdministration.Ending note ((s.createKey now u k c).1.map fun _ => note) := by
  rw [createKey, hp, Shelf.contains, hr]
  simp only [Bool.not_true, Option.isSome_none, Bool.false_eq_true, if_false]
  split
  · exact .taken
  · exact .made

end Store

namespace World

open KeyAdministration

variable {w w' : World} {actor : Principal} {user : UserId} {t t' : Option String}
  {k k' : AccessKey}

/-- What an operation notes, or the error that it ends with. -/
def noted {α : Type} (w : World) (body : Service (α × Journal.Extra)) : Outcome Journal.Extra :=
  (w.run body).1.map Prod.snd

theorem noted_issuance (hw : w.script = .empty) (user : UserId) (t : Option String) :
    w.noted (issuance actor user t) =
      (w.store.principals.find? user).elim (.error (userNotFound user)) fun p =>
        if p.active then
          match w.chosen t with
          | .error e => .error e
          | .ok k => (w.store.createKey w.wall p.id k actor.id).1.map fun _ =>
              .message ("create access key " ++ k.masked ++ " for " ++ p.displayName)
        else .error (inactiveUser p) := by
  rw [noted, run_issuance hw]
  cases w.store.principals.find? user with
  | none => rfl
  | some p =>
      rw [Option.elim_some, Option.elim_some]
      split
      · cases w.chosen t with
        | error e => rfl
        | ok k =>
            dsimp only
            cases (w.store.createKey w.wall p.id k actor.id).1 <;> rfl
      · rfl

/-- What a rotation of a key that is there notes: how it ends depends on the chosen key. -/
theorem ending_rotation (hw : w.script = .empty) (actor : Principal) {r : AccessKeyRecord}
    (hr : w.store.accessKeys.find? user = some r) (hk : w.chosen t = .ok k) :
    Ending (.message ("renew access key " ++ k.masked ++ " of " ++ w.store.nameOf user))
      (w.noted (KeyAdministration.rotation actor user t)) := by
  rw [noted, run_rotation hw, hr, Option.elim_some, hk]
  dsimp only
  split
  · exact .same
  split
  · exact .taken
  · exact .made

/-- Two stores refuse to file a new key for one reason, unless only the token can be in the way. -/
theorem createKey_alike (h : w.KeysAlike w') (u c : UserId) (k k' : AccessKey)
    (note : Journal.Extra) :
    EndAlike ((w.store.createKey w.wall u k c).1.map fun _ => note)
      ((w'.store.createKey w'.wall u k' c).1.map fun _ => note) := by
  -- who is there, and who has a key, is the same in both, and looked at before the token
  cases hp : w.store.principals.contains u with
  | false =>
      have hp' : w'.store.principals.contains u = false := h.principals ▸ hp
      rw [Store.createKey_of_missing hp, Store.createKey_of_missing hp']
      exact .inl rfl
  | true =>
      have hp' : w'.store.principals.contains u = true := h.principals ▸ hp
      obtain ⟨hr, hr'⟩ | ⟨r, r', hr, hr', -⟩ := h.find? u
      · exact .inr ⟨note, Store.createKey_of_free hp hr .., Store.createKey_of_free hp' hr' ..⟩
      · rw [Store.createKey_of_owner hp hr, Store.createKey_of_owner hp' hr']
        exact .inl rfl

/-- **Two issues end alike.** -/
theorem issuance_alike (h : w.KeysAlike w') (hk : w.chosen t = .ok k)
    (hk' : w'.chosen t' = .ok k') (hmask : k.masked = k'.masked) :
    EndAlike (w.noted (issuance actor user t)) (w'.noted (issuance actor user t')) := by
  rw [noted_issuance h.script, noted_issuance h.script', hk, hk', ← h.principals]
  dsimp only
  rw [← hmask]
  cases w.store.principals.find? user with
  | none => exact .inl rfl
  | some p =>
      rw [Option.elim_some, Option.elim_some]
      split
      · exact createKey_alike h ..
      · exact .inl rfl

/-- **Two rotations end alike.** -/
theorem rotation_alike (h : w.KeysAlike w') (hk : w.chosen t = .ok k)
    (hk' : w'.chosen t' = .ok k') (hmask : k.masked = k'.masked) :
    EndAlike (w.noted (KeyAdministration.rotation actor user t))
      (w'.noted (KeyAdministration.rotation actor user t')) := by
  obtain ⟨hr, hr'⟩ | ⟨r, r', hr, hr', -⟩ := h.find? user
  · rw [noted, noted, run_rotation h.script, run_rotation h.script', hr, hr']
    exact .inl rfl
  · have hends := ending_rotation h.script' actor hr' hk'
    rw [← hmask, ← h.nameOf] at hends
    exact .inr ⟨_, ending_rotation h.script actor hr hk, hends⟩

/-- **Two revocations note the same.** -/
theorem revocation_alike (h : w.KeysAlike w') (user : UserId) :
    w.noted (revocation user) = w'.noted (revocation user) := by
  rw [noted, noted, run_revocation h.script, run_revocation h.script', ← h.nameOf]
  obtain ⟨hr, hr'⟩ | ⟨r, r', hr, hr', hmask⟩ := h.find? user
  · rw [hr, hr']
  · rw [hr, hr', Option.elim_some, Option.elim_some, hmask]

theorem issuance_refused_alike (h : w.KeysAlike w') {e : AppError} (he : w.chosen t = .error e)
    (he' : w'.chosen t' = .error e) :
    w.noted (issuance actor user t) = w'.noted (issuance actor user t') := by
  rw [noted_issuance h.script, noted_issuance h.script', he, he', ← h.principals]

theorem rotation_refused_alike (h : w.KeysAlike w') {e : AppError} (he : w.chosen t = .error e)
    (he' : w'.chosen t' = .error e) :
    w.noted (KeyAdministration.rotation actor user t) =
      w'.noted (KeyAdministration.rotation actor user t') := by
  rw [noted, noted, run_rotation h.script, run_rotation h.script', he, he']
  obtain ⟨hr, hr'⟩ | ⟨r, r', hr, hr', -⟩ := h.find? user
  · rw [hr, hr']
    rfl
  · rw [hr, hr']
    rfl

/-! ### Events -/

theorem event_congr {α : Type} {action : AuditAction} {owner : Option UserId} {records : Json}
    {ms : Nat} {o o' : Outcome (α × Journal.Extra)} (h : o.map Prod.snd = o'.map Prod.snd) :
    Journal.event action owner records ms o = Journal.event action owner records ms o' := by
  cases o with
  | error e =>
      cases o' with
      | error e' =>
          cases h
          rfl
      | ok x => cases h
  | ok x =>
      cases o' with
      | error e => cases h
      | ok x' =>
          obtain ⟨v, extra⟩ := x
          obtain ⟨v', extra'⟩ := x'
          obtain rfl : extra = extra' := Except.ok.inj h
          rfl

/-- Two operations leave the same events in the logs of two worlds. -/
def LeaveSame {α β : Type} (w w' : World) (op : Service α) (op' : Service β) : Prop :=
  ∃ es, w.Adds (w.run op).2 es ∧ w'.Adds (w'.run op').2 es

section Administered

variable {α : Type} (action : AuditAction) (records : Json)
  {body body' : Service (α × Journal.Extra)}

/-- **Two operations that note the same leave the same events**, and none if the actor is no
administrator. -/
theorem leaveSame_of_noted (h : w.KeysAlike w') (hbody : body.run.Asks fun r => r.isOfLog = false)
    (hbody' : body'.run.Asks fun r => r.isOfLog = false)
    (hnoted : (actor.active && actor.isAdmin) = true → w.noted body = w'.noted body') :
    w.LeaveSame w' (Journal.administered actor action records body)
      (Journal.administered actor action records body') := by
  by_cases hactor : (actor.active && actor.isAdmin) = true
  · have hadds := adds_administered (logWorks_of_quiet h.script) hactor action records hbody
    have hadds' := adds_administered (logWorks_of_quiet h.script') hactor action records hbody'
    rw [← event_congr (hnoted hactor)] at hadds'
    exact ⟨_, hadds, hadds'⟩
  · refine ⟨[], adds_nil ?_, adds_nil ?_⟩
    · rw [run_requireAdmin_of_not hactor]
    · rw [run_requireAdmin_of_not hactor]

/-- An operation fails as its body does. -/
theorem failure?_administered (hactor : (actor.active && actor.isAdmin) = true) :
    Outcome.failure? (w.run (Journal.administered actor action records body)).1 =
      Outcome.failure? (w.noted body) := by
  rw [(run_administered hactor action records body).1, Outcome.failure?_map, noted,
    Outcome.failure?_map]

/-- Two operations leave the same events if they fail alike, and may end in different ways only
where a chosen key decides. -/
theorem leaveSame_of_failure (h : w.KeysAlike w')
    (hbody : body.run.Asks fun r => r.isOfLog = false)
    (hbody' : body'.run.Asks fun r => r.isOfLog = false)
    (hnoted : EndAlike (w.noted body) (w'.noted body'))
    (hkind : Outcome.failure? (w.run (Journal.administered actor action records body)).1 =
      Outcome.failure? (w'.run (Journal.administered actor action records body')).1) :
    w.LeaveSame w' (Journal.administered actor action records body)
      (Journal.administered actor action records body') := by
  refine leaveSame_of_noted action records h hbody hbody' fun hactor => ?_
  rw [failure?_administered action records hactor,
    failure?_administered action records hactor] at hkind
  exact hnoted.eq_of_failure hkind

end Administered

/-- **Events tell keys apart by their masked forms only.**  Two worlds are alike but for what masks
hide, and the same change to the key of one user is asked for in both.

If the supplied tokens are accepted with one masked form, and the change is made in both or fails
with one kind of error, then the same events are added.  If they are refused, both for being blank
or both for being too long, then the same events are added in any case; and a token is refused for
nothing else. -/
theorem events_show_masks_only (h : w.KeysAlike w') (lifetimeDays : Nat) (actor : Principal) :
    (∀ op op', Operation.SameChange AcceptedAlike op op' →
      Outcome.failure? (w.run (op.service lifetimeDays actor)).1 =
        Outcome.failure? (w'.run (op'.service lifetimeDays actor)).1 →
      w.LeaveSame w' (op.service lifetimeDays actor) (op'.service lifetimeDays actor)) ∧
    (∀ op op', Operation.SameChange RefusedAlike op op' →
      w.LeaveSame w' (op.service lifetimeDays actor) (op'.service lifetimeDays actor)) ∧
    ∀ s, (∃ e, AccessKey.ofText s = .error e) ↔
      Text.trim s = "" ∨ 36 < (Text.trim s).toList.length := by
  refine ⟨fun op op' hsame hkind => ?_, fun op op' hsame => ?_, fun s => ?_⟩
  · cases hsame with
    | issue u ht =>
        obtain ⟨k, k', hk, hk', hmask⟩ := h.masked_chosen ht
        exact leaveSame_of_failure _ _ h (asks_issuance ..) (asks_issuance ..)
          (issuance_alike h hk hk' hmask) hkind
    | rotate u ht =>
        obtain ⟨k, k', hk, hk', hmask⟩ := h.masked_chosen ht
        exact leaveSame_of_failure _ _ h (asks_rotation ..) (asks_rotation ..)
          (rotation_alike h hk hk' hmask) hkind
    | revoke u =>
        exact leaveSame_of_noted _ _ h (asks_revocation u) (asks_revocation u)
          fun _ => revocation_alike h u
  · cases hsame with
    | issue u ht =>
        obtain ⟨e, he, he'⟩ := chosen_of_refusedAlike w w' ht
        exact leaveSame_of_noted _ _ h (asks_issuance ..) (asks_issuance ..)
          fun _ => issuance_refused_alike h he he'
    | rotate u ht =>
        obtain ⟨e, he, he'⟩ := chosen_of_refusedAlike w w' ht
        exact leaveSame_of_noted _ _ h (asks_rotation ..) (asks_rotation ..)
          fun _ => rotation_refused_alike h he he'
    | revoke u =>
        exact leaveSame_of_noted _ _ h (asks_revocation u) (asks_revocation u)
          fun _ => revocation_alike h u
  · constructor
    · rintro ⟨e, he⟩
      exact (AccessKey.ofText_eq_error_iff.1 he).imp And.left And.left
    · rintro (hblank | hlong)
      · exact ⟨_, AccessKey.ofText_eq_error_iff.2 (.inl ⟨hblank, rfl⟩)⟩
      · exact ⟨_, AccessKey.ofText_eq_error_iff.2 (.inr ⟨hlong, rfl⟩)⟩

/-- An administrator, and a user whose key has a token. -/
def keyOf (token : String) : World where
  store := ((Store.empty.putPrincipal .root).putPrincipal .ann).putKey .year1970 ⟨2⟩ ⟨token⟩
  script := .empty
  clock := .year1970
  wall := .year1970
  drawn := 0
  random := id

/-- Two keys that end alike are rotated, to tokens that end alike, and then to a blank and an empty
one; and both are revoked. -/
theorem events_show_masks_only_compass :
    (keyOf "north-1234").KeysAlike (keyOf "south-1234") ∧
    (keyOf "north-1234").LeaveSame (keyOf "south-1234")
      (rotate .root ⟨2⟩ (some "east-5678")) (rotate .root ⟨2⟩ (some "west-5678")) ∧
    (keyOf "north-1234").LeaveSame (keyOf "south-1234")
      (rotate .root ⟨2⟩ (some "  ")) (rotate .root ⟨2⟩ (some "")) ∧
    (keyOf "north-1234").LeaveSame (keyOf "south-1234")
      (revoke .root ⟨2⟩) (revoke .root ⟨2⟩) := by
  have halike : (keyOf "north-1234").KeysAlike (keyOf "south-1234") := by
    refine ⟨rfl, rfl, rfl, fun u => ?_, rfl⟩
    simp only [Store.shownKey?, keyOf, Store.putKey, Shelf.find?_insert]
    split
    · exact congrArg some (by decide +kernel)
    · rfl
  obtain ⟨haccepted, hrefused, -⟩ := events_show_masks_only halike 183 .root
  have hrotate : Operation.SameChange AcceptedAlike (.rotateKey ⟨2⟩ (some "east-5678"))
      (.rotateKey ⟨2⟩ (some "west-5678")) := .rotate ⟨2⟩ (.supplied rfl rfl (by decide +kernel))
  have hblank : Operation.SameChange RefusedAlike (.rotateKey ⟨2⟩ (some "  "))
      (.rotateKey ⟨2⟩ (some "")) := .rotate ⟨2⟩ (.blank (by decide) (by decide))
  exact ⟨halike, haccepted _ _ hrotate (by decide +kernel), hrefused _ _ hblank,
    haccepted _ _ (.revoke ⟨2⟩) (by decide +kernel)⟩

end World

end TableAccess
