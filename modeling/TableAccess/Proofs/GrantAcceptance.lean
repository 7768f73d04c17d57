/-
**Which grants are created.**

The checks of a creation are spread over the operation, the draft, the look-up of the capabilities
and the store.  Together they come to one condition, which can be read off the request and the
store: the user is there and active, something is asked for, the calendar has the last day, that day
is not before the first one, and everything asked for is among the capabilities that administrators
are offered.  A request that meets it is granted as it stands; another one is refused for the first
part that fails, and leaves everything as it is.

Main definitions:

* `GrantAdministration.Acceptable` — the condition;
* `GrantAdministration.Refuses` — what a request is refused with;
* `Store.Gains` — a store after a grant came in.

Main results:

* `Store.mem_missing_iff` — what is missing is what is not offered;
* `World.create_cases` — a creation is granted or refused;
* `World.create_accepts_exactly` — which it is, and what it leaves behind.
-/
import TableAccess.Proofs.Conservation
import TableAccess.Proofs.EffectiveCapabilities
import TableAccess.Proofs.GrantDrafts
import TableAccess.Proofs.GrantListing
import TableAccess.Proofs.KeyRotation

set_option relaxedAutoImplicit false
set_option autoImplicit false

namespace TableAccess

/-! ### Capabilities that are asked for -/

namespace Store

variable {s t : Store} {ids : List CapabilityId} {id : CapabilityId}

theorem exists_capabilitiesOf (h : ∀ id ∈ ids, s.capabilities.find? id ≠ none) :
    ∃ cs, s.capabilitiesOf ids = .ok cs := by
  induction ids with
  | nil => exact ⟨[], rfl⟩
  | cons id ids ih =>
      obtain ⟨c, hc⟩ := Option.ne_none_iff_exists'.1 (h id (List.mem_cons_self ..))
      obtain ⟨cs, hcs⟩ := ih fun j hj => h j (List.mem_cons_of_mem _ hj)
      refine ⟨c :: cs, ?_⟩
      rw [capabilitiesOf, hc, hcs]

theorem find?_of_mem_capabilitiesOf (hs : s.Reached) {cs : List Capability} {c : Capability}
    (h : s.capabilitiesOf ids = .ok cs) (hc : c ∈ cs) : s.capabilities.find? c.id = some c := by
  induction ids generalizing cs with
  | nil =>
      cases h
      cases hc
  | cons id ids ih =>
      unfold capabilitiesOf at h
      split at h
      · cases h
      · next first hfirst =>
          split at h
          · cases h
          · next rest hrest =>
              cases h
              rcases List.mem_cons.1 hc with rfl | hc
              · rw [hs.capability_id id c hfirst, hfirst]
              · exact ih hrest hc

theorem mem_grantable {c : Capability} :
    c ∈ s.grantable ↔ ∃ id, s.capabilities.find? id = some c := by
  rw [grantable, List.mem_mergeSort, Shelf.mem_values_iff]

/-- A capability is offered if something is filed under its identifier. -/
theorem exists_grantable_iff (hs : s.Reached) :
    (∃ c ∈ s.grantable, c.id = id) ↔ s.capabilities.find? id ≠ none := by
  constructor
  · rintro ⟨c, hc, rfl⟩
    obtain ⟨j, hj⟩ := mem_grantable.1 hc
    rw [hs.capability_id j c hj, hj]
    simp
  · intro hid
    obtain ⟨c, hc⟩ := Option.ne_none_iff_exists'.1 hid
    exact ⟨c, mem_grantable.2 ⟨id, hc⟩, hs.capability_id id c hc⟩

/-- Missing are those of the identifiers that are not offered. -/
theorem mem_missing_iff (hs : s.Reached) :
    id ∈ GrantAdministration.missing ids (s.findGrantable ids) ↔
      id ∈ ids ∧ ∀ c ∈ s.grantable, c.id ≠ id := by
  rw [GrantAdministration.missing, List.mem_filter, Bool.not_eq_true', List.any_eq_false]
  refine and_congr_right fun hid => ⟨fun h c hc hcid => ?_, fun h c hc => ?_⟩
  · subst hcid
    obtain ⟨j, hj⟩ := mem_grantable.1 hc
    have hfound : s.capabilities.find? c.id = some c := by rw [hs.capability_id j c hj, hj]
    exact h c (List.mem_filterMap.2 ⟨c.id, hid, hfound⟩) (decide_eq_true rfl)
  · obtain ⟨j, -, hj⟩ := List.mem_filterMap.1 hc
    rw [decide_eq_true_eq]
    exact h c (mem_grantable.2 ⟨j, hj⟩)

end Store

/-! ### What is asked for, and what comes of it -/

namespace GrantAdministration

/-- The first day of the grant that is asked for. -/
def CreateInput.firstDay (i : CreateInput) (today : Date) : Date := i.applyDate.getD today

/-- The day is the last one of the grant that is asked for. -/
def CreateInput.LastDay (i : CreateInput) (today : Date) (lifetimeDays : Nat) (e : Date) : Prop :=
  Grant.Draft.EndsOn (i.firstDay today) i.expireDate lifetimeDays e

/-- The owner of the grant that is asked for is there and active. -/
def CreateInput.ForActive (i : CreateInput) (s : Store) : Prop :=
  ∃ p, s.principals.find? i.userId = some p ∧ p.active = true

section Requests

variable (s : Store) (today : Date) (lifetimeDays : Nat) (offered : List Capability)
  (i : CreateInput)

/-- The request can be granted, when these capabilities are offered. -/
structure Acceptable : Prop where
  user : i.ForActive s
  capabilities : i.capabilityIds ≠ []
  dates : ∃ e, i.LastDay today lifetimeDays e ∧ i.firstDay today ≤ e
  offered : ∀ id ∈ i.capabilityIds, ∃ c ∈ offered, c.id = id

/-- What a request is refused with: the first part that fails decides.  The last refusal names the
capabilities that are not offered in ascending order and each of them once. -/
inductive Refuses : AppError → Prop
  | noUser (hnone : s.principals.find? i.userId = none) : Refuses (userNotFound i.userId)
  | inactive {p : Principal} (hp : s.principals.find? i.userId = some p)
      (hinactive : p.active = false) : Refuses (inactiveUser p)
  | noCapability (huser : i.ForActive s) (hids : i.capabilityIds = []) :
      Refuses (Grant.Draft.Refusal.error .noCapability)
  | beyondCalendar (huser : i.ForActive s) (hids : i.capabilityIds ≠ [])
      (hdefault : i.expireDate = none) (hnone : ∀ e, ¬ i.LastDay today lifetimeDays e) :
      Refuses (Grant.Draft.Refusal.error (.beyondCalendar lifetimeDays))
  | expiresBeforeStart {e : Date} (huser : i.ForActive s) (hids : i.capabilityIds ≠ [])
      (hgiven : i.expireDate = some e) (hlt : e < i.firstDay today) :
      Refuses (Grant.Draft.Refusal.error (.expiresBeforeStart e (i.firstDay today)))
  | notGrantable {e : Date} {ids : List CapabilityId} (huser : i.ForActive s)
      (hids : i.capabilityIds ≠ []) (he : i.LastDay today lifetimeDays e)
      (hle : i.firstDay today ≤ e) (hne : ids ≠ []) (hascend : ids.Pairwise (· < ·))
      (hmem : ∀ id, id ∈ ids ↔ id ∈ i.capabilityIds ∧ ∀ c ∈ offered, c.id ≠ id) :
      Refuses (notGrantable ids)

/-- The grant is what is asked for, and a store has it besides all that was there. -/
structure Granted (g : Grant) (t : Store) : Prop where
  id_eq : g.id = ⟨s.grantCount + 1⟩
  fresh : s.grants.find? g.id = none
  owner : g.userId = i.userId
  applyDate : g.applyDate = i.firstDay today
  expireDate : i.LastDay today lifetimeDays g.expireDate
  isActive : g.isActive = true
  notForced : g.forceTerminateAt = none
  ids_ascend : (g.capabilities.map Capability.id).Pairwise (· < ·)
  mem_ids : ∀ id, id ∈ g.capabilities.map Capability.id ↔ id ∈ i.capabilityIds
  current : ∀ c ∈ g.capabilities, s.capabilities.find? c.id = some c
  find?_eq : ∀ id, t.grants.find? id = if id = g.id then some g else s.grants.find? id
  size_eq : t.grants.size = s.grants.size + 1
  grantCount_eq : t.grantCount = s.grantCount + 1
  others : t.principals = s.principals ∧ t.accessKeys = s.accessKeys ∧
    t.capabilities = s.capabilities

end Requests

section Refusals

variable {s t : Store} {today : Date} {lifetimeDays : Nat} {offered : List Capability}
  {i : CreateInput} {e : AppError} {g : Grant}

/-- Whom a grant is for decides about the kind of a refusal. -/
theorem Refuses.kind_eq (h : Refuses s today lifetimeDays offered i e) :
    e.kind = if s.principals.contains i.userId then .validation else .notFound := by
  have hthere : i.ForActive s → s.principals.contains i.userId = true := by
    rintro ⟨p, hp, -⟩
    rw [Shelf.contains, hp, Option.isSome_some]
  cases h with
  | noUser hnone =>
      rw [Shelf.contains, hnone, Option.isSome_none, if_neg Bool.false_ne_true]
      rfl
  | inactive hp _ =>
      rw [Shelf.contains, hp, Option.isSome_some, if_pos rfl]
      rfl
  | noCapability huser => rw [if_pos (hthere huser), Grant.Draft.Refusal.kind_eq]
  | beyondCalendar huser => rw [if_pos (hthere huser), Grant.Draft.Refusal.kind_eq]
  | expiresBeforeStart huser => rw [if_pos (hthere huser), Grant.Draft.Refusal.kind_eq]
  | notGrantable huser =>
      rw [if_pos (hthere huser)]
      rfl

theorem Refuses.not_acceptable (h : Refuses s today lifetimeDays offered i e) :
    ¬ Acceptable s today lifetimeDays offered i := by
  rintro ⟨⟨p, hp, hactive⟩, hids, ⟨day, hday, hle⟩, hoffered⟩
  cases h with
  | noUser hnone => cases hp.symm.trans hnone
  | inactive hp' hinactive =>
      cases hp.symm.trans hp'
      cases hactive.symm.trans hinactive
  | noCapability _ hnil => exact hids hnil
  | beyondCalendar _ _ _ hnone => exact hnone day hday
  | expiresBeforeStart _ _ hgiven hlt =>
      rw [CreateInput.LastDay, hgiven] at hday
      cases hday
      exact absurd hlt (Int.not_lt.2 hle)
  | @notGrantable _ ids _ _ _ _ hne _ hmem =>
      obtain ⟨id, hid⟩ := List.exists_mem_of_ne_nil ids hne
      obtain ⟨hasked, hmissing⟩ := (hmem id).1 hid
      obtain ⟨c, hc, hcid⟩ := hoffered id hasked
      exact hmissing c hc hcid

theorem Granted.congr {t' : Store} (h : Granted s today lifetimeDays i g t)
    (ht : t'.withoutLog = t.withoutLog) : Granted s today lifetimeDays i g t' := by
  obtain ⟨hprincipals, hkeys, hcapabilities, hgrants, hcount⟩ := Store.withoutLog_eq_iff.1 ht
  exact { h with
    find?_eq := by rw [hgrants]; exact h.find?_eq
    size_eq := by rw [hgrants]; exact h.size_eq
    grantCount_eq := by rw [hcount]; exact h.grantCount_eq
    others := by rw [hprincipals, hkeys, hcapabilities]; exact h.others }

/-- A store that has all the capabilities stores what is asked for. -/
theorem granted_of_createGrant (hs : s.Reached) {last : Date} {cs : List Capability}
    (hlast : i.LastDay today lifetimeDays last)
    (hcs : s.capabilitiesOf (Ascending.ofList i.capabilityIds).toList = .ok cs) :
    ∃ g t, s.createGrant ⟨i.userId, i.firstDay today, last, .ofList i.capabilityIds⟩ = (.ok g, t) ∧
      Granted s today lifetimeDays i g t := by
  refine ⟨_, _, by rw [Store.createGrant, hcs], ?_⟩
  have hfree : s.grants.find? ⟨s.grantCount + 1⟩ = none := hs.wellFiled.next_free
  have hids : cs.map Capability.id = (Ascending.ofList i.capabilityIds).toList :=
    Store.map_id_of_capabilitiesOf hs hcs
  refine {
    id_eq := rfl
    fresh := hfree
    owner := rfl
    applyDate := rfl
    expireDate := hlast
    isActive := rfl
    notForced := rfl
    ids_ascend := ?_
    mem_ids := fun id => ?_
    current := fun c hc => Store.find?_of_mem_capabilitiesOf hs hcs hc
    find?_eq := fun id => ?_
    size_eq := ?_
    grantCount_eq := rfl
    others := ⟨rfl, rfl, rfl⟩ }
  · dsimp only
    rw [hids]
    exact (Ascending.ofList i.capabilityIds).ascends
  · dsimp only
    rw [hids]
    exact Ascending.mem_ofList
  · dsimp only
    rw [Shelf.find?_insert]
    simp only [eq_comm]
  · -- the number is free, so nothing is put aside
    have hinsert := s.grants.tally_insert ⟨s.grantCount + 1⟩
      ⟨⟨s.grantCount + 1⟩, i.userId, i.firstDay today, last, none, true, cs⟩ fun _ _ => true
    rw [hfree, Shelf.tally_size, Shelf.tally_size] at hinsert
    exact hinsert

end Refusals

/-! ### The operation -/

/-- What a creation does between the check of its actor and its event. -/
def creation (lifetimeDays : Nat) (actor : Principal) (i : CreateInput) :
    Service (View × Journal.Extra) := do
  let p ← requirePrincipal i.userId
  if !p.active then Service.refuse (inactiveUser p)
  let now ← Service.now
  let draft ← Service.ofOutcome ((Grant.Draft.make p.id (i.applyDate.getD now.date) i.expireDate
    i.capabilityIds lifetimeDays).mapError Grant.Draft.Refusal.error)
  ensureGrantable draft.capabilityIds.toList
  let grant ← Service.request (.createGrant draft actor.id)
  pure (view grant p.displayName now, .message ("grant permissions of tables: "
    ++ grant.capabilitySummary ++ " to " ++ p.displayName ++ " til " ++ grant.expireDate.write))

end GrantAdministration

namespace World

open GrantAdministration

variable {w : World} {actor : Principal} {i : CreateInput} {p : Principal}

/-- For an active principal the draft, the look-up and the store decide. -/
theorem run_creation (hw : w.script = .empty) (hp : w.store.principals.find? i.userId = some p)
    (hactive : p.active = true) (lifetimeDays : Nat) (actor : Principal) :
    w.run (creation lifetimeDays actor i) =
      match Grant.Draft.make p.id (i.firstDay w.clock.date) i.expireDate i.capabilityIds
        lifetimeDays with
      | .error r => (.error r.error, w)
      | .ok d =>
          if (missing d.capabilityIds.toList
              (w.store.findGrantable d.capabilityIds.toList)).isEmpty then
            ((w.store.createGrant d).1.map fun g => (view g p.displayName w.clock,
              .message ("grant permissions of tables: " ++ g.capabilitySummary ++ " to " ++
                p.displayName ++ " til " ++ g.expireDate.write)),
              { w with store := (w.store.createGrant d).2 })
          else (.error (notGrantable (missing d.capabilityIds.toList
            (w.store.findGrantable d.capabilityIds.toList))), w) := by
  refine (call_requireActive hw i.userId _ _ _).trans ?_
  rw [hp, Option.elim_some, if_pos hactive, Service.run_now_bind, call_ask]
  change w.call ((Service.ofOutcome ((Grant.Draft.make p.id (i.firstDay w.clock.date) i.expireDate
    i.capabilityIds lifetimeDays).mapError Grant.Draft.Refusal.error) >>= _).run) = _
  rw [Service.run_ofOutcome_bind]
  cases Grant.Draft.make p.id (i.firstDay w.clock.date) i.expireDate i.capabilityIds
    lifetimeDays with
  | error r => rfl
  | ok d =>
      change w.call ((ensureGrantable d.capabilityIds.toList >>= fun _ =>
        Service.request (.createGrant d actor.id) >>= _).run) = _
      rw [run_ensureGrantable_bind]
      refine (call_read_quiet hw rfl rfl _).trans ?_
      dsimp only
      split
      · rw [pure_bind, Service.run_request_bind]
        refine (call_ask_quiet hw _ _).trans ?_
        rw [Store.answer]
        cases (w.store.createGrant d).1 <;> rfl
      · rfl

theorem creation_refused (hw : w.script = .empty) (h : ¬ i.ForActive w.store) (lifetimeDays : Nat)
    (actor : Principal) (offered : List Capability) :
    ∃ e, Refuses w.store w.clock.date lifetimeDays offered i e ∧
      w.run (creation lifetimeDays actor i) = (.error e, w) := by
  have hrun : w.run (creation lifetimeDays actor i) = _ := call_requireActive hw i.userId _ _ _
  rw [hrun]
  cases hp : w.store.principals.find? i.userId with
  | none => exact ⟨_, .noUser hp, rfl⟩
  | some p =>
      have hinactive : ¬ p.active = true := fun hactive => h ⟨p, hp, hactive⟩
      rw [Option.elim_some, if_neg hinactive]
      exact ⟨_, .inactive hp (Bool.eq_false_iff.2 hinactive), rfl⟩

/-- **A creation is granted or refused.** -/
theorem creation_cases (hstore : w.store.Reached) (hw : w.script = .empty) (lifetimeDays : Nat)
    (actor : Principal) (i : CreateInput) :
    (Acceptable w.store w.clock.date lifetimeDays w.store.grantable i ∧ ∃ g name extra t,
      w.run (creation lifetimeDays actor i) =
        (.ok (view g name w.clock, extra), { w with store := t }) ∧
      Granted w.store w.clock.date lifetimeDays i g t) ∨
    ∃ e, Refuses w.store w.clock.date lifetimeDays w.store.grantable i e ∧
      w.run (creation lifetimeDays actor i) = (.error e, w) := by
  by_cases huser : i.ForActive w.store
  case neg => exact .inr (creation_refused hw huser lifetimeDays actor _)
  obtain ⟨p, hp, hactive⟩ := id huser
  have hid : p.id = i.userId := hstore.wellFiled.principal_id i.userId p hp
  rw [run_creation hw hp hactive]
  obtain ⟨hnil, hmake⟩ | ⟨hids, hdefault, hnone, hmake⟩ | ⟨hids, e, hgiven, hlt, hmake⟩ |
    ⟨hids, e, he, hle, hmake⟩ := Grant.Draft.make_cases p.id (i.firstDay w.clock.date)
      i.expireDate i.capabilityIds lifetimeDays
  · rw [hmake]
    exact .inr ⟨_, .noCapability huser hnil, rfl⟩
  · rw [hmake]
    rw [← hdefault] at hnone
    exact .inr ⟨_, .beyondCalendar huser hids hdefault hnone, rfl⟩
  · rw [hmake]
    exact .inr ⟨_, .expiresBeforeStart huser hids hgiven hlt, rfl⟩
  · rw [hmake, hid]
    dsimp only
    have hmissing : ∀ id, id ∈ missing (Ascending.ofList i.capabilityIds).toList
        (w.store.findGrantable (Ascending.ofList i.capabilityIds).toList) ↔
        id ∈ i.capabilityIds ∧ ∀ c ∈ w.store.grantable, c.id ≠ id := fun id => by
      rw [Store.mem_missing_iff hstore, Ascending.mem_ofList]
    split
    · next hempty =>
        have hoffered : ∀ id ∈ i.capabilityIds, ∃ c ∈ w.store.grantable, c.id = id := by
          intro id hasked
          by_contra hnone
          have hmem := (hmissing id).2 ⟨hasked, fun c hc hcid => hnone ⟨c, hc, hcid⟩⟩
          rw [List.isEmpty_iff.1 hempty] at hmem
          cases hmem
        have hfiled : ∀ id ∈ (Ascending.ofList i.capabilityIds).toList,
            w.store.capabilities.find? id ≠ none := fun id hasked =>
          (Store.exists_grantable_iff hstore).1 (hoffered id (Ascending.mem_ofList.1 hasked))
        obtain ⟨cs, hcs⟩ := Store.exists_capabilitiesOf hfiled
        obtain ⟨g, t, hcreate, hgranted⟩ := granted_of_createGrant hstore he hcs
        rw [hcreate]
        exact .inl ⟨⟨huser, hids, ⟨e, he, hle⟩, hoffered⟩, g, _, _, t, rfl, hgranted⟩
    · next hsome =>
        refine .inr ⟨_, .notGrantable huser hids he hle ?_ ?_ hmissing, rfl⟩
        · exact fun hnil => hsome (List.isEmpty_iff.2 hnil)
        · exact (Ascending.ofList i.capabilityIds).ascends.filter _

section Create

variable (hstore : w.store.Reached) (hw : w.script = .empty)
  (hactor : actor.active && actor.isAdmin) (lifetimeDays : Nat) (i : CreateInput)

include hw hactor

theorem run_grantable : w.run (grantable actor) = (.ok w.store.grantable, w) :=
  (run_requireAdmin hactor _).trans (call_ask_quiet hw .listGrantable .done)

include hstore

/-- **A creation is granted or refused**, and in the first case stored. -/
theorem create_cases :
    (Acceptable w.store w.clock.date lifetimeDays w.store.grantable i ∧ ∃ g name,
      (w.run (create lifetimeDays actor i)).1 = .ok (view g name w.clock) ∧
      Granted w.store w.clock.date lifetimeDays i g
        (w.run (create lifetimeDays actor i)).2.store) ∨
    ∃ e, Refuses w.store w.clock.date lifetimeDays w.store.grantable i e ∧
      (w.run (create lifetimeDays actor i)).1 = .error e ∧
      (w.run (create lifetimeDays actor i)).2.store.withoutLog = w.store.withoutLog := by
  obtain ⟨hvalue, hafter⟩ : (w.run (create lifetimeDays actor i)).1 = _ ∧
      (w.run (create lifetimeDays actor i)).2.store.withoutLog = _ :=
    run_administered hactor _ _ (creation lifetimeDays actor i)
  obtain ⟨hacceptable, g, name, extra, t, hrun, hgranted⟩ | ⟨e, hrefuses, hrun⟩ :=
    creation_cases hstore hw lifetimeDays actor i
  · rw [hrun] at hvalue hafter
    exact .inl ⟨hacceptable, g, name, hvalue, hgranted.congr hafter⟩
  · rw [hrun] at hvalue hafter
    exact .inr ⟨e, hrefuses, hvalue, hafter⟩

/-- **A creation accepts exactly what can be granted.**  In a state that is reached, an
administrator is offered some capabilities and asks for a grant.  This succeeds if and only if the
user is there and active, something is asked for, the calendar has the last day, that day is not
before the first one, and everything asked for is offered.  Then the store has the grant under the
next number, with the capabilities as they are at present, and everything else as before.  Otherwise
the request is refused for the first part that fails, as not found if the user is not there and as
invalid if it is something else, and nothing changes. -/
theorem create_accepts_exactly :
    ∃ offered, w.run (grantable actor) = (.ok offered, w) ∧
      ((∃ v, (w.run (create lifetimeDays actor i)).1 = .ok v) ↔
        Acceptable w.store w.clock.date lifetimeDays offered i) ∧
      (∀ v, (w.run (create lifetimeDays actor i)).1 = .ok v →
        Granted w.store w.clock.date lifetimeDays i v.grant
          (w.run (create lifetimeDays actor i)).2.store) ∧
      ∀ e, (w.run (create lifetimeDays actor i)).1 = .error e →
        Refuses w.store w.clock.date lifetimeDays offered i e ∧
        e.kind = (if w.store.principals.contains i.userId then .validation else .notFound) ∧
        (w.run (create lifetimeDays actor i)).2.store.withoutLog = w.store.withoutLog := by
  refine ⟨w.store.grantable, run_grantable hw hactor, ?_⟩
  obtain ⟨hacceptable, g, name, hvalue, hgranted⟩ | ⟨e, hrefuses, hvalue, hafter⟩ :=
    create_cases hstore hw hactor lifetimeDays i
  · refine ⟨iff_of_true ⟨_, hvalue⟩ hacceptable, fun v hv => ?_, fun e he => ?_⟩
    · cases hvalue.symm.trans hv
      exact hgranted
    · cases hvalue.symm.trans he
  · refine ⟨iff_of_false (fun hok => ?_) hrefuses.not_acceptable, fun v hv => ?_, fun e' he => ?_⟩
    · obtain ⟨v, hv⟩ := hok
      cases hvalue.symm.trans hv
    · cases hvalue.symm.trans hv
    · cases hvalue.symm.trans he
      exact ⟨hrefuses, hrefuses.kind_eq, hafter⟩

end Create

/-- A principal who has two grants gets another one, for half a year, and none for capabilities that
are not there. -/
theorem create_accepts_exactly_threeGrants :
    threeGrants.store.Reached ∧ threeGrants.script = .empty ∧
    (Principal.root.active && Principal.root.isAdmin) = true ∧
    (∃ v, (threeGrants.run (create 183 .root ⟨⟨1⟩, [⟨11⟩, ⟨11⟩], none, none⟩)).1 = .ok v ∧
      v.grant.id = ⟨4⟩ ∧ v.grant.expireDate = ⟨1970, 7, 3, by decide⟩) ∧
    (threeGrants.run (create 183 .root ⟨⟨1⟩, [⟨13⟩, ⟨11⟩, ⟨12⟩, ⟨13⟩], none, none⟩)).1 =
      .error (notGrantable [⟨12⟩, ⟨13⟩]) ∧
    (threeGrants.run (create 183 .root
      ⟨⟨1⟩, [⟨13⟩, ⟨11⟩, ⟨12⟩, ⟨13⟩], none, none⟩)).2.store.withoutLog =
        threeGrants.store.withoutLog := by
  have hstore : threeGrants.store.Reached := .acts .empty _
  have hroot : (Principal.root.active && Principal.root.isAdmin) = true := by decide
  have hrefused : (threeGrants.run (create 183 .root
      ⟨⟨1⟩, [⟨13⟩, ⟨11⟩, ⟨12⟩, ⟨13⟩], none, none⟩)).1 = .error (notGrantable [⟨12⟩, ⟨13⟩]) := by
    decide +kernel
  refine ⟨hstore, rfl, hroot, ?_, hrefused, ?_⟩
  · obtain ⟨offered, hoffered, hiff, hgranted, -⟩ :=
      create_accepts_exactly hstore rfl hroot 183 ⟨⟨1⟩, [⟨11⟩, ⟨11⟩], none, none⟩
    have hlast : CreateInput.LastDay ⟨⟨1⟩, [⟨11⟩, ⟨11⟩], none, none⟩ threeGrants.clock.date 183
        ⟨1970, 7, 3, by decide⟩ := Grant.Draft.endsOn_none.2 (by decide +kernel)
    have hthere : threeGrants.store.capabilities.find? ⟨11⟩ ≠ none := by decide +kernel
    cases hoffered.symm.trans (run_grantable rfl hroot)
    obtain ⟨v, hv⟩ := hiff.2 {
      user := ⟨.root, rfl, rfl⟩
      capabilities := List.cons_ne_nil _ _
      dates := ⟨_, hlast, by decide⟩
      offered := fun id hid => by
        obtain rfl : id = ⟨11⟩ := by simpa using hid
        exact (Store.exists_grantable_iff hstore).2 hthere }
    exact ⟨v, hv, (hgranted v hv).id_eq, (hgranted v hv).expireDate.unique hlast⟩
  · obtain ⟨offered, -, -, -, hfailed⟩ := create_accepts_exactly hstore rfl hroot 183
      ⟨⟨1⟩, [⟨13⟩, ⟨11⟩, ⟨12⟩, ⟨13⟩], none, none⟩
    exact (hfailed _ hrefused).2.2

end World

end TableAccess
