/-
**How the calls of a grant service go.**

Each service is followed from its first request to the moment when it takes effect.

Main results:

* `Caller.begins` — the first request of a call is where it takes effect, or it is underway from
  then on;
* `Caller.alone_eq_atOnce` — a call that nothing comes between does what `GrantService.atOnce` says.
-/
import TableAccess.Proofs.Commitment

set_option relaxedAutoImplicit false
set_option autoImplicit false

namespace TableAccess

/-! ### The services, one by one -/

section Services

variable {α β : Type} {lifetimeDays : Nat} {s : Store}

theorem settled_conclude (c : Caller) {action : AuditAction} {actor : Option UserId}
    {records : Json} {o : Outcome (α × Journal.Extra)} {ending : Except ErrorKind α}
    (ho : Outcome.ending (o.map Prod.fst) = ending) (s : Store) :
    Settled ending (c.expand (.done o >>= Journal.conclude action actor records)) s :=
  fun _ _ _ _ => ⟨rfl, trivial, ho⟩

theorem begins_get (c : Caller) (id : GrantId) :
    Begins lifetimeDays c.clock (.get id) (c.program lifetimeDays (.get id)) := by
  change Begins _ _ (.get id) (c.expand (GrantAdministration.get c.actor id).run)
  rw [GrantAdministration.get, Service.run_requireAdmin_bind, if_pos c.isAllowed,
    GrantAdministration.run_requireGrant_bind]
  intro s _ now
  cases hg : s.grants.find? id with
  | none =>
      have hatOnce : GrantService.atOnce lifetimeDays c.clock s (.get id) =
          (.error .notFound, s) := by
        simp only [GrantService.atOnce, hg]
      refine .inr (commits_of_reads rfl hatOnce ?_)
      change Settled _ (c.expand (Service.orRefuse _ (s.grants.find? id) >>= _).run) s
      rw [Service.run_orRefuse_bind, hg]
      rfl
  | some g =>
      have hatOnce : GrantService.atOnce lifetimeDays c.clock s (.get id) =
          (.ok (GrantAdministration.view g (s.nameOf g.userId) c.clock), s) := by
        simp only [GrantService.atOnce, hg]
      refine .inr (commits_of_reads rfl hatOnce ?_)
      change Settled _ (c.expand (Service.orRefuse _ (s.grants.find? id) >>= _).run) s
      rw [Service.run_orRefuse_bind, hg, Option.elim_some, Service.run_nameOf_bind]
      refine settled_of_reads rfl fun t _ hlater _ => ?_
      have hname : t.nameOf g.userId = s.nameOf g.userId := by
        rw [Store.nameOf, Store.nameOf, hlater.principals]
      rw [← hname]
      rfl

theorem begins_sweep (c : Caller) :
    Begins lifetimeDays c.clock .sweep (c.program lifetimeDays .sweep) := by
  change Begins _ _ .sweep (c.expand (GrantAdministration.sweep c.actor).run)
  rw [GrantAdministration.sweep, Service.run_requireAdmin_bind, if_pos c.isAllowed,
    Service.run_now_bind, Caller.expand_now, Journal.run_audited, Service.run_request_bind]
  intro s _ now
  exact .inr ⟨rfl, trivial, settled_conclude c rfl _⟩

theorem settled_explainFailedDelete (c : Caller) {action : AuditAction} {actor : Option UserId}
    {records : Json} {id : GrantId} {k : β → Service (α × Journal.Extra)}
    (hs : s.grants.find? id = none) (hcount : id.value ≤ s.grantCount) :
    Settled (.error .notFound) (c.expand ((GrantAdministration.explainFailedDelete id >>= k).run >>=
      Journal.conclude action actor records)) s := by
  rw [GrantAdministration.run_explainFailedDelete_bind]
  refine settled_of_reads rfl fun t _ hst _ => ?_
  have ht : t.grants.find? id = none := hst.absent hcount hs
  change Settled _ (c.expand (Dialogue.done (Except.error
    (GrantAdministration.whyKept id (.ok (t.grants.find? id)))) >>= _)) t
  rw [ht]
  exact settled_conclude c rfl t

/-- A deletion that found its grant inactive: the next request decides. -/
theorem underway_deletion (c : Caller) {g : Grant} {records : Json}
    {next : (Request.deleteInactiveGrant g.id).Value → Service (Unit × Journal.Extra)}
    {k : Unit → Service (Unit × Journal.Extra)}
    (hs : s.WellFiled) (hg : s.grants.find? g.id = some g) (ha : g.isActive = false)
    (hyes : ∃ extra, (next true).run = .done (.ok ((), extra)))
    (hno : next false = GrantAdministration.explainFailedDelete g.id >>= k)
    {t : Store} (hst : s.Later t) :
    Underway lifetimeDays c.clock (.delete g.id)
      (c.expand ((Service.request (.deleteInactiveGrant g.id) >>= next).run >>=
        Journal.conclude .grantDeleted (some c.actor.id) records)) t := by
  have hcount : g.id.value ≤ s.grantCount := hs.grant_le g.id g hg
  rw [Service.run_request_bind]
  refine underway_of_unwatched rfl fun u _ htu now => .inr ?_
  obtain ⟨hkept, hdelete⟩ | ⟨q, hq, hinactive, hdelete⟩ := u.deleteInactiveGrant_cases g.id
  · -- the grant was inactive when it was found, so it is gone by now
    have hu : u.grants.find? g.id = none := by
      cases hq : u.grants.find? g.id with
      | none => rfl
      | some q =>
          obtain ⟨g', hg', hfollows⟩ := (hst.trans htu).grants g.id q hcount hq
          rw [hg] at hg'
          cases hg'
          cases (hkept q hq).symm.trans (hfollows.inactive ha)
    have hanswer : u.answer now (.deleteInactiveGrant g.id) = (.ok false, u) := by
      rw [Store.answer, hdelete]
    rw [Commits, GrantService.atOnce_delete_of_absent hu, hanswer]
    refine ⟨rfl, fun _ => rfl, ?_⟩
    change Settled _ (c.expand ((next false).run >>= _)) u
    rw [hno]
    exact settled_explainFailedDelete c hu (Int.le_trans hcount (hst.trans htu).grantCount)
  · have hanswer : u.answer now (.deleteInactiveGrant g.id) =
        (.ok true, { u with grants := u.grants.erase g.id }) := by
      rw [Store.answer, hdelete]
    rw [Commits, GrantService.atOnce_delete_of_inactive hq hinactive, hanswer]
    refine ⟨rfl, fun hfailed => ?_, ?_⟩
    · cases hfailed
    · obtain ⟨extra, hextra⟩ := hyes
      change Settled _ (c.expand ((next true).run >>= _)) _
      rw [hextra]
      exact settled_conclude c rfl _

theorem begins_delete (c : Caller) (id : GrantId) :
    Begins lifetimeDays c.clock (.delete id) (c.program lifetimeDays (.delete id)) := by
  change Begins _ _ (.delete id) (c.expand (GrantAdministration.delete c.actor id).run)
  rw [GrantAdministration.delete, Service.run_requireAdmin_bind, if_pos c.isAllowed,
    Journal.run_audited, GrantAdministration.run_requireGrant_bind]
  intro s hs now
  cases hg : s.grants.find? id with
  | none =>
      refine .inr (commits_of_reads rfl (GrantService.atOnce_delete_of_absent hg) ?_)
      change Settled _ (c.expand ((Service.orRefuse _ (s.grants.find? id) >>= _).run >>= _)) s
      rw [Service.run_orRefuse_bind, hg]
      exact settled_conclude c rfl s
  | some g =>
      have hid : g.id = id := hs.grant_id id g hg
      subst hid
      cases ha : g.isActive with
      | true =>
          have hatOnce : GrantService.atOnce lifetimeDays c.clock s (.delete g.id) =
              (.error .deleteOfActiveGrant, s) := by
            simp only [GrantService.atOnce, hg, ha, if_true]
          refine .inr (commits_of_reads rfl hatOnce ?_)
          change Settled _ (c.expand ((Service.orRefuse _ (s.grants.find? g.id) >>= _).run >>= _)) s
          rw [Service.run_orRefuse_bind, hg, Option.elim_some, Service.run_ofOutcome_bind,
            Grant.ensureDeletable, ha]
          exact settled_conclude c rfl s
      | false =>
          refine .inl ⟨rfl, .of_unwatched rfl, ?_⟩
          change Underway _ _ _
            (c.expand ((Service.orRefuse _ (s.grants.find? g.id) >>= _).run >>= _)) s
          rw [Service.run_orRefuse_bind, hg, Option.elim_some, Service.run_ofOutcome_bind,
            Grant.ensureDeletable, ha, if_neg Bool.false_ne_true, Service.resume_ok,
            Service.run_nameOf_bind]
          refine underway_of_unwatched rfl fun t _ hst _ => .inl ⟨rfl, ?_⟩
          exact underway_deletion c hs hg ha ⟨_, rfl⟩ rfl hst

/-- A revocation whose grant is gone, and which is about to be made. -/
theorem settled_revocation {id : GrantId} {t : Instant} {maker : UserId}
    {next : (Request.forceRevokeGrant id t maker).Answer → Program α}
    (hnext : ∀ u, Settled (.error .invalidStateTransition) (next (.ok none)) u)
    (hs : s.grants.find? id = none) (hcount : id.value ≤ s.grantCount) :
    Settled (.error .invalidStateTransition) (.ask (.forceRevokeGrant id t maker) next) s := by
  intro u _ hsu now
  have hu : u.grants.find? id = none := hsu.absent hcount hs
  have hanswer : u.answer now (.forceRevokeGrant id t maker) = (.ok none, u) := by
    rw [Store.answer, Store.forceRevokeGrant, hu]
  rw [hanswer]
  exact ⟨rfl, fun _ => rfl, hnext u⟩

/-- A revocation that found its grant active and knows the name of the owner: the next request
decides. -/
theorem underway_revocation (c : Caller) {g : Grant} {records : Json} (hs : s.WellFiled)
    (hg : s.grants.find? g.id = some g) :
    Underway lifetimeDays c.clock (.update g.id true)
      (c.expand ((GrantAdministration.revokeActive c.actor g c.clock).run >>=
        Journal.conclude .grantForceRevoked (some c.actor.id) records)) s := by
  have hcount : g.id.value ≤ s.grantCount := hs.grant_le g.id g hg
  have hgone : ∀ t : Store, ¬ GrantService.Watches (.update g.id true) t →
      t.grants.find? g.id = none := by
    intro t ht
    by_contra hfound
    exact ht fun id hid => by cases hid; exact hfound
  rw [GrantAdministration.revokeActive, Service.run_nameOf_bind]
  refine ⟨fun t ht hst _ _ => .inl ⟨rfl, ?_⟩, fun t ht hst hlost => ?_⟩
  · change Underway _ _ _ (c.expand
      ((Service.request (.forceRevokeGrant g.id c.clock c.actor.id) >>= _).run >>= _)) t
    rw [Service.run_request_bind]
    refine ⟨fun u hu htu hwatches now => .inr ?_, fun u hu htu hlost => ?_⟩
    · obtain ⟨q, hq⟩ := Option.ne_none_iff_exists'.1 (hwatches g.id rfl)
      obtain ⟨g', hg', hfollows⟩ := (hst.trans htu).grants g.id q hcount hq
      rw [hg] at hg'
      cases hg'
      obtain ⟨hended, hrevoke⟩ | ⟨q', hq', hactive, hrevoke⟩ :=
        u.forceRevokeGrant_cases g.id c.clock
      · have hanswer : u.answer now (.forceRevokeGrant g.id c.clock c.actor.id) =
            (.ok none, u) := by
          rw [Store.answer, hrevoke]
        have hatOnce : GrantService.atOnce lifetimeDays c.clock u (.update g.id true) =
            (.error .invalidStateTransition, u) := by
          simp only [GrantService.atOnce, hq, if_neg (hended q hq)]
        rw [Commits, hatOnce, hanswer]
        exact ⟨rfl, fun _ => rfl, settled_conclude c rfl u⟩
      · rw [hq] at hq'
        cases hq'
        have hanswer : u.answer now (.forceRevokeGrant g.id c.clock c.actor.id) =
            (.ok (some (q.revoked c.clock)),
              { u with grants := u.grants.insert g.id (q.revoked c.clock) }) := by
          rw [Store.answer, hrevoke]
        have hname : t.nameOf g.userId = u.nameOf q.userId := by
          rw [Store.nameOf, Store.nameOf, htu.principals, hfollows.userId]
        have hatOnce : GrantService.atOnce lifetimeDays c.clock u (.update g.id true) =
            (.ok (GrantAdministration.view (q.revoked c.clock) (t.nameOf g.userId) c.clock),
              { u with grants := u.grants.insert g.id (q.revoked c.clock) }) := by
          simp only [GrantService.atOnce, hq, if_pos hactive, hname, if_true]
        rw [Commits, hatOnce, hanswer]
        refine ⟨rfl, fun hfailed => ?_, settled_conclude c rfl _⟩
        cases hfailed
    · exact settled_revocation (fun v => settled_conclude c rfl v) (hgone u hlost)
        (Int.le_trans hcount (hst.trans htu).grantCount)
  · refine settled_of_reads rfl fun u _ htu _ => ?_
    have hcount' : g.id.value ≤ t.grantCount := Int.le_trans hcount hst.grantCount
    exact settled_revocation (fun v => settled_conclude c rfl v)
      (htu.absent hcount' (hgone t hlost)) (Int.le_trans hcount' htu.grantCount)

theorem begins_update (c : Caller) (id : GrantId) (forceRevoke : Bool) :
    Begins lifetimeDays c.clock (.update id forceRevoke)
      (c.program lifetimeDays (.update id forceRevoke)) := by
  change Begins _ _ (.update id forceRevoke)
    (c.expand (GrantAdministration.update c.actor id forceRevoke).run)
  rw [GrantAdministration.update, Service.run_requireAdmin_bind, if_pos c.isAllowed,
    Journal.run_audited, GrantAdministration.run_requireGrant_bind]
  intro s hs now
  cases hg : s.grants.find? id with
  | none =>
      have hatOnce : GrantService.atOnce lifetimeDays c.clock s (.update id forceRevoke) =
          (.error .notFound, s) := by
        simp only [GrantService.atOnce, hg]
      refine .inr (commits_of_reads rfl hatOnce ?_)
      change Settled _ (c.expand ((Service.orRefuse _ (s.grants.find? id) >>= _).run >>= _)) s
      rw [Service.run_orRefuse_bind, hg]
      exact settled_conclude c rfl s
  | some g =>
      have hid : g.id = id := hs.grant_id id g hg
      subst hid
      by_cases hactive : g.status c.clock.date = .active
      · cases forceRevoke with
        | false =>
            have hatOnce : GrantService.atOnce lifetimeDays c.clock s (.update g.id false) =
                (.error .nothingChanged, s) := by
              simp only [GrantService.atOnce, hg, if_pos hactive, if_neg Bool.false_ne_true]
            refine .inr (commits_of_reads rfl hatOnce ?_)
            change Settled _
              (c.expand ((Service.orRefuse _ (s.grants.find? g.id) >>= _).run >>= _)) s
            rw [Service.run_orRefuse_bind, hg, Option.elim_some, Service.run_now_bind]
            change Settled _
              (c.expand ((Service.ofOutcome (g.ensureMutable c.clock) >>= _).run >>= _)) s
            rw [Service.run_ofOutcome_bind, Grant.ensureMutable, if_pos hactive]
            exact settled_conclude c rfl s
        | true =>
            refine .inl ⟨rfl, ?_, ?_⟩
            · rintro j hj
              cases hj
              rw [hg]
              intro h
              cases h
            · change Underway _ _ _
                (c.expand ((Service.orRefuse _ (s.grants.find? g.id) >>= _).run >>= _)) s
              rw [Service.run_orRefuse_bind, hg, Option.elim_some, Service.run_now_bind]
              change Underway _ _ _
                (c.expand ((Service.ofOutcome (g.ensureMutable c.clock) >>= _).run >>= _)) s
              rw [Service.run_ofOutcome_bind, Grant.ensureMutable, if_pos hactive]
              exact underway_revocation c hs hg
      · have hatOnce : GrantService.atOnce lifetimeDays c.clock s (.update g.id forceRevoke) =
            (.error .invalidStateTransition, s) := by
          simp only [GrantService.atOnce, hg, if_neg hactive]
        refine .inr (commits_of_reads rfl hatOnce ?_)
        change Settled _ (c.expand ((Service.orRefuse _ (s.grants.find? g.id) >>= _).run >>= _)) s
        rw [Service.run_orRefuse_bind, hg, Option.elim_some, Service.run_now_bind]
        change Settled _
          (c.expand ((Service.ofOutcome (g.ensureMutable c.clock) >>= _).run >>= _)) s
        rw [Service.run_ofOutcome_bind, Grant.ensureMutable, if_neg hactive]
        exact settled_conclude c rfl s

/-- A creation whose draft is acceptable: the capabilities are looked up, and then the store
decides. -/
theorem underway_creation (c : Caller) {i : GrantAdministration.CreateInput} {p : Principal}
    {d : Grant.Draft} {records : Json}
    {next : (Request.createGrant d c.actor.id).Value →
      Service (GrantAdministration.View × Journal.Extra)}
    (hp : s.principals.find? i.userId = some p) (hactive : p.active = true)
    (hdraft : Grant.Draft.make p.id (i.applyDate.getD c.clock.date) i.expireDate i.capabilityIds
      lifetimeDays = .ok d)
    (hnext : ∀ g : Grant, ∃ extra, (next g).run =
      .done (.ok (GrantAdministration.view g p.displayName c.clock, extra))) :
    Underway lifetimeDays c.clock (.create i)
      (c.expand ((GrantAdministration.ensureGrantable d.capabilityIds.toList >>= fun _ =>
        Service.request (.createGrant d c.actor.id) >>= next).run >>=
          Journal.conclude .grantCreated (some c.actor.id) records)) s := by
  rw [GrantAdministration.run_ensureGrantable_bind]
  refine underway_of_unwatched rfl fun t _ hst _ => ?_
  by_cases hgrantable : (GrantAdministration.missing d.capabilityIds.toList
    (t.findGrantable d.capabilityIds.toList)).isEmpty = true
  · refine .inl ⟨rfl, ?_⟩
    change Underway _ _ _ (c.expand (((if (GrantAdministration.missing d.capabilityIds.toList
      (t.findGrantable d.capabilityIds.toList)).isEmpty then pure () else _ : Service Unit) >>=
        _).run >>= _)) t
    rw [if_pos hgrantable, pure_bind, Service.run_request_bind]
    refine underway_of_unwatched rfl fun u _ htu now => .inr ?_
    -- nobody changes capabilities, so what was found is still there
    have hsame : u.findGrantable d.capabilityIds.toList =
        t.findGrantable d.capabilityIds.toList := by
      rw [Store.findGrantable, Store.findGrantable, htu.capabilities]
    have hpu : u.principals.find? i.userId = some p := by
      rw [(hst.trans htu).principals, hp]
    rcases hcreate : u.createGrant d with ⟨o, v⟩
    have hanswer : u.answer now (.createGrant d c.actor.id) = (o, v) := hcreate
    rw [Commits, hanswer,
      GrantService.atOnce_create hpu hactive hdraft (hsame ▸ hgrantable) hcreate]
    cases o with
    | error e => exact ⟨rfl, trivial, settled_conclude c rfl v⟩
    | ok g =>
        obtain ⟨extra, hextra⟩ := hnext g
        refine ⟨rfl, trivial, ?_⟩
        change Settled _ (c.expand ((next g).run >>= _)) v
        rw [hextra]
        exact settled_conclude c rfl v
  · have hpt : t.principals.find? i.userId = some p := by
      rw [hst.principals, hp]
    refine .inr (commits_of_reads rfl
      (GrantService.atOnce_create_of_missing hpt hactive hdraft hgrantable) ?_)
    change Settled _ (c.expand (((if (GrantAdministration.missing d.capabilityIds.toList
      (t.findGrantable d.capabilityIds.toList)).isEmpty then pure () else _ : Service Unit) >>=
        _).run >>= _)) t
    rw [if_neg hgrantable, Service.run_refuse_bind]
    exact settled_conclude c rfl t

theorem begins_create (c : Caller) (i : GrantAdministration.CreateInput) :
    Begins lifetimeDays c.clock (.create i) (c.program lifetimeDays (.create i)) := by
  change Begins _ _ (.create i) (c.expand (GrantAdministration.create lifetimeDays c.actor i).run)
  rw [GrantAdministration.create, Service.run_requireAdmin_bind, if_pos c.isAllowed,
    Journal.run_audited, Service.run_requirePrincipal_bind]
  intro s hs now
  cases hp : s.principals.find? i.userId with
  | none =>
      have hatOnce : GrantService.atOnce lifetimeDays c.clock s (.create i) =
          (.error .notFound, s) := by
        simp only [GrantService.atOnce, hp]
      refine .inr (commits_of_reads rfl hatOnce ?_)
      change Settled _
        (c.expand ((Service.orRefuse _ (s.principals.find? i.userId) >>= _).run >>= _)) s
      rw [Service.run_orRefuse_bind, hp]
      exact settled_conclude c rfl s
  | some p =>
      cases hactive : p.active with
      | false =>
          have hatOnce : GrantService.atOnce lifetimeDays c.clock s (.create i) =
              (.error .validation, s) := by
            simp only [GrantService.atOnce, hp, hactive, Bool.not_false, if_true]
          refine .inr (commits_of_reads rfl hatOnce ?_)
          change Settled _
            (c.expand ((Service.orRefuse _ (s.principals.find? i.userId) >>= _).run >>= _)) s
          rw [Service.run_orRefuse_bind, hp, Option.elim_some, hactive]
          exact settled_conclude c rfl s
      | true =>
          cases hdraft : Grant.Draft.make p.id (i.applyDate.getD c.clock.date) i.expireDate
            i.capabilityIds lifetimeDays with
          | error e =>
              have hatOnce : GrantService.atOnce lifetimeDays c.clock s (.create i) =
                  (.error e.error.kind, s) := by
                simp only [GrantService.atOnce, hp, hactive, hdraft, Bool.not_true,
                  if_neg Bool.false_ne_true]
              refine .inr (commits_of_reads rfl hatOnce ?_)
              change Settled _
                (c.expand ((Service.orRefuse _ (s.principals.find? i.userId) >>= _).run >>= _)) s
              rw [Service.run_orRefuse_bind, hp, Option.elim_some, hactive]
              change Settled _ (c.expand ((Service.now >>= _).run >>= _)) s
              rw [Service.run_now_bind]
              change Settled _ (c.expand ((Service.ofOutcome ((Grant.Draft.make p.id
                (i.applyDate.getD c.clock.date) i.expireDate i.capabilityIds lifetimeDays).mapError
                  Grant.Draft.Refusal.error) >>= _).run >>= _)) s
              rw [Service.run_ofOutcome_bind, hdraft]
              exact settled_conclude c rfl s
          | ok d =>
              refine .inl ⟨rfl, .of_unwatched rfl, ?_⟩
              change Underway _ _ _
                (c.expand ((Service.orRefuse _ (s.principals.find? i.userId) >>= _).run >>= _)) s
              rw [Service.run_orRefuse_bind, hp, Option.elim_some, hactive]
              change Underway _ _ _ (c.expand ((Service.now >>= _).run >>= _)) s
              rw [Service.run_now_bind]
              change Underway _ _ _ (c.expand ((Service.ofOutcome ((Grant.Draft.make p.id
                (i.applyDate.getD c.clock.date) i.expireDate i.capabilityIds lifetimeDays).mapError
                  Grant.Draft.Refusal.error) >>= _).run >>= _)) s
              rw [Service.run_ofOutcome_bind, hdraft]
              exact underway_creation c hp hactive hdraft fun g => ⟨_, rfl⟩

end Services

/-- **Every call of a grant service begins so**: its first request is where it takes effect, or it
is underway from then on. -/
theorem Caller.begins (lifetimeDays : Nat) (c : Caller) (g : GrantService) :
    Begins lifetimeDays c.clock g (c.program lifetimeDays g) := by
  cases g with
  | create i => exact begins_create c i
  | update id forceRevoke => exact begins_update c id forceRevoke
  | delete id => exact begins_delete c id
  | sweep => exact begins_sweep c
  | get id => exact begins_get c id

/-- **A call that nothing comes between does at once what it does**, the audit log and the wording
of errors excepted. -/
theorem Caller.alone_eq_atOnce {lifetimeDays : Nat} {wall : Instant} (c : Caller) {g : GrantService}
    {s : Store} (hs : s.WellFiled) :
    Outcome.ending (c.alone lifetimeDays wall g s).1 = (g.atOnce lifetimeDays c.clock s).1 ∧
      (c.alone lifetimeDays wall g s).2.withoutLog =
        (g.atOnce lifetimeDays c.clock s).2.withoutLog := by
  have hbegins := c.begins lifetimeDays g
  rw [Caller.alone]
  cases hd : c.program lifetimeDays g with
  | done v =>
      rw [hd] at hbegins
      exact hbegins.elim
  | ask r next =>
      rw [hd] at hbegins
      obtain ⟨hreads, hwatches, hnext⟩ | hcommits := hbegins s hs wall
      · rw [Dialogue.run_ask, Store.answer_of_reads hreads]
        exact hnext.run hs hwatches
      · exact hcommits.run hs

end TableAccess
