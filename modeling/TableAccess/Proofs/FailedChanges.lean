/-
**What a failed change leaves behind.**

A request that makes a change and is answered with an error should have left nothing behind.
Changes that are cut short do not keep to this.  A key may be given, replaced or removed although
the row that says so cannot be read; and a grant may be revoked although its capabilities cannot be
read, so that the update of a grant, which ends with the error of the revocation and records it as
failed, has revoked the grant all the same.

Main definitions:

* `FailsClean` — after a failure, a revocation that stays was cut short.

Main results:

* `ensures_failsClean_update` — an update that fails has revoked nothing, unless the revocation was
  cut short;
* `failed_change_keeps_iff` — when exactly a request that fails has left something behind;
* `revocation_outlives_failure` — that this does happen.
-/
import TableAccess.Proofs.DatabaseCalls
import TableAccess.Proofs.KeptChanges
import TableAccess.Proofs.Operations

set_option relaxedAutoImplicit false
set_option autoImplicit false

namespace TableAccess

namespace Database

variable {ts : List Turn}

/-! ### Operations that fail -/

/-- A revocation that stays was cut short. -/
def StaysOnlyCutShort (ts : List Turn) : Prop :=
  ∀ id revokedAt revokedBy, .forceRevokeGrant id revokedAt revokedBy ∈ kept ts →
    CutShort (.forceRevokeGrant id revokedAt revokedBy) ts

theorem staysOnlyCutShort_of_kept (h : kept ts = []) : StaysOnlyCutShort ts := by
  intro id revokedAt revokedBy hmem
  rw [h] at hmem
  cases hmem

theorem CutShort.staysOnlyCutShort {id : GrantId} {revokedAt : Instant} {revokedBy : UserId}
    (h : CutShort (.forceRevokeGrant id revokedAt revokedBy) ts) : StaysOnlyCutShort ts := by
  intro id' revokedAt' revokedBy' hmem
  rw [h.kept_eq rfl] at hmem
  cases List.mem_singleton.1 hmem
  exact h

/-- After an operation that failed, a revocation that stays was cut short. -/
def FailsClean {β : Type} (o : Outcome β) (tss : List (List Turn)) : Prop :=
  (∃ e, o = .error e) → ∀ ts ∈ tss, StaysOnlyCutShort ts

namespace FailsClean

variable {β : Type} {tss : List (List Turn)}

theorem snoc (htss : ∀ ts ∈ tss, StaysOnlyCutShort ts) (hts : StaysOnlyCutShort ts) :
    ∀ ts' ∈ tss ++ [ts], StaysOnlyCutShort ts' := by
  intro ts' h
  rcases List.mem_append.1 h with h | h
  · exact htss ts' h
  · rw [List.mem_singleton.1 h]
    exact hts

/-- A request that leaves no revocation, in a sequence that a failure ends. -/
theorem ensures_resume {r : Request} {k : r.Value → Service β}
    (htss : ∀ ts ∈ tss, StaysOnlyCutShort ts)
    (hr : ∀ ts o, (answer r).Held ts o → kept ts = [])
    (hk : ∀ v tss, (∀ ts ∈ tss, StaysOnlyCutShort ts) →
      (k v).run.Ensures overDatabase FailsClean tss) :
    (Dialogue.ask (.store r) (Service.resume k) : Calls (Outcome β)).Ensures overDatabase
      FailsClean tss := by
  rw [ensures_store]
  intro ts o hts
  have hall := snoc htss (staysOnlyCutShort_of_kept (hr ts o hts))
  cases o with
  | error e => exact fun _ => hall
  | ok v => exact hk v _ hall

theorem ensures_audited {action : AuditAction} {actor : Option UserId} {records : Json}
    {body : Service (β × Journal.Extra)}
    (h : body.run.Ensures overDatabase FailsClean tss) :
    (Journal.audited action actor records body).run.Ensures overDatabase FailsClean tss := by
  rw [Journal.run_audited, Dialogue.ensures_bind]
  refine h.mono fun o tss ho => ?_
  rintro ms _ rfl
  rw [ensures_store]
  rintro ts a hts ⟨e, he⟩
  cases o with
  | ok v => cases he
  | error e' =>
      refine snoc (ho ⟨e', rfl⟩) fun id revokedAt revokedBy hmem => ?_
      obtain ⟨f, rfl, -⟩ | ⟨f | r, rfl, -⟩ := Attempt.held_single.1 hts
      · cases hmem
      · cases hmem
      · simp [kept, keptFrom, keptIn, pendingAfter, Statement.acknowledged] at hmem

end FailsClean

theorem kept_of_findPrincipal {u : UserId} {o : Outcome (Option Principal)}
    (h : (answer (.findPrincipal u)).Held ts o) : kept ts = [] := by
  cases Attempt.held_firstRow.1 h <;> rfl

theorem kept_of_findGrant {id : GrantId} {o : Outcome (Option Grant)}
    (h : (answer (.findGrant id)).Held ts o) : kept ts = [] := by
  obtain ⟨_, hrow, -⟩ | ⟨g, ts₁, ts₂, rfl, hrow, hgrant⟩ := Attempt.held_bind.1 h
  · cases Attempt.held_firstRow.1 hrow <;> rfl
  · cases Attempt.held_firstRow.1 hrow with
    | absent _ =>
        obtain ⟨rfl, -⟩ := hgrant
        rfl
    | found _ =>
        obtain ⟨f, rfl, -⟩ | ⟨reply, rfl, -⟩ := held_completed.1 hgrant
        · rfl
        · cases reply <;> rfl

variable {actor : Principal} {tss : List (List Turn)}

open FailsClean in
/-- The revocation itself is the only request of an update that may leave something behind. -/
theorem ensures_failsClean_revokeActive {g : Grant} {now : Instant}
    (htss : ∀ ts ∈ tss, StaysOnlyCutShort ts) :
    (GrantAdministration.revokeActive actor g now).run.Ensures overDatabase FailsClean tss := by
  rw [GrantAdministration.revokeActive, Service.run_nameOf_bind]
  refine ensures_resume htss (fun _ _ => kept_of_findPrincipal)
    fun (owner : Option Principal) tss htss => ?_
  rw [Service.run_request_bind, ensures_store]
  intro ts o hts
  have hstays : (∃ g, o = .ok (some g)) ∨ StaysOnlyCutShort ts := by
    obtain hrevoked | hkept | hcut := kept_of_forceRevokeGrant hts
    · exact .inl hrevoked
    · exact .inr (staysOnlyCutShort_of_kept hkept)
    · exact .inr hcut.staysOnlyCutShort
  obtain ⟨revoked, rfl⟩ | hstays := hstays
  · -- what was revoked is the answer, and nothing fails from here on
    rintro ⟨e, he⟩
    cases he
  · have hall := snoc htss hstays
    rcases o with e | (_ | revoked) <;> exact fun _ => hall

open FailsClean in
/-- **An update that fails has not revoked the grant, unless the revocation was cut short.** -/
theorem ensures_failsClean_update (actor : Principal) (id : GrantId) (forceRevoke : Bool) :
    (GrantAdministration.update actor id forceRevoke).run.Ensures overDatabase FailsClean [] := by
  have hnone : ∀ ts ∈ ([] : List (List Turn)), StaysOnlyCutShort ts := by simp
  rw [GrantAdministration.update, Service.run_requireAdmin_bind]
  split
  · refine ensures_audited ?_
    rw [GrantAdministration.run_requireGrant_bind]
    refine ensures_resume hnone (fun _ _ => kept_of_findGrant)
      fun (found : Option Grant) tss htss => ?_
    rw [Service.run_orRefuse_bind]
    cases found with
    | none => exact fun _ => htss
    | some g =>
        rw [Option.elim_some, Service.run_now_bind, ensures_now]
        intro now
        rw [Service.run_ofOutcome_bind]
        cases g.ensureMutable now with
        | error e => exact fun _ => htss
        | ok _ =>
            cases forceRevoke with
            | false => exact fun _ => htss
            | true => exact ensures_failsClean_revokeActive htss
  · exact fun _ => hnone

/-! ### What is left behind -/

/-- **A change that fails has left something behind just if it was cut short.**  The rows of keys
hold keys that would be accepted; other values in them may be missing, null or of another type.  An
update that fails has not revoked the grant, unless the revocation was cut short. -/
theorem failed_change_keeps_iff {r : Request} (hr : r.isChange = true) {ts : List Turn}
    (hrows : KeyRowsHold ts) :
    ((∃ e, (answer r).Held ts (.error e)) ∧ kept ts ≠ [] ↔ CutShort r ts) ∧
    ∀ actor id forceRevoke,
      (GrantAdministration.update actor id forceRevoke).run.Ensures overDatabase FailsClean [] := by
  refine ⟨⟨?_, ?_⟩, ensures_failsClean_update⟩
  · rintro ⟨⟨e, h⟩, hkept⟩
    exact (kept_of_held_error hr hrows h).resolve_left hkept
  · exact fun hcut => ⟨hcut.held, hcut.kept_ne_nil⟩

/-- A grant as a row, before and after its revocation. -/
def grantRow (isActive : Bool) (forceTerminateAt : Cell) : Row :=
  [("grant_id", .integer 1), ("user_id", .integer 2), ("apply_date", .date Instant.year1970.date),
    ("expire_date", .date Instant.year1970.date), ("force_terminate_at", forceTerminateAt),
    ("is_active", .boolean isActive)]

/-- The replies to a revocation whose connection is lost before the capabilities are read. -/
def lostReplies : List Prepared :=
  [.statement (.ok (.ofRows [grantRow false (.instant .year1970)])) false,
    .statement (.error (.server "connection reset" "")) false]

def lostTurns : List Turn :=
  (answer (.forceRevokeGrant ⟨1⟩ .year1970 ⟨1⟩)).turns Playback.reply
    (Playback.ready.prepare lostReplies)

theorem cutShort_lostTurns : CutShort (.forceRevokeGrant ⟨1⟩ .year1970 ⟨1⟩) lostTurns :=
  .unloaded (rfl : readGrant (grantRow false (.instant .year1970)) = .ok _) rfl

/-- The row of a key that would be accepted, without the time at which it was created. -/
def undatedKeyRow : Row :=
  [("user_id", .integer 1), ("access_key", .text "alpha"), ("created_at", .null),
    ("changed_at", .instant .year1970), ("changed_by", .null)]

def undatedTurns : List Turn :=
  [⟨.acquire, .ok ()⟩, ⟨.execute (.deleteKey ⟨1⟩), .ok ⟨[undatedKeyRow], 1⟩⟩]

/-- A revocation that loses its connection, and the removal of a key without a date. -/
theorem failed_change_keeps_iff_lostTurns :
    ((Request.forceRevokeGrant ⟨1⟩ .year1970 ⟨1⟩).isChange = true ∧ KeyRowsHold lostTurns ∧
      (∃ e, (answer (.forceRevokeGrant ⟨1⟩ .year1970 ⟨1⟩)).Held lostTurns (.error e)) ∧
      kept lostTurns ≠ []) ∧
    (Request.deleteKey ⟨1⟩).isChange = true ∧ KeyRowsHold undatedTurns ∧
      (∃ e, (answer (.deleteKey ⟨1⟩)).Held undatedTurns (.error e)) ∧ kept undatedTurns ≠ [] := by
  have hrevoked := cutShort_lostTurns.keyRowsHold
  have hremoved : KeyRowsHold undatedTurns := by
    intro s r hmem _ row hrow
    obtain ⟨-, rfl⟩ : s = .deleteKey ⟨1⟩ ∧ r = ⟨[undatedKeyRow], 1⟩ := by
      simpa [undatedTurns] using hmem
    obtain rfl := List.mem_singleton.1 hrow
    exact ⟨"alpha", _, ⟨.text "alpha", rfl, .value rfl⟩, rfl⟩
  have hcut : CutShort (.deleteKey ⟨1⟩) undatedTurns := .keyUnread rfl rfl rfl
  exact ⟨⟨rfl, hrevoked, (failed_change_keeps_iff rfl hrevoked).1.2 cutShort_lostTurns⟩,
    rfl, hremoved, (failed_change_keeps_iff rfl hremoved).1.2 hcut⟩

/-- A site where the grant is found, is revoked, and is lost then. -/
def lostAfterRevocation : Site where
  playback := Playback.ready.prepare ([.statement (.ok (.ofRows [grantRow true .null])) false,
    .statement (.ok .nothing) false, .statement (.ok .nothing) false] ++ lostReplies)
  clock := .year1970
  drawn := 0
  random := id

/-- A revocation may stay although it is answered as failed, and so does the update of a grant. -/
theorem revocation_outlives_failure :
    ¬ (∀ r ts e, r.isChange = true → KeyRowsHold ts → (answer r).Held ts (.error e) →
      kept ts = []) ∧
    ¬ (∀ actor id forceRevoke, (GrantAdministration.update actor id forceRevoke).run.Ensures
      overDatabase (fun o tss => (∃ e, o = .error e) → ∀ ts ∈ tss, ∀ g t u,
        .forceRevokeGrant g t u ∉ kept ts) []) := by
  refine ⟨fun h => ?_, fun h => ?_⟩
  · obtain ⟨e, he⟩ := cutShort_lostTurns.held
    have hkept := h (.forceRevokeGrant ⟨1⟩ .year1970 ⟨1⟩) lostTurns e rfl
      cutShort_lostTurns.keyRowsHold he
    rw [cutShort_lostTurns.kept_eq rfl] at hkept
    cases hkept
  · have hrun := (h .root ⟨1⟩ true).run_map Prod.snd Site.overDatabase_record
      (t := (lostAfterRevocation, []))
    refine hrun ⟨_, rfl⟩ lostTurns ?_ ⟨1⟩ .year1970 ⟨1⟩ ?_
    · change lostTurns ∈ [_, _, lostTurns, _]
      exact List.mem_cons_of_mem _ (List.mem_cons_of_mem _ (List.mem_cons_self ..))
    · rw [cutShort_lostTurns.kept_eq rfl]
      exact List.mem_singleton_self _

end Database

end TableAccess
