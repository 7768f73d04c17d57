/-
**Administrators only.**

Every operation of administration begins with a look at its actor.  Who is not an active
administrator is refused before anything is asked for: no store, no clock and no source of keys is
called, so the refusal is the same whoever would have answered, and nothing is written anywhere.
An administrator is never refused in this way.  The gate before the administration asks for just as
much, so whoever passes it is no stranger to the operations behind it.

Main definitions:

* `Principal.Administers` — who is an administrator;
* `Dialogue.EndsAtOnce` — a dialogue ends before anything is asked;
* `Dialogue.BeginsByAsking` — a dialogue does not.

Main results:

* `requireAdmin_eq_pure_iff`, `Gate.judge_administration_iff` — the two checks ask for the same;
* `Operation.endsAtOnce_of_not_administers` — others are refused at once;
* `Operation.beginsByAsking_of_administers` — administrators are not;
* `Http.Guard.administers_of_check` — who passes the gate to the administration is an administrator;
* `Operation.administrators_only` — all of it.
-/
import TableAccess.Proofs.Clearance
import TableAccess.Proofs.Dialogues
import TableAccess.Proofs.Mediation
import TableAccess.Proofs.Transcripts

set_option relaxedAutoImplicit false
set_option autoImplicit false

namespace TableAccess

/-! ### Administrators -/

/-- An administrator is active and has the administrative role, spelled just so. -/
def Principal.Administers (p : Principal) : Prop := p.active = true ∧ "Admin" ∈ p.roles.toList

theorem Principal.isAdmin_iff {p : Principal} : p.isAdmin = true ↔ "Admin" ∈ p.roles.toList :=
  List.contains_iff_mem

theorem Principal.administers_iff {p : Principal} :
    p.Administers ↔ (p.active && p.isAdmin) = true := by
  rw [Bool.and_eq_true, p.isAdmin_iff]
  rfl

/-- **The operations let an administrator go on**, and nobody else. -/
theorem requireAdmin_eq_pure_iff {p : Principal} : requireAdmin p = pure () ↔ p.Administers := by
  rw [p.administers_iff]
  constructor
  · intro h
    refine Classical.byContradiction fun hp => ?_
    rw [requireAdmin, if_neg hp] at h
    cases h
  · intro hp
    exact if_pos hp

/-- **The gate before the administration lets an administrator pass**, and nobody else. -/
theorem Gate.judge_administration_iff {request : Json} {token : String}
    {o : Outcome (Option KeyedPrincipal)} {p : Principal} :
    Gate.judge request true token o = .ok p ↔
      (∃ record, o = .ok (some ⟨record, some p⟩)) ∧ p.Administers := by
  rw [Http.Guard.judge_eq_ok_iff]
  constructor
  · rintro ⟨record, rfl, hactive, hadmin⟩
    exact ⟨⟨record, rfl⟩, hactive, p.isAdmin_iff.1 (hadmin rfl)⟩
  · rintro ⟨⟨record, rfl⟩, hactive, hrole⟩
    exact ⟨record, rfl, hactive, fun _ => p.isAdmin_iff.2 hrole⟩

/-! ### Before the first question -/

namespace Dialogue

variable {Q : Type} {A : Q → Type} {α β : Type}

/-- A dialogue ends with a value before anything is asked: whoever would answer, and from whatever
state, no turn is taken and the state stays as it is. -/
def EndsAtOnce (d : Dialogue Q A α) (a : α) : Prop :=
  ∀ (σ : Type) (h : Handler Q A σ) (s : σ), d.turns h s = [] ∧ d.run h s = (a, s)

theorem endsAtOnce_done (a : α) : (.done a : Dialogue Q A α).EndsAtOnce a :=
  fun _ _ _ => ⟨rfl, rfl⟩

/-- A dialogue asks something before it ends. -/
def BeginsByAsking : Dialogue Q A α → Prop
  | .done _ => False
  | .ask .. => True

/-- If something is asked after a part in any case, the part does not matter. -/
theorem beginsByAsking_bind (d : Dialogue Q A β) {f : β → Dialogue Q A α}
    (hf : ∀ b, (f b).BeginsByAsking) : (d >>= f).BeginsByAsking := by
  cases d with
  | done b => exact hf b
  | ask q next => trivial

end Dialogue

theorem Journal.beginsByAsking_audited {α : Type} (action : AuditAction) (actor : Option UserId)
    (records : Json) (body : Service (α × Journal.Extra)) :
    (Journal.audited action actor records body).run.BeginsByAsking := by
  rw [Journal.run_audited]
  exact Dialogue.beginsByAsking_bind _ fun _ => trivial

/-! ### The operations -/

namespace Operation

variable {actor : Principal}

/-- **An operation is a check of its actor, and then something is asked.** -/
theorem service_eq_guarded (op : Operation) (lifetimeDays : Nat) (actor : Principal) :
    ∃ rest : Service op.Value,
      op.service lifetimeDays actor = (requireAdmin actor >>= fun _ => rest) ∧
        rest.run.BeginsByAsking := by
  cases op with
  | listKeys => exact ⟨_, rfl, trivial⟩
  | listKeyCandidates => exact ⟨_, rfl, trivial⟩
  | previewKey => exact ⟨_, rfl, trivial⟩
  | issueKey user token => exact ⟨_, rfl, Journal.beginsByAsking_audited ..⟩
  | rotateKey user token => exact ⟨_, rfl, Journal.beginsByAsking_audited ..⟩
  | revokeKey user => exact ⟨_, rfl, Journal.beginsByAsking_audited ..⟩
  | listGrantable => exact ⟨_, rfl, trivial⟩
  | listGrants query => exact ⟨_, rfl, trivial⟩
  | getGrant grant => exact ⟨_, rfl, trivial⟩
  | createGrant input => exact ⟨_, rfl, Journal.beginsByAsking_audited ..⟩
  | updateGrant grant forceRevoke => exact ⟨_, rfl, Journal.beginsByAsking_audited ..⟩
  | deleteGrant grant => exact ⟨_, rfl, Journal.beginsByAsking_audited ..⟩
  | sweepGrants => exact ⟨_, rfl, trivial⟩
  | readAudit query => exact ⟨_, rfl, trivial⟩

theorem endsAtOnce_of_not_administers (op : Operation) (lifetimeDays : Nat)
    (hactor : ¬ actor.Administers) :
    (op.service lifetimeDays actor).run.EndsAtOnce (.error (notAdmin actor)) := by
  obtain ⟨rest, hservice, -⟩ := op.service_eq_guarded lifetimeDays actor
  rw [hservice, Service.run_requireAdmin_bind,
    if_neg fun hadmin => hactor (actor.administers_iff.2 hadmin)]
  exact Dialogue.endsAtOnce_done _

theorem beginsByAsking_of_administers (op : Operation) (lifetimeDays : Nat)
    (hactor : actor.Administers) : (op.service lifetimeDays actor).run.BeginsByAsking := by
  obtain ⟨rest, hservice, hrest⟩ := op.service_eq_guarded lifetimeDays actor
  rw [hservice, Service.run_requireAdmin_bind, if_pos (actor.administers_iff.1 hactor)]
  exact hrest

end Operation

/-! ### The gate before the administration -/

/-- Any answers may be given. -/
def Dialogue.anyAnswer {Q : Type} {A : Q → Type} {σ : Type} : Dialogue.Answers Q A σ :=
  fun _ _ _ _ => True

namespace Gate

variable {σ : Type}

/-- Whatever is answered at the gate to the administration, only an administrator passes. -/
theorem ensures_authenticate (r : GateRequest) (s : σ) :
    (authenticate r true).Ensures Dialogue.anyAnswer
      (fun verdict _ => ∀ p, verdict = .ok p → p.Administers) s := by
  unfold authenticate
  split
  · intro p hp
    cases hp
  · intro o _ _ p hp
    exact (judge_administration_iff.1 hp).2

end Gate

namespace Http.Guard

variable {σ : Type}

theorem ensures_check (m : Message) (s : σ) :
    (check true m).Ensures Dialogue.anyAnswer
      (fun verdict _ => ∀ p, verdict = .ok p → p.Administers) s := by
  unfold check
  split
  · intro p hp
    cases hp
  · next r _ =>
      refine Dialogue.ensures_bind.2 ((Gate.ensures_authenticate r s).mono fun verdict s' h => ?_)
      cases verdict with
      | ok p =>
          intro q hq
          cases hq
          exact h p rfl
      | error e =>
          -- the response to a failure is no principal, whether it was recorded or not
          cases e with
          | rejected rejection =>
              intro _ _ _ q hq
              cases hq
          | store e =>
              intro q hq
              cases hq

/-- **Who passes the gate to the administration is an administrator**, whatever the store says. -/
theorem administers_of_check (h : Dialogue.Handler Call Call.Reply σ) (s : σ) {m : Message}
    {p : Principal} (hpass : ((check true m).run h s).1 = .ok p) : p.Administers :=
  (ensures_check m s).run (fun _ _ => trivial) p hpass

end Http.Guard

/-! ### All together -/

namespace Operation

/-- **Administrators only.**  Who is not an active administrator is refused by every operation
before anything is asked for: whoever would have answered, from whatever state, there is no turn,
the error is the same, and the state stays.  An administrator is not refused, and something is asked
for.  Whoever passes the gate to the administration, with whatever answers, passes the check of the
operations too. -/
theorem administrators_only (lifetimeDays : Nat) (actor : Principal) :
    (¬ actor.Administers →
      (notAdmin actor).kind = .forbidden ∧
      (∀ op : Operation,
        (op.service lifetimeDays actor).run.EndsAtOnce (.error (notAdmin actor))) ∧
      ∀ grant, (GrantAdministration.forceRevoke actor grant).run.EndsAtOnce
        (.error (notAdmin actor))) ∧
    (actor.Administers →
      requireAdmin actor = pure () ∧
      (∀ op : Operation, (op.service lifetimeDays actor).run.BeginsByAsking) ∧
      ∀ grant, (GrantAdministration.forceRevoke actor grant).run.BeginsByAsking) ∧
    ∀ (σ : Type) (h : Dialogue.Handler Call Call.Reply σ) (s : σ),
      (∀ r, ((Gate.authenticate r true).run h s).1 = .ok actor → actor.Administers) ∧
      ∀ m, ((Http.Guard.check true m).run h s).1 = .ok actor → actor.Administers := by
  refine ⟨fun hactor => ⟨rfl, fun op => ?_, fun grant => ?_⟩,
    fun hactor => ⟨requireAdmin_eq_pure_iff.2 hactor, fun op => ?_, fun grant => ?_⟩,
    fun σ h s => ⟨fun r hpass => ?_, fun m hpass => ?_⟩⟩
  · exact op.endsAtOnce_of_not_administers lifetimeDays hactor
  · exact (Operation.updateGrant grant true).endsAtOnce_of_not_administers lifetimeDays hactor
  · exact op.beginsByAsking_of_administers lifetimeDays hactor
  · exact (Operation.updateGrant grant true).beginsByAsking_of_administers lifetimeDays hactor
  · exact (Gate.ensures_authenticate r s).run (fun _ _ => trivial) actor hpass
  · exact Http.Guard.administers_of_check h s hpass

/-- Somebody whose roles are spelled in other ways. -/
def almostAdmin : Principal := { Principal.root with roles := .ofList ["admin", "Admin "] }

/-- Somebody who was an administrator. -/
def formerAdmin : Principal := { Principal.root with active := false }

theorem administrators_only_names :
    (¬ almostAdmin.Administers ∧ ¬ formerAdmin.Administers ∧ Principal.root.Administers) ∧
    (Operation.service 183 almostAdmin .sweepGrants).run.EndsAtOnce
      (.error (notAdmin almostAdmin)) ∧
    (GrantAdministration.forceRevoke formerAdmin ⟨7⟩).run.EndsAtOnce
      (.error (notAdmin formerAdmin)) ∧
    (Operation.service 183 .root .sweepGrants).run.BeginsByAsking ∧
    ((Gate.authenticate ⟨some "alpha", .obj []⟩ true).run World.reply Http.Router.soleKey).1 =
      .ok .root ∧
    ((Http.Guard.check true Http.Router.revokeSoleKey).run World.reply Http.Router.soleKey).1 =
      .ok .root := by
  have halmost : ¬ almostAdmin.Administers := by
    rintro ⟨-, hrole⟩
    exact absurd hrole (by decide)
  have hformer : ¬ formerAdmin.Administers := by
    rintro ⟨hactive, -⟩
    cases hactive
  have hpass : ((Http.Guard.check true Http.Router.revokeSoleKey).run World.reply
      Http.Router.soleKey).1 = .ok .root := rfl
  have hroot := ((administrators_only 183 .root).2.2 _ _ _).2 _ hpass
  obtain ⟨-, hsweep, -⟩ := (administrators_only 183 almostAdmin).1 halmost
  obtain ⟨-, -, hrevoke⟩ := (administrators_only 183 formerAdmin).1 hformer
  obtain ⟨-, hsome, -⟩ := (administrators_only 183 .root).2.1 hroot
  exact ⟨⟨halmost, hformer, hroot⟩, hsweep _, hrevoke _, hsome _, rfl, hpass⟩

end Operation

end TableAccess
