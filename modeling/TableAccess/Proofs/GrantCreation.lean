/-
**The creation of a grant is one transaction.**

A grant is stored together with the links to its capabilities, and read back, in one transaction.
Each command is sent when all before it have succeeded; the first that fails is the last one, but
for the end of the transaction, which is given up then.  So a grant without its links is never left
behind, and what is answered is the stored row with just the capabilities that are linked to it.

Main definitions:

* `linkedTo` — the capabilities in the rows that name a grant;
* `creationPlan` — the commands of a creation, in order;
* `Succeeds` — a turn did what it was for;
* `StepsEnd`, `CreationEnds` — the ways in which its steps and the whole of it can end;
* `OneTransaction` — what this says about a transcript and the outcome.

Main results:

* `find?_groupByGrant` — filing rows under their grants keeps those of each grant, in order;
* `held_createGrant` — a creation ends in one of these ways;
* `creation_is_one_transaction` — it is one transaction, whatever is replied.
-/
import TableAccess.Database.Playback
import TableAccess.Proofs.KeptChanges

set_option relaxedAutoImplicit false
set_option autoImplicit false

namespace TableAccess

namespace Database

open Attempt (failed everyRow oneRow)

variable {ts : List Turn} {d : Grant.Draft} {createdBy : UserId} {o : Outcome Grant}

/-! ### The capabilities of one grant -/

/-- The capabilities in the rows that name a grant, in the order of the rows. -/
def linkedTo (g : GrantId) (links : List (GrantId × Capability)) : List Capability :=
  (links.filter fun l => l.1 = g).map Prod.snd

/-- **Filing rows under their grants keeps those of each grant, in order.** -/
theorem find?_groupByGrant (links : List (GrantId × Capability)) (g : GrantId) :
    ((groupByGrant links).find? g).getD [] = linkedTo g links := by
  -- row by row, what is filed under the grant grows by what the row has for it
  suffices hfold : ∀ s : Shelf GrantId (List Capability),
      ((links.foldl (fun s l => s.insert l.1 ((s.find? l.1).getD [] ++ [l.2])) s).find? g).getD [] =
        (s.find? g).getD [] ++ linkedTo g links by
    rw [groupByGrant, hfold, Shelf.find?_empty]
    rfl
  induction links with
  | nil => simp [linkedTo]
  | cons l links ih =>
      intro s
      rw [List.foldl_cons, ih, Shelf.find?_insert]
      by_cases hl : l.1 = g
      · subst hl
        simp [linkedTo]
      · simp [linkedTo, hl]

theorem GrantRow.linked_eq (g : GrantRow) (links : List (GrantId × Capability)) :
    g.linked links = g.withCapabilities (linkedTo g.id links) := by
  rw [GrantRow.linked, find?_groupByGrant]

/-! ### The steps -/

/-- The commands of a creation, once the number of the grant is known. -/
def creationPlan (d : Grant.Draft) (createdBy : UserId) (g : GrantId) : List Command :=
  [.acquire, .begin, .execute (.insertGrant d createdBy),
    .execute (.insertLinks g d.capabilityIds.toList), .execute (.loadCapabilities [g]), .commit]

/-- The turn did what it was for: it was acknowledged, and the rows that are needed of it can be
read. -/
def Succeeds : Turn → Prop
  | ⟨.acquire, reply⟩ => reply = .ok ()
  | ⟨.begin, reply⟩ => reply = .ok ()
  | ⟨.commit, reply⟩ => reply = .ok ()
  | ⟨.rollback, _⟩ => True
  | ⟨.execute (.insertGrant ..), reply⟩ => ∃ g, reply >>= oneRow readGrant = .ok g
  | ⟨.execute (.loadCapabilities _), reply⟩ => ∃ links, reply >>= everyRow readLink = .ok links
  | ⟨.execute _, reply⟩ => ∃ r, reply = .ok r

/-- The ways in which a creation can end: there is no connection, no transaction is begun, the grant
is not stored, its links are not, its capabilities cannot be read, the end is not acknowledged, or
the grant is created. -/
inductive CreationEnds (d : Grant.Draft) (createdBy : UserId) : List Turn → Outcome Grant → Prop
  | unconnected (f : Fault) :
      CreationEnds d createdBy [⟨.acquire, .error f⟩] (.error (failed "begin transaction" f))
  | unbegun (f : Fault) :
      CreationEnds d createdBy [⟨.acquire, .ok ()⟩, ⟨.begin, .error f⟩]
        (.error (failed "begin transaction" f))
  | unstored {stored : Except Fault Result} {f : Fault}
      (h : stored >>= oneRow readGrant = .error f) :
      CreationEnds d createdBy
        [⟨.acquire, .ok ()⟩, ⟨.begin, .ok ()⟩, ⟨.execute (.insertGrant d createdBy), stored⟩,
          ⟨.rollback, ()⟩]
        (.error (failed "create permission grant" f))
  | unlinked {stored : Except Fault Result} {g : GrantRow}
      (hg : stored >>= oneRow readGrant = .ok g) (f : Fault) :
      CreationEnds d createdBy
        [⟨.acquire, .ok ()⟩, ⟨.begin, .ok ()⟩, ⟨.execute (.insertGrant d createdBy), stored⟩,
          ⟨.execute (.insertLinks g.id d.capabilityIds.toList), .error f⟩, ⟨.rollback, ()⟩]
        (.error (failed "persist permission grant capabilities" f))
  | unread {stored loaded : Except Fault Result} {g : GrantRow} {linked : Result} {f : Fault}
      (hg : stored >>= oneRow readGrant = .ok g) (h : loaded >>= everyRow readLink = .error f) :
      CreationEnds d createdBy
        [⟨.acquire, .ok ()⟩, ⟨.begin, .ok ()⟩, ⟨.execute (.insertGrant d createdBy), stored⟩,
          ⟨.execute (.insertLinks g.id d.capabilityIds.toList), .ok linked⟩,
          ⟨.execute (.loadCapabilities [g.id]), loaded⟩, ⟨.rollback, ()⟩]
        (.error (loadError f))
  | unacknowledged {stored loaded : Except Fault Result} {g : GrantRow} {linked : Result}
      {links : List (GrantId × Capability)} (hg : stored >>= oneRow readGrant = .ok g)
      (hlinks : loaded >>= everyRow readLink = .ok links) (f : Fault) :
      CreationEnds d createdBy
        [⟨.acquire, .ok ()⟩, ⟨.begin, .ok ()⟩, ⟨.execute (.insertGrant d createdBy), stored⟩,
          ⟨.execute (.insertLinks g.id d.capabilityIds.toList), .ok linked⟩,
          ⟨.execute (.loadCapabilities [g.id]), loaded⟩, ⟨.commit, .error f⟩, ⟨.rollback, ()⟩]
        (.error (failed "commit transaction" f))
  | created {stored loaded : Except Fault Result} {g : GrantRow} {linked : Result}
      {links : List (GrantId × Capability)} (hg : stored >>= oneRow readGrant = .ok g)
      (hlinks : loaded >>= everyRow readLink = .ok links) :
      CreationEnds d createdBy
        [⟨.acquire, .ok ()⟩, ⟨.begin, .ok ()⟩, ⟨.execute (.insertGrant d createdBy), stored⟩,
          ⟨.execute (.insertLinks g.id d.capabilityIds.toList), .ok linked⟩,
          ⟨.execute (.loadCapabilities [g.id]), loaded⟩, ⟨.commit, .ok ()⟩]
        (.ok (g.withCapabilities (linkedTo g.id links)))

theorem assemble_single (g : GrantRow) (links : List (GrantId × Capability)) :
    assemble [g] (groupByGrant links) = [g.withCapabilities (linkedTo g.id links)] := by
  rw [← GrantRow.linked_eq]
  rfl

theorem eq_error_of_bind_ignored {reply : Except Fault Result} {f : Fault}
    (h : reply >>= Attempt.ignored = .error f) : reply = .error f := by
  cases reply with
  | error f' => exact congrArg Except.error (Except.error.inj h)
  | ok r => cases h

/-- The ways in which the steps of the transaction can end: the grant is not stored, its links are
not, its capabilities cannot be read, or all of it is there. -/
inductive StepsEnd (d : Grant.Draft) (createdBy : UserId) :
    List Turn → Outcome (List Grant) → Prop
  | unstored {stored : Except Fault Result} {f : Fault}
      (h : stored >>= oneRow readGrant = .error f) :
      StepsEnd d createdBy [⟨.execute (.insertGrant d createdBy), stored⟩]
        (.error (failed "create permission grant" f))
  | unlinked {stored : Except Fault Result} {g : GrantRow}
      (hg : stored >>= oneRow readGrant = .ok g) (f : Fault) :
      StepsEnd d createdBy
        [⟨.execute (.insertGrant d createdBy), stored⟩,
          ⟨.execute (.insertLinks g.id d.capabilityIds.toList), .error f⟩]
        (.error (failed "persist permission grant capabilities" f))
  | unread {stored loaded : Except Fault Result} {g : GrantRow} {linked : Result} {f : Fault}
      (hg : stored >>= oneRow readGrant = .ok g) (h : loaded >>= everyRow readLink = .error f) :
      StepsEnd d createdBy
        [⟨.execute (.insertGrant d createdBy), stored⟩,
          ⟨.execute (.insertLinks g.id d.capabilityIds.toList), .ok linked⟩,
          ⟨.execute (.loadCapabilities [g.id]), loaded⟩]
        (.error (loadError f))
  | made {stored loaded : Except Fault Result} {g : GrantRow} {linked : Result}
      {links : List (GrantId × Capability)} (hg : stored >>= oneRow readGrant = .ok g)
      (hlinks : loaded >>= everyRow readLink = .ok links) :
      StepsEnd d createdBy
        [⟨.execute (.insertGrant d createdBy), stored⟩,
          ⟨.execute (.insertLinks g.id d.capabilityIds.toList), .ok linked⟩,
          ⟨.execute (.loadCapabilities [g.id]), loaded⟩]
        (.ok [g.withCapabilities (linkedTo g.id links)])

/-- The steps end in one of these ways. -/
theorem held_storeGrant {o : Outcome (List Grant)} (h : (storeGrant d createdBy).run.Held ts o) :
    StepsEnd d createdBy ts o := by
  -- one step after the other: it fails and is the last one, or the next one follows
  obtain ⟨stored, _, rfl, ⟨f, hf, rfl, rfl⟩ | ⟨g, hg, h⟩⟩ := Attempt.held_within_bind.1 h
  · exact .unstored hf
  obtain ⟨linked, _, rfl, ⟨f, hf, rfl, rfl⟩ | ⟨_, hlinked, h⟩⟩ := Attempt.held_within_bind.1 h
  · cases eq_error_of_bind_ignored hf
    exact .unlinked hg f
  obtain ⟨loaded, _, rfl, ⟨f, hf, rfl, rfl⟩ | ⟨links, hlinks, rfl, rfl⟩⟩ :=
    Attempt.held_within_bind.1 h
  all_goals
    cases linked with
    | error f => cases hlinked
    | ok r => ?_
  · exact .unread hg hf
  · rw [assemble_single]
    exact .made hg hlinks

/-- **A creation ends in one of these ways.** -/
theorem held_createGrant (h : (createGrant d createdBy).run.Held ts o) :
    CreationEnds d createdBy ts o := by
  rw [createGrant_eq] at h
  obtain ⟨o', htransaction, rfl⟩ := Attempt.held_bind_ofOutcome.1 h
  cases Attempt.held_transaction htransaction with
  | unconnected f => exact .unconnected f
  | unbegun f => exact .unbegun f
  | givenUp hsteps =>
      cases held_storeGrant hsteps with
      | unstored hf => exact .unstored hf
      | unlinked hg f => exact .unlinked hg f
      | unread hg hf => exact .unread hg hf
  | unacknowledged hsteps f =>
      cases held_storeGrant hsteps with
      | made hg hlinks => exact .unacknowledged hg hlinks f
  | committed hsteps =>
      cases held_storeGrant hsteps with
      | made hg hlinks => exact .created hg hlinks

/-! ### One transaction -/

/-- The commands come in the order of the plan and stop at the first failure, if there is one; what
follows can only be that the transaction is given up. -/
def InOrder (d : Grant.Draft) (createdBy : UserId) (ts : List Turn) : Prop :=
  ∃ (g : GrantId) (body last : List Turn), ts = body ++ last ∧
    (last = [] ∨ last = [⟨.rollback, ()⟩]) ∧
    body.map (·.question) <+: creationPlan d createdBy g ∧ (∀ t ∈ body.dropLast, Succeeds t) ∧
    (body.map (·.question) = creationPlan d createdBy g ∨
      ∃ t, body.getLast? = some t ∧ ¬ Succeeds t)

/-- All steps of the plan before its end were made, and succeeded. -/
def StepsSucceed (d : Grant.Draft) (createdBy : UserId) (ts : List Turn) : Prop :=
  ∃ (g : GrantId) (steps rest : List Turn), ts = steps ++ rest ∧
    steps.map (·.question) = (creationPlan d createdBy g).dropLast ∧ ∀ t ∈ steps, Succeeds t

theorem StepsSucceed.fifth (h : StepsSucceed d createdBy ts) : ∃ t, ts[4]? = some t ∧
    (∃ g, t.question = .execute (.loadCapabilities [g])) ∧ Succeeds t := by
  obtain ⟨g, steps, rest, rfl, hplan, hsteps⟩ := h
  have hfifth : (steps.map (·.question))[4]? = some (.execute (.loadCapabilities [g])) := by
    rw [hplan]
    rfl
  rw [List.getElem?_map] at hfifth
  obtain ⟨t, ht, hquestion⟩ := Option.map_eq_some_iff.1 hfifth
  obtain ⟨hlt, -⟩ := List.getElem?_eq_some_iff.1 ht
  exact ⟨t, by rw [List.getElem?_append_left hlt, ht], ⟨g, hquestion⟩,
    hsteps t (List.mem_of_getElem? ht)⟩

/-- What it means that a creation is one transaction. -/
structure OneTransaction (d : Grant.Draft) (createdBy : UserId) (ts : List Turn)
    (o : Outcome Grant) : Prop where
  in_order : InOrder d createdBy ts
  /-- The transaction is committed just when all steps before succeeded. -/
  commit_iff : (∃ reply, ⟨.commit, reply⟩ ∈ ts) ↔ StepsSucceed d createdBy ts
  /-- A grant is answered just when the end is acknowledged. -/
  ok_iff : (∃ g, o = .ok g) ↔ ⟨.commit, .ok ()⟩ ∈ ts
  /-- After a failure, a transaction that was begun is given up, and nothing is left of it. -/
  given_up : ⟨.begin, .ok ()⟩ ∈ ts → ∀ e, o = .error e →
    ts.getLast? = some ⟨.rollback, ()⟩ ∧ ⟨.commit, .ok ()⟩ ∉ ts ∧ kept ts = []
  /-- A grant that is answered stays, and its links with it; nothing is given up. -/
  stays : ∀ grant, o = .ok grant → ⟨.rollback, ()⟩ ∉ ts ∧ ∃ linked,
    ⟨.execute (.insertLinks grant.id d.capabilityIds.toList), .ok linked⟩ ∈ ts ∧
    kept ts = .insertGrant d createdBy ::
      (Statement.insertLinks grant.id d.capabilityIds.toList).acknowledged (.ok linked)
  /-- The values of the links are the number of the stored grant and the capabilities of the draft,
  and no others. -/
  bound : ∀ g ids reply, ⟨.execute (.insertLinks g ids), reply⟩ ∈ ts → ∃ stored row,
    ⟨.execute (.insertGrant d createdBy), stored⟩ ∈ ts ∧
    stored >>= oneRow readGrant = .ok row ∧
    (Statement.insertLinks g ids).params =
      [.id row.id, .integers (d.capabilityIds.toList.map Id.value)]
  /-- The answer is the stored row with the capabilities in the rows that name it, in order. -/
  answered : ∀ grant, o = .ok grant → ∃ stored loaded row links,
    ⟨.execute (.insertGrant d createdBy), stored⟩ ∈ ts ∧
    stored >>= oneRow readGrant = .ok row ∧
    ⟨.execute (.loadCapabilities [row.id]), loaded⟩ ∈ ts ∧
    loaded >>= everyRow readLink = .ok links ∧
    grant = ⟨row.id, row.userId, row.applyDate, row.expireDate, row.forceTerminateAt, row.isActive,
      (links.filter fun l => l.1 = row.id).map Prod.snd⟩
  /-- A grant that was stored is always there. -/
  not_vanished : o ≠ .error vanished

namespace CreationEnds

/-- Wherever it ends, the commands up to there are those of the plan. -/
theorem in_order (h : CreationEnds d createdBy ts o) : InOrder d createdBy ts := by
  cases h with
  | unconnected f =>
      exact ⟨⟨0⟩, [_], [], rfl, .inl rfl, ⟨_, rfl⟩, by simp, .inr ⟨_, rfl, by simp [Succeeds]⟩⟩
  | unbegun f =>
      exact ⟨⟨0⟩, [_, _], [], rfl, .inl rfl, ⟨_, rfl⟩, by simp [Succeeds],
        .inr ⟨_, rfl, by simp [Succeeds]⟩⟩
  | unstored h =>
      exact ⟨⟨0⟩, [_, _, _], [_], rfl, .inr rfl, ⟨_, rfl⟩, by simp [Succeeds],
        .inr ⟨_, rfl, by simp [Succeeds, h]⟩⟩
  | unlinked hg f =>
      exact ⟨_, [_, _, _, _], [_], rfl, .inr rfl, ⟨_, rfl⟩, by simp [Succeeds, hg],
        .inr ⟨_, rfl, by simp [Succeeds]⟩⟩
  | unread hg h =>
      exact ⟨_, [_, _, _, _, _], [_], rfl, .inr rfl, ⟨_, rfl⟩, by simp [Succeeds, hg],
        .inr ⟨_, rfl, by simp [Succeeds, h]⟩⟩
  | unacknowledged hg hlinks f =>
      exact ⟨_, [_, _, _, _, _, _], [_], rfl, .inr rfl, ⟨[], rfl⟩, by simp [Succeeds, hg, hlinks],
        .inl rfl⟩
  | created hg hlinks =>
      exact ⟨_, [_, _, _, _, _, _], [], rfl, .inl rfl, ⟨[], rfl⟩, by simp [Succeeds, hg, hlinks],
        .inl rfl⟩

/-- A step that fails is not among those that succeeded, and the end comes after all of them. -/
theorem commit_iff (h : CreationEnds d createdBy ts o) :
    (∃ reply, ⟨.commit, reply⟩ ∈ ts) ↔ StepsSucceed d createdBy ts := by
  constructor
  · rintro ⟨reply, hmem⟩
    cases h with
    | unacknowledged hg hlinks f =>
        exact ⟨_, [_, _, _, _, _], [_, _], rfl, rfl, by simp [Succeeds, hg, hlinks]⟩
    | created hg hlinks =>
        exact ⟨_, [_, _, _, _, _], [_], rfl, rfl, by simp [Succeeds, hg, hlinks]⟩
    | _ => simp at hmem
  · intro hsteps
    -- the fifth turn reads the capabilities, and it succeeded
    obtain ⟨t, ht, hquestion, hsucceeds⟩ := hsteps.fifth
    cases h with
    | unread _ hlinks =>
        cases ht
        obtain ⟨links, hok⟩ := hsucceeds
        cases hlinks.symm.trans hok
    | unlinked _ _ =>
        cases ht
        obtain ⟨_, hquestion⟩ := hquestion
        cases hquestion
    | unacknowledged _ _ f => exact ⟨.error f, by simp⟩
    | created _ _ => exact ⟨.ok (), by simp⟩
    | _ => cases ht

theorem ok_iff (h : CreationEnds d createdBy ts o) :
    (∃ g, o = .ok g) ↔ ⟨.commit, .ok ()⟩ ∈ ts := by
  cases h <;> simp

/-- A transaction that was begun and not committed is given up at the end. -/
theorem getLast?_of_error {e : AppError} (h : CreationEnds d createdBy ts (.error e))
    (hbegun : ⟨.begin, .ok ()⟩ ∈ ts) : ts.getLast? = some ⟨.rollback, ()⟩ := by
  cases h with
  | unconnected f => simp at hbegun
  | unbegun f => simp at hbegun
  | _ => rfl

theorem acknowledged_insertGrant {stored : Except Fault Result} {g : GrantRow}
    (hg : stored >>= oneRow readGrant = .ok g) :
    (Statement.insertGrant d createdBy).acknowledged stored = [.insertGrant d createdBy] := by
  rcases stored with f | ⟨_ | ⟨row, rows⟩, affected⟩
  · cases hg
  · cases hg
  · rfl

/-- When the end is acknowledged, what was stored stays. -/
theorem stays {grant : Grant} (h : CreationEnds d createdBy ts (.ok grant)) :
    ⟨.rollback, ()⟩ ∉ ts ∧ ∃ linked,
      ⟨.execute (.insertLinks grant.id d.capabilityIds.toList), .ok linked⟩ ∈ ts ∧
      kept ts = .insertGrant d createdBy ::
        (Statement.insertLinks grant.id d.capabilityIds.toList).acknowledged (.ok linked) := by
  cases h with
  | @created stored loaded g linked links hg hlinks =>
      refine ⟨by simp, linked, by simp [GrantRow.withCapabilities], ?_⟩
      have hload : (Statement.loadCapabilities [g.id]).acknowledged loaded = [] := by
        cases loaded <;> rfl
      -- what is pending before the end is what the three steps changed
      change ([] ++ (Statement.insertGrant d createdBy).acknowledged stored ++
        (Statement.insertLinks g.id d.capabilityIds.toList).acknowledged (.ok linked) ++
        (Statement.loadCapabilities [g.id]).acknowledged loaded) ++ [] = _
      rw [acknowledged_insertGrant hg, hload, List.append_nil, List.append_nil]
      rfl

theorem bound (h : CreationEnds d createdBy ts o) {g : GrantId} {ids : List CapabilityId}
    {reply : Except Fault Result} (hmem : ⟨.execute (.insertLinks g ids), reply⟩ ∈ ts) :
    ∃ stored row, ⟨.execute (.insertGrant d createdBy), stored⟩ ∈ ts ∧
      stored >>= oneRow readGrant = .ok row ∧
      (Statement.insertLinks g ids).params =
        [.id row.id, .integers (d.capabilityIds.toList.map Id.value)] := by
  cases h with
  | unlinked hg _ | unread hg _ | unacknowledged hg _ _ | created hg _ =>
      simp only [List.mem_cons, Dialogue.Turn.mk.injEq, Command.execute.injEq,
        Statement.insertLinks.injEq, reduceCtorEq, false_and, or_false, false_or,
        List.not_mem_nil] at hmem
      obtain ⟨⟨rfl, rfl⟩, -⟩ := hmem
      exact ⟨_, _, by simp, hg, rfl⟩
  | _ => simp at hmem

end CreationEnds

theorem failed_ne_vanished (attempt : String) (f : Fault) : failed attempt f ≠ vanished := by
  intro h
  have hfirst := congrArg (fun e : AppError => e.detail.toList.head?) h
  simp [failed, vanished] at hfirst

/-- **The creation of a grant is one transaction**, whatever is replied.  Its commands come in one
order and stop at the first failure; the end is reached just when all steps before it succeeded, and
a grant is answered just when the end is acknowledged.  Otherwise the transaction is given up and
leaves nothing.  The links bind the number of the stored row, and the answer is that row with the
capabilities that are linked to it. -/
theorem creation_is_one_transaction (h : (answer (.createGrant d createdBy)).Held ts o) :
    OneTransaction d createdBy ts o := by
  have hends : CreationEnds d createdBy ts o := held_createGrant h
  refine ⟨hends.in_order, hends.commit_iff, hends.ok_iff, ?_, ?_, fun _ _ _ => hends.bound, ?_, ?_⟩
  · rintro hbegun e rfl
    refine ⟨hends.getLast?_of_error hbegun, fun hcommit => ?_, kept_of_createGrant h⟩
    obtain ⟨g, hg⟩ := hends.ok_iff.2 hcommit
    cases hg
  · rintro grant rfl
    exact hends.stays
  · rintro grant rfl
    cases hends with
    | created hg hlinks => exact ⟨_, _, _, _, by simp, hg, by simp, hlinks, rfl⟩
  · rintro rfl
    generalize herror : (Except.error vanished : Outcome Grant) = o at hends
    cases hends with
    | created _ _ => cases herror
    | _ => exact failed_ne_vanished _ _ (Except.error.inj herror).symm

/-- A draft for one capability. -/
def draftForOne : Grant.Draft := ⟨⟨2⟩, Instant.year1970.date, Instant.year1970.date, .ofList [⟨11⟩]⟩

def seventhRow : Row :=
  [("grant_id", .integer 7), ("user_id", .integer 2), ("apply_date", .date Instant.year1970.date),
    ("expire_date", .date Instant.year1970.date), ("force_terminate_at", .null),
    ("is_active", .boolean true)]

def linkRow (grant capability : Int) : Row :=
  [("grant_id", .integer grant), ("capability_id", .integer capability),
    ("permission_name", .text datasourceAccess), ("resource_name", .text "orders")]

/-- The replies to a creation where a row of another grant comes before that of the new one. -/
def strayReplies : List Prepared :=
  [.statement (.ok (.ofRows [seventhRow])) false, .statement (.ok ⟨[], 1⟩) false,
    .statement (.ok (.ofRows [linkRow 8 12, linkRow 7 11])) false]

/-- The transcript of the creation. -/
def strayTurns : List Turn :=
  (answer (.createGrant draftForOne ⟨1⟩)).turns Playback.reply (Playback.ready.prepare strayReplies)

/-- What is answered: the row of the other grant is passed over. -/
def seventhGrant : Grant :=
  ⟨⟨7⟩, ⟨2⟩, Instant.year1970.date, Instant.year1970.date, none, true,
    [⟨⟨11⟩, datasourceAccess, "orders"⟩]⟩

theorem creation_is_one_transaction_strayLink :
    (answer (.createGrant draftForOne ⟨1⟩)).Held strayTurns (.ok seventhGrant) ∧
      OneTransaction draftForOne ⟨1⟩ strayTurns (.ok seventhGrant) := by
  have hheld : (answer (.createGrant draftForOne ⟨1⟩)).Held strayTurns (.ok seventhGrant) :=
    Dialogue.held_run Playback.reply (answer (.createGrant draftForOne ⟨1⟩))
      (Playback.ready.prepare strayReplies)
  exact ⟨hheld, creation_is_one_transaction hheld⟩

end Database

end TableAccess
