/-
**Grants are assembled from rows.**

A request for grants is answered by two statements: one for the rows of the grants, and one for the
rows of their capabilities, which is sent only when there are grants and asks for just these.  The
rows of the capabilities may come in any order and may name any grant.  They are filed under their
grants, and what is filed is handed out once; when no two rows have the same identifier this is the
same as looking through all of them for each grant.

Main definitions:

* `LoadEnds` — the ways in which the capabilities of some grants can be loaded;
* `GrantsEnd` — the ways in which a request for grants can end;
* `Assembles` — what this says about the answer and the statements.

Main results:

* `assemble_groupByGrant` — **what is handed out is what the rows say**, in their order;
* `held_withCapabilities`, `held_grants` — every way to end, and no other;
* `grants_are_assembled` — what is answered to a list of grants, a search and a revocation.
-/
import TableAccess.Proofs.Columns
import TableAccess.Proofs.GrantCreation

set_option relaxedAutoImplicit false
set_option autoImplicit false

namespace TableAccess

namespace Database

open Attempt (failed single within everyRow firstRow)

/-! ### What is handed out -/

section Rows

variable {rows : List GrantRow} {links : List (GrantId × Capability)}

/-- What is filed under a grant is handed out to it, if no grant comes twice. -/
theorem assemble_eq (hrows : (rows.map GrantRow.id).Nodup)
    (filed : Shelf GrantId (List Capability)) :
    assemble rows filed = rows.map fun g => g.withCapabilities ((filed.find? g.id).getD []) := by
  induction rows generalizing filed with
  | nil => rfl
  | cons g rows ih =>
      obtain ⟨hg, hrows⟩ := List.nodup_cons.1 hrows
      rw [assemble, ih hrows, List.map_cons, List.cons.injEq]
      refine ⟨rfl, List.map_congr_left fun g' hg' => ?_⟩
      -- what was handed out before was filed under another grant
      have hne : g.id ≠ g'.id := fun heq => hg (heq ▸ List.mem_map_of_mem hg')
      rw [Shelf.find?_erase, if_neg hne]

/-- **Each grant gets the capabilities in the rows that name it**, in the order of these rows. -/
theorem assemble_groupByGrant (hrows : (rows.map GrantRow.id).Nodup) :
    assemble rows (groupByGrant links) =
      rows.map fun g => g.withCapabilities (linkedTo g.id links) := by
  rw [assemble_eq hrows]
  exact List.map_congr_left fun g _ => congrArg g.withCapabilities (find?_groupByGrant links g.id)

theorem assemble_filter (hrows : (rows.map GrantRow.id).Nodup) :
    assemble rows (groupByGrant (links.filter fun l => l.1 ∈ rows.map GrantRow.id)) =
      assemble rows (groupByGrant links) := by
  rw [assemble_groupByGrant hrows, assemble_groupByGrant hrows]
  refine List.map_congr_left fun g hg => congrArg g.withCapabilities ?_
  have hsame : ∀ l ∈ links,
      (decide (l.1 = g.id) && decide (l.1 ∈ rows.map GrantRow.id)) = decide (l.1 = g.id) := by
    intro l _
    by_cases hl : l.1 = g.id
    · simp [hl, List.mem_map_of_mem hg]
    · simp [hl]
  rw [linkedTo, List.filter_filter, List.filter_congr hsame]
  rfl

end Rows

/-! ### The ways in which a request ends -/

/-- The ways in which the capabilities of some grants can be loaded: there are no grants and nothing
is asked, there is no connection, the rows cannot be had or read, or they are read. -/
inductive LoadEnds (rows : List GrantRow) : List Turn → Outcome (List Grant) → Prop where
  | nothing (hrows : rows = []) : LoadEnds rows [] (.ok [])
  | unconnected (hrows : rows ≠ []) (f : Fault) :
      LoadEnds rows [⟨.acquire, .error f⟩] (.error (failed "acquire database connection" f))
  | unread {loaded : Except Fault Result} {f : Fault} (hrows : rows ≠ [])
      (h : loaded >>= everyRow readLink = .error f) :
      LoadEnds rows
        [⟨.acquire, .ok ()⟩, ⟨.execute (.loadCapabilities (rows.map GrantRow.id)), loaded⟩]
        (.error (loadError f))
  | loaded {loaded : Except Fault Result} {links : List (GrantId × Capability)} (hrows : rows ≠ [])
      (h : loaded >>= everyRow readLink = .ok links) :
      LoadEnds rows
        [⟨.acquire, .ok ()⟩, ⟨.execute (.loadCapabilities (rows.map GrantRow.id)), loaded⟩]
        (.ok (assemble rows (groupByGrant links)))

/-- The ways in which a request for grants can end: there is no connection, the rows of the grants
cannot be had or read, or they are read, and their capabilities are loaded. -/
inductive GrantsEnd {α : Type} (s : Statement) (error : Fault → AppError)
    (read : Result → Except Fault α) (rows : α → List GrantRow) :
    List Turn → Outcome (List Grant) → Prop where
  | unconnected (f : Fault) :
      GrantsEnd s error read rows [⟨.acquire, .error f⟩] (.error (error f))
  | unread {reply : Except Fault Result} {f : Fault} (h : reply >>= read = .error f) :
      GrantsEnd s error read rows [⟨.acquire, .ok ()⟩, ⟨.execute s, reply⟩] (.error (error f))
  | read {reply : Except Fault Result} {a : α} {ts : List Turn} {o : Outcome (List Grant)}
      (h : reply >>= read = .ok a) (hload : LoadEnds (rows a) ts o) :
      GrantsEnd s error read rows (⟨.acquire, .ok ()⟩ :: ⟨.execute s, reply⟩ :: ts) o

section Held

variable {ts : List Turn} {rows : List GrantRow}

/-- **The capabilities of some grants are loaded in one of these ways.** -/
theorem held_withCapabilities {o : Outcome (List Grant)} :
    (withCapabilities rows).run.Held ts o ↔ LoadEnds rows ts o := by
  unfold withCapabilities
  by_cases hrows : rows = []
  · subst hrows
    constructor
    · rintro ⟨rfl, rfl⟩
      exact .nothing rfl
    · intro h
      cases h with
      | nothing _ => exact ⟨rfl, rfl⟩
      | unconnected h _ | unread h _ | loaded h _ => exact absurd rfl h
  rw [if_neg (by simpa using hrows), Attempt.held_bind]
  constructor
  · rintro (⟨e, h, rfl⟩ | ⟨u, ts₁, ts₂, rfl, h, hlinks⟩)
    · obtain ⟨taken, rfl, he⟩ := Attempt.held_connect.1 h
      cases taken with
      | ok u => cases he
      | error f =>
          cases he
          exact .unconnected hrows f
    · obtain ⟨taken, rfl, hu⟩ := Attempt.held_connect.1 h
      cases taken with
      | error f => cases hu
      | ok _ =>
          obtain ⟨loaded, rest, rfl, ⟨f, hf, rfl, rfl⟩ | ⟨links, hok, rfl, rfl⟩⟩ :=
            Attempt.held_within_bind.1 hlinks
          · exact .unread hrows hf
          · exact .loaded hrows hok
  · intro h
    cases h with
    | nothing h => exact absurd h hrows
    | unconnected _ f => exact .inl ⟨_, Attempt.held_connect.2 ⟨.error f, rfl, rfl⟩, rfl⟩
    | unread _ h =>
        exact .inr ⟨(), [_], [_], rfl, Attempt.held_connect.2 ⟨.ok (), rfl, rfl⟩,
          Attempt.held_within_bind.2 ⟨_, [], rfl, .inl ⟨_, h, rfl, rfl⟩⟩⟩
    | loaded _ h =>
        exact .inr ⟨(), [_], [_], rfl, Attempt.held_connect.2 ⟨.ok (), rfl, rfl⟩,
          Attempt.held_within_bind.2 ⟨_, [], rfl, .inr ⟨_, h, rfl, rfl⟩⟩⟩

theorem held_completed_row {row : Option GrantRow} {o : Outcome (Option Grant)} :
    (completed row).run.Held ts o ↔
      ∃ o', LoadEnds row.toList ts o' ∧ o = o'.map List.head? := by
  have hcompleted : completed row =
      withCapabilities row.toList >>= fun grants => Attempt.ofOutcome (.ok grants.head?) := by
    cases row <;> rfl
  have hmap : ∀ o' : Outcome (List Grant),
      (o' >>= fun grants => .ok grants.head?) = o'.map List.head? := by
    intro o'
    cases o' <;> rfl
  rw [hcompleted, Attempt.held_bind_ofOutcome]
  simp only [held_withCapabilities, hmap]

/-- **A request for grants ends in one of these ways**, if what comes after the rows is that their
capabilities are loaded. -/
theorem held_grants {α β : Type} {s : Statement} {error : Fault → AppError}
    {read : Result → Except Fault α} {rows : α → List GrantRow} {next : α → Attempt β}
    {last : List Grant → β}
    (hnext : ∀ a ts o, (next a).run.Held ts o ↔ ∃ o', LoadEnds (rows a) ts o' ∧ o = o'.map last)
    {o : Outcome β} :
    (single error s read >>= next).run.Held ts o ↔
      ∃ o', GrantsEnd s error read rows ts o' ∧ o = o'.map last := by
  rw [Attempt.held_bind]
  constructor
  · rintro (⟨e, h, rfl⟩ | ⟨a, ts₁, ts₂, rfl, h, hload⟩)
    · obtain ⟨f, rfl, he⟩ | ⟨reply, rfl, he⟩ := Attempt.held_single.1 h
      · cases he
        exact ⟨_, .unconnected f, rfl⟩
      · cases hread : reply >>= read with
        | ok a =>
            rw [hread] at he
            cases he
        | error f =>
            rw [hread] at he
            cases he
            exact ⟨_, .unread hread, rfl⟩
    · obtain ⟨f, rfl, ha⟩ | ⟨reply, rfl, ha⟩ := Attempt.held_single.1 h
      · cases ha
      · cases hread : reply >>= read with
        | error f =>
            rw [hread] at ha
            cases ha
        | ok a' =>
            rw [hread] at ha
            cases ha
            obtain ⟨o', hends, rfl⟩ := (hnext a ts₂ o).1 hload
            exact ⟨o', .read hread hends, rfl⟩
  · rintro ⟨o', h, rfl⟩
    cases h with
    | unconnected f => exact .inl ⟨_, Attempt.held_single.2 (.inl ⟨f, rfl, rfl⟩), rfl⟩
    | unread h =>
        exact .inl ⟨_, Attempt.held_single.2 (.inr ⟨_, rfl, by rw [h]; rfl⟩), rfl⟩
    | read h hload =>
        exact .inr ⟨_, [_, _], _, rfl, Attempt.held_single.2 (.inr ⟨_, rfl, by rw [h]; rfl⟩),
          (hnext _ _ _).2 ⟨o', hload, rfl⟩⟩

theorem held_listGrants {q : GrantQuery} {o : Outcome (List Grant)} :
    (listGrants q).run.Held ts o ↔
      GrantsEnd (.listGrants q) (failed "list permission grants") (everyRow readGrant) id ts o := by
  have hmap : ∀ o' : Outcome (List Grant), o'.map id = o' := by
    intro o'
    cases o' <;> rfl
  have hnext : ∀ (rows : List GrantRow) ts o, (withCapabilities rows).run.Held ts o ↔
      ∃ o', LoadEnds (id rows) ts o' ∧ o = o'.map id := by
    intro rows ts o
    simp [held_withCapabilities, hmap]
  exact (held_grants hnext).trans (by simp [hmap])

theorem held_findGrant {g : GrantId} {o : Outcome (Option Grant)} :
    (findGrant g).run.Held ts o ↔ ∃ o',
      GrantsEnd (.findGrant g) (failed ("find permission grant '" ++ g.write ++ "'"))
        (firstRow readGrant) Option.toList ts o' ∧ o = o'.map List.head? :=
  held_grants fun _ _ _ => held_completed_row

theorem held_forceRevokeGrant {g : GrantId} {revokedAt : Instant} {revokedBy : UserId}
    {o : Outcome (Option Grant)} :
    (forceRevokeGrant g revokedAt revokedBy).run.Held ts o ↔ ∃ o',
      GrantsEnd (.forceRevokeGrant g revokedAt revokedBy)
        (failed ("force revoke permission grant '" ++ g.write ++ "'"))
        (firstRow readGrant) Option.toList ts o' ∧ o = o'.map List.head? :=
  held_grants fun _ _ _ => held_completed_row

end Held

/-! ### What this says about the answer -/

/-- The turn did not do what it was for: there was no connection, or the rows could not be had or
read. -/
inductive Fails {α : Type} (s : Statement) (read : Result → Except Fault α) : Turn → Prop where
  | connection (f : Fault) : Fails s read ⟨.acquire, .error f⟩
  | grants {reply : Except Fault Result} {f : Fault} (h : reply >>= read = .error f) :
      Fails s read ⟨.execute s, reply⟩
  | capabilities {ids : List GrantId} {loaded : Except Fault Result} {f : Fault}
      (h : loaded >>= everyRow readLink = .error f) :
      Fails s read ⟨.execute (.loadCapabilities ids), loaded⟩

/-- What it means that grants are assembled from the replies to a statement and to the one for their
capabilities. -/
structure Assembles {α : Type} (s : Statement) (read : Result → Except Fault α)
    (rows : α → List GrantRow) (ts : List Turn) (o : Outcome (List Grant)) : Prop where
  /-- There is an answer just when no turn fails. -/
  ok_iff : (∃ grants, o = .ok grants) ↔ ∀ t ∈ ts, ¬ Fails s read t
  /-- The answer has one grant for each row, in order, with the fields of the row and, in the order
  of the reply, the capabilities in the rows that name it. -/
  answered : ∀ grants, o = .ok grants → ∃ reply a links, ⟨.execute s, reply⟩ ∈ ts ∧
    reply >>= read = .ok a ∧
    (rows a = [] ∧ links = [] ∨ ∃ loaded,
      ⟨.execute (.loadCapabilities ((rows a).map GrantRow.id)), loaded⟩ ∈ ts ∧
      loaded >>= everyRow readLink = .ok links) ∧
    (((rows a).map GrantRow.id).Nodup → grants = (rows a).map fun g =>
      ⟨g.id, g.userId, g.applyDate, g.expireDate, g.forceTerminateAt, g.isActive,
        (links.filter fun l => l.1 = g.id).map Prod.snd⟩)
  /-- The statement for capabilities is sent once at most, after rows of grants were read, and has
  just the identifiers of these rows as its value, in order. -/
  asked : ∀ ids loaded, ⟨.execute (.loadCapabilities ids), loaded⟩ ∈ ts → ∃ reply a,
    ts = [⟨.acquire, .ok ()⟩, ⟨.execute s, reply⟩, ⟨.acquire, .ok ()⟩,
      ⟨.execute (.loadCapabilities ids), loaded⟩] ∧
    reply >>= read = .ok a ∧ rows a ≠ [] ∧
    (Statement.loadCapabilities ids).params = [.integers ((rows a).map (·.id.value))]
  /-- Nothing is sent after a reply without grants. -/
  unasked : ∀ reply a, ⟨.execute s, reply⟩ ∈ ts → reply >>= read = .ok a → rows a = [] →
    ts = [⟨.acquire, .ok ()⟩, ⟨.execute s, reply⟩] ∧ o = .ok []

section Answer

variable {α : Type} {s : Statement} {error : Fault → AppError} {read : Result → Except Fault α}
  {rows : α → List GrantRow} {ts : List Turn} {o : Outcome (List Grant)}
  (hs : ∀ ids, s ≠ .loadCapabilities ids)

omit hs in
theorem error_iff {e : AppError} {t : Turn} (ht : t ∈ ts) (hfails : Fails s read t) :
    (∃ grants, (.error e : Outcome (List Grant)) = .ok grants) ↔ ∀ t ∈ ts, ¬ Fails s read t := by
  constructor
  · rintro ⟨grants, hgrants⟩
    cases hgrants
  · intro hall
    exact absurd hfails (hall t ht)

theorem not_fails_connection : ¬ Fails s read ⟨.acquire, .ok ()⟩ := by
  intro h
  cases h

include hs

theorem not_fails_grants {reply : Except Fault Result} {a : α} (h : reply >>= read = .ok a) :
    ¬ Fails s read ⟨.execute s, reply⟩ := by
  intro hfails
  cases hfails with
  | grants hf => cases h.symm.trans hf
  | capabilities hf => exact hs _ rfl

theorem not_fails_capabilities {ids : List GrantId} {loaded : Except Fault Result}
    {links : List (GrantId × Capability)} (h : loaded >>= everyRow readLink = .ok links) :
    ¬ Fails s read ⟨.execute (.loadCapabilities ids), loaded⟩ := by
  intro hfails
  cases hfails with
  | grants hf => exact hs _ rfl
  | capabilities hf => cases h.symm.trans hf

theorem GrantsEnd.ok_iff (h : GrantsEnd s error read rows ts o) :
    (∃ grants, o = .ok grants) ↔ ∀ t ∈ ts, ¬ Fails s read t := by
  cases h with
  | unconnected f => exact error_iff (List.mem_cons_self ..) (.connection f)
  | unread h => exact error_iff (by simp) (.grants h)
  | read h hload =>
      cases hload with
      | nothing hrows =>
          refine ⟨fun _ => ?_, fun _ => ⟨_, rfl⟩⟩
          simp only [List.forall_mem_cons]
          exact ⟨not_fails_connection, not_fails_grants hs h, by simp⟩
      | unconnected hrows f => exact error_iff (by simp) (.connection f)
      | unread hrows hlinks =>
          exact error_iff (.tail _ (.tail _ (.tail _ (.head _)))) (.capabilities hlinks)
      | loaded hrows hlinks =>
          refine ⟨fun _ => ?_, fun _ => ⟨_, rfl⟩⟩
          simp only [List.forall_mem_cons]
          exact ⟨not_fails_connection, not_fails_grants hs h, not_fails_connection,
            not_fails_capabilities hs hlinks, by simp⟩

omit hs in
/-- A turn after a connection was taken and a statement was sent is that statement, or comes
later. -/
theorem sent_cases {s' : Statement} {reply reply' : Except Fault Result} {rest : List Turn}
    (h : (⟨.execute s', reply⟩ : Turn) ∈
      (⟨.acquire, .ok ()⟩ : Turn) :: ⟨.execute s, reply'⟩ :: rest) :
    (s' = s ∧ reply = reply') ∨ (⟨.execute s', reply⟩ : Turn) ∈ rest := by
  rcases List.mem_cons.1 h with heq | h
  · cases heq
  rcases List.mem_cons.1 h with heq | h
  · cases heq
    exact .inl ⟨rfl, rfl⟩
  · exact .inr h

theorem GrantsEnd.asked (h : GrantsEnd s error read rows ts o) {ids : List GrantId}
    {loaded : Except Fault Result} (hmem : ⟨.execute (.loadCapabilities ids), loaded⟩ ∈ ts) :
    ∃ reply a, ts = [⟨.acquire, .ok ()⟩, ⟨.execute s, reply⟩, ⟨.acquire, .ok ()⟩,
        ⟨.execute (.loadCapabilities ids), loaded⟩] ∧
      reply >>= read = .ok a ∧ rows a ≠ [] ∧ ids = (rows a).map GrantRow.id := by
  cases h with
  | unconnected f => simp at hmem
  | unread h =>
      obtain ⟨heq, -⟩ | hmem := sent_cases hmem
      · exact absurd heq.symm (hs ids)
      · cases hmem
  | read h hload =>
      obtain ⟨heq, -⟩ | hmem := sent_cases hmem
      · exact absurd heq.symm (hs ids)
      cases hload with
      | nothing hrows => cases hmem
      | unconnected hrows f => simp at hmem
      | unread hrows hlinks | loaded hrows hlinks =>
          obtain ⟨heq, rfl⟩ | hmem := sent_cases hmem
          · cases heq
            exact ⟨_, _, rfl, h, hrows, rfl⟩
          · cases hmem

theorem GrantsEnd.unasked (h : GrantsEnd s error read rows ts o) {reply : Except Fault Result}
    {a : α} (hmem : ⟨.execute s, reply⟩ ∈ ts) (ha : reply >>= read = .ok a) (hrows : rows a = []) :
    ts = [⟨.acquire, .ok ()⟩, ⟨.execute s, reply⟩] ∧ o = .ok [] := by
  cases h with
  | unconnected f => simp at hmem
  | unread h =>
      obtain ⟨-, rfl⟩ | hmem := sent_cases hmem
      · cases ha.symm.trans h
      · cases hmem
  | read h hload =>
      obtain ⟨-, rfl⟩ | hmem := sent_cases hmem
      · cases ha.symm.trans h
        cases hload with
        | nothing _ => exact ⟨rfl, rfl⟩
        | unconnected hsome _ | unread hsome _ | loaded hsome _ => exact absurd hrows hsome
      · cases hload with
        | nothing _ => cases hmem
        | unconnected _ _ => simp at hmem
        | unread _ _ | loaded _ _ =>
            obtain ⟨heq, -⟩ | hmem := sent_cases hmem
            · exact absurd heq (hs _)
            · cases hmem

/-- **However a request for grants ends, they are assembled from the replies.** -/
theorem GrantsEnd.assembles (h : GrantsEnd s error read rows ts o) :
    Assembles s read rows ts o where
  ok_iff := h.ok_iff hs
  answered := by
    rintro grants rfl
    cases h with
    | read h hload =>
        cases hload with
        | nothing hrows =>
            exact ⟨_, _, [], by simp, h, .inl ⟨hrows, rfl⟩, fun _ => by rw [hrows]; rfl⟩
        | loaded hrows hlinks =>
            exact ⟨_, _, _, by simp, h, .inr ⟨_, by simp, hlinks⟩, assemble_groupByGrant⟩
  asked := by
    intro ids loaded hmem
    obtain ⟨reply, a, hts, ha, hrows, rfl⟩ := h.asked hs hmem
    refine ⟨reply, a, hts, ha, hrows, ?_⟩
    rw [Statement.params, List.map_map]
    rfl
  unasked := fun _ _ => h.unasked hs

end Answer

/-- **Grants are assembled from rows without loss or cross-talk**, whatever is replied: to a list of
grants, and to a search and a revocation, which are lists of one row at most.  Rows are read column
by column; and when they and those of the capabilities are read, there is an answer. -/
theorem grants_are_assembled :
    (∀ q ts o, (answer (.listGrants q)).Held ts o →
      Assembles (.listGrants q) (everyRow readGrant) id ts o) ∧
    (∀ g ts o, (answer (.findGrant g)).Held ts o → ∃ o', o = o'.map List.head? ∧
      Assembles (.findGrant g) (firstRow readGrant) Option.toList ts o') ∧
    (∀ g revokedAt revokedBy ts o, (answer (.forceRevokeGrant g revokedAt revokedBy)).Held ts o →
      ∃ o', o = o'.map List.head? ∧
        Assembles (.forceRevokeGrant g revokedAt revokedBy) (firstRow readGrant) Option.toList ts
          o') ∧
    (∀ q r rows loaded links, everyRow readGrant r = .ok rows → rows ≠ [] →
      (rows.map GrantRow.id).Nodup → everyRow readLink loaded = .ok links →
      (answer (.listGrants q)).Held
        [⟨.acquire, .ok ()⟩, ⟨.execute (.listGrants q), .ok r⟩, ⟨.acquire, .ok ()⟩,
          ⟨.execute (.loadCapabilities (rows.map GrantRow.id)), .ok loaded⟩]
        (.ok (rows.map fun g =>
          ⟨g.id, g.userId, g.applyDate, g.expireDate, g.forceTerminateAt, g.isActive,
            (links.filter fun l => l.1 = g.id).map Prod.snd⟩))) ∧
    (∀ (rows : List GrantRow) links, (rows.map GrantRow.id).Nodup →
      assemble rows (groupByGrant (links.filter fun l => l.1 ∈ rows.map GrantRow.id)) =
        assemble rows (groupByGrant links)) ∧
    (∀ r rows, everyRow readGrant r = .ok rows ↔
      List.Forall₂ (fun row (g : GrantRow) => g.ReadFrom row) r.rows rows) ∧
    ∀ r links, everyRow readLink r = .ok links ↔
      List.Forall₂ (fun row l => LinkReadFrom l row) r.rows links := by
  refine ⟨fun q ts o h => ?_, fun g ts o h => ?_, fun g revokedAt revokedBy ts o h => ?_,
    fun q r rows loaded links hrows hsome hdistinct hlinks => ?_, fun rows links => assemble_filter,
    fun r rows => ?_, fun r links => ?_⟩
  · exact (held_listGrants.1 h).assembles nofun
  · obtain ⟨o', hends, rfl⟩ := held_findGrant.1 h
    exact ⟨o', rfl, hends.assembles nofun⟩
  · obtain ⟨o', hends, rfl⟩ := held_forceRevokeGrant.1 h
    exact ⟨o', rfl, hends.assembles nofun⟩
  · have hread : (Except.ok r : Except Fault Result) >>= everyRow readGrant = .ok rows := hrows
    have hload : (Except.ok loaded : Except Fault Result) >>= everyRow readLink = .ok links :=
      hlinks
    have hends := LoadEnds.loaded hsome hload
    rw [assemble_groupByGrant hdistinct] at hends
    exact held_listGrants.2 (.read hread hends)
  · simp only [everyRow_eq_ok_iff, readGrant_eq_ok_iff]
  · simp only [everyRow_eq_ok_iff, readLink_eq_ok_iff]

/-- The row of a grant of the second user, which is active for one day. -/
def listedRow (grant : Int) : Row :=
  [("grant_id", .integer grant), ("user_id", .integer 2),
    ("apply_date", .date Instant.year1970.date), ("expire_date", .date Instant.year1970.date),
    ("force_terminate_at", .null), ("is_active", .boolean true)]

def everyGrant : GrantQuery := ⟨none, false, Instant.year1970.date, 50, 0⟩

/-- The replies to a list of two grants where the rows of their capabilities are mixed, and one is
of a third grant. -/
def mixedReplies : List Prepared :=
  [.statement (.ok (.ofRows [listedRow 7, listedRow 3])) false,
    .statement (.ok (.ofRows [linkRow 3 12, linkRow 8 13, linkRow 7 11, linkRow 3 11])) false]

/-- The transcript of the list. -/
def mixedTurns : List Turn :=
  (answer (.listGrants everyGrant)).turns Playback.reply (Playback.ready.prepare mixedReplies)

/-- A grant of the second user with capabilities for one resource. -/
def grantWith (grant : Int) (capabilities : List Int) : Grant :=
  ⟨⟨grant⟩, ⟨2⟩, Instant.year1970.date, Instant.year1970.date, none, true,
    capabilities.map fun c => ⟨⟨c⟩, datasourceAccess, "orders"⟩⟩

theorem grants_are_assembled_mixed :
    (answer (.listGrants everyGrant)).Held mixedTurns
      (.ok [grantWith 7 [11], grantWith 3 [12, 11]]) ∧
    Assembles (.listGrants everyGrant) (everyRow readGrant) id mixedTurns
      (.ok [grantWith 7 [11], grantWith 3 [12, 11]]) := by
  have hheld : (answer (.listGrants everyGrant)).Held mixedTurns
      (.ok [grantWith 7 [11], grantWith 3 [12, 11]]) :=
    Dialogue.held_run Playback.reply (answer (.listGrants everyGrant))
      (Playback.ready.prepare mixedReplies)
  exact ⟨hheld, grants_are_assembled.1 _ _ _ hheld⟩

end Database

end TableAccess
