/-
**What the database keeps of a change.**

A statement that stands alone has taken effect as soon as it is acknowledged; one in a transaction
takes effect when the transaction is committed.  What a transcript leaves behind is read off it
turn by turn.  A request that makes a change and is answered with an error leaves nothing behind,
unless it is cut short: a statement that stands alone and answers with the row that it changed has
taken effect before that row is read, and the revocation of a grant also before the capabilities of
the grant are read.

Main definitions:

* `Statement.acknowledged`, `keptFrom`, `kept` — the changes that take effect in a transcript;
* `KeyRowsHold` — the rows of keys hold keys that would be accepted;
* `CutShort` — a change that is acknowledged and cannot be read back.

Main results:

* `Attempt.TransactionEnds.kept_of_error` — a transaction that fails keeps nothing;
* `CutShort.held`, `CutShort.kept_eq` — a change that is cut short fails, and stays;
* `kept_of_held_error` — any other change that fails keeps nothing.
-/
import TableAccess.Proofs.Columns
import TableAccess.Proofs.Faults
import TableAccess.Proofs.Transcripts

set_option relaxedAutoImplicit false
set_option autoImplicit false

namespace TableAccess

namespace Database

open Attempt (failed single within everyRow firstRow oneRow)

/-! ### What takes effect -/

/-- Whether a statement answers the rows that it changed. -/
def Statement.returnsRows : Statement → Bool
  | .createKey .. => true
  | .rotateKey .. => true
  | .deleteKey _ => true
  | .insertGrant .. => true
  | .forceRevokeGrant .. => true
  | _ => false

/-- The statement, if the reply says that it changed a row. -/
def Statement.acknowledged (s : Statement) : Except Fault Result → List Statement
  | .error _ => []
  | .ok r =>
      if s.changes && (if s.returnsRows then !r.rows.isEmpty else decide (0 < r.affected))
      then [s] else []

/-- The acknowledged changes of the transaction that is open after a turn, if there is one.  On a
connection that is taken there is none. -/
def pendingAfter : Option (List Statement) → Turn → Option (List Statement)
  | p, ⟨.execute s, reply⟩ => p.map (· ++ s.acknowledged reply)
  | _, ⟨.begin, .ok ()⟩ => some []
  | p, ⟨.begin, .error _⟩ => p
  | _, ⟨.acquire, _⟩ => none
  | _, ⟨.commit, _⟩ => none
  | _, ⟨.rollback, _⟩ => none

/-- The changes that take effect in a turn: those of a statement outside of transactions, and those
of a transaction whose end is acknowledged. -/
def keptIn : Option (List Statement) → Turn → List Statement
  | none, ⟨.execute s, reply⟩ => s.acknowledged reply
  | some ss, ⟨.commit, .ok ()⟩ => ss
  | _, _ => []

/-- The changes that take effect in some turns, with the transaction that is open before. -/
def keptFrom : Option (List Statement) → List Turn → List Statement
  | _, [] => []
  | p, t :: ts => keptIn p t ++ keptFrom (pendingAfter p t) ts

/-- The changes that take effect in a transcript. -/
def kept (ts : List Turn) : List Statement := keptFrom none ts

theorem keptFrom_append (p : Option (List Statement)) (ts₁ ts₂ : List Turn) :
    keptFrom p (ts₁ ++ ts₂) = keptFrom p ts₁ ++ keptFrom (ts₁.foldl pendingAfter p) ts₂ := by
  induction ts₁ generalizing p with
  | nil => rfl
  | cons t ts₁ ih => simp only [List.cons_append, keptFrom, List.foldl_cons, ih, List.append_assoc]

namespace Attempt

variable {α β : Type}

/-- In a transaction nothing takes effect before its end. -/
theorem keptFrom_of_sends {ts : List Turn} (h : ∀ t ∈ ts, ∃ s reply, t = ⟨.execute s, reply⟩)
    (ss : List Statement) :
    keptFrom (some ss) ts = [] ∧ ∃ ss', ts.foldl pendingAfter (some ss) = some ss' := by
  induction ts generalizing ss with
  | nil => exact ⟨rfl, ss, rfl⟩
  | cons t ts ih =>
      obtain ⟨s, reply, rfl⟩ := h t (List.mem_cons_self ..)
      exact ih (fun t ht => h t (List.mem_cons_of_mem _ ht)) _

/-- Nothing but statements is sent, on the connection at hand. -/
def Sends (x : Attempt α) : Prop :=
  ∀ ts o, x.run.Held ts o → ∀ t ∈ ts, ∃ s reply, t = ⟨.execute s, reply⟩

theorem Sends.pure (a : α) : (Pure.pure a : Attempt α).Sends := by
  rintro ts o ⟨rfl, -⟩ t ht
  cases ht

theorem Sends.within (error : Fault → AppError) (s : Statement) (read : Result → Except Fault α) :
    (Attempt.within error s read).Sends := by
  intro ts o h t ht
  obtain ⟨reply, rfl, -⟩ := held_within.1 h
  exact ⟨s, reply, List.mem_singleton.1 ht⟩

theorem Sends.bind {x : Attempt β} {k : β → Attempt α} (hx : x.Sends) (hk : ∀ b, (k b).Sends) :
    (x >>= k).Sends := by
  intro ts o h t ht
  obtain ⟨e, h, -⟩ | ⟨b, ts₁, ts₂, rfl, h₁, h₂⟩ := held_bind.1 h
  · exact hx ts _ h t ht
  · rcases List.mem_append.1 ht with ht | ht
    · exact hx ts₁ _ h₁ t ht
    · exact hk b ts₂ o h₂ t ht

/-- A transaction keeps nothing whose end keeps nothing of any changes that are pending. -/
theorem kept_begun {ts last : List Turn} (h : ∀ t ∈ ts, ∃ s reply, t = ⟨.execute s, reply⟩)
    (hlast : ∀ ss, keptFrom (some ss) last = []) :
    kept (⟨.acquire, .ok ()⟩ :: ⟨.begin, .ok ()⟩ :: (ts ++ last)) = [] := by
  obtain ⟨hkept, ss, hss⟩ := keptFrom_of_sends h []
  change keptFrom (some []) (ts ++ last) = []
  rw [keptFrom_append, hkept, hss, hlast]
  rfl

/-- **A transaction that fails keeps nothing.** -/
theorem TransactionEnds.kept_of_error {steps : Attempt α} {ts : List Turn} {e : AppError}
    (h : TransactionEnds steps ts (.error e)) (hsteps : steps.Sends) : kept ts = [] := by
  -- the outcome is a variable for the case split, which rules out the end that is committed
  generalize ho : (Except.error e : Outcome α) = o at h
  cases h with
  | unconnected f => rfl
  | unbegun f => rfl
  | givenUp hts => exact kept_begun (hsteps _ _ hts) fun _ => rfl
  | unacknowledged hts f => exact kept_begun (hsteps _ _ hts) fun _ => rfl
  | committed hts => cases ho

end Attempt

/-! ### Keys -/

def Statement.changesKey : Statement → Bool
  | .createKey .. => true
  | .rotateKey .. => true
  | .deleteKey _ => true
  | _ => false

/-- The row holds a key that would be accepted, whatever else it holds. -/
def HoldsKey (r : Row) : Prop :=
  ∃ token key, r.Holds .text "access_key" (some token) ∧ AccessKey.ofText token = .ok key

/-- The rows that answer changes of keys hold keys that would be accepted. -/
def KeyRowsHold (ts : List Turn) : Prop :=
  ∀ s r, ⟨.execute s, .ok r⟩ ∈ ts → s.changesKey = true → ∀ row ∈ r.rows, HoldsKey row

theorem KeyRowsHold.holdsKey {s : Statement} {row : Row} {rows : List Row} {affected : Nat}
    (h : KeyRowsHold [⟨.acquire, .ok ()⟩, ⟨.execute s, .ok ⟨row :: rows, affected⟩⟩])
    (hs : s.changesKey = true) : HoldsKey row :=
  h s _ (List.mem_cons_of_mem _ (List.mem_cons_self ..)) hs row (List.mem_cons_self ..)

theorem HoldsKey.record {row : Row} {k : KeyRow} (h : HoldsKey row) (hread : readKey row = .ok k) :
    ∃ q, k.record = .ok q := by
  obtain ⟨token, key, htoken, hkey⟩ := h
  have hsame := (Row.required_eq_ok_iff.2 htoken).symm.trans
    (Row.required_eq_ok_iff.2 (readKey_eq_ok_iff.1 hread).token)
  obtain rfl := Except.ok.inj hsame
  exact ⟨⟨k.userId, key, k.createdAt, k.changedAt, k.changedBy⟩, by rw [KeyRow.record, hkey]⟩

variable {α : Type} {ts : List Turn} {e : AppError}

theorem createKey_eq (u : UserId) (k : AccessKey) (changedBy : UserId) :
    createKey u k changedBy =
      single (createKeyError u) (.createKey u k changedBy) (firstRow readKey) >>= fun row =>
        Attempt.ofOutcome (row.elim (.error (ownsKey u)) KeyRow.record) := by
  refine congrArg (_ >>= ·) (funext fun row => ?_)
  cases row <;> rfl

theorem optionalRecord_some (k : KeyRow) (q : AccessKeyRecord) (h : k.record = .ok q) :
    ∃ v, optionalRecord (some k) = .ok v :=
  ⟨some q, congrArg (Except.map some) h⟩

/-! ### Grants -/

/-- The grant of a row with the capabilities that were read for it. -/
def GrantRow.linked (g : GrantRow) (links : List (GrantId × Capability)) : Grant :=
  g.withCapabilities (((groupByGrant links).find? g.id).getD [])

/-- The capabilities of one grant are read on a connection of their own. -/
theorem held_completed {g : GrantRow} {o : Outcome (Option Grant)} :
    (completed (some g)).run.Held ts o ↔
      (∃ f, ts = [⟨.acquire, .error f⟩] ∧ o = .error (failed "acquire database connection" f)) ∨
      ∃ reply, ts = [⟨.acquire, .ok ()⟩, ⟨.execute (.loadCapabilities [g.id]), reply⟩] ∧
        o = (reply >>= everyRow readLink).mapError loadError >>= fun links =>
          .ok (some (g.linked links)) := by
  -- with one grant to complete, the capabilities are asked for once, and one grant comes out
  have hcompleted : completed (some g) =
      Attempt.connect (failed "acquire database connection") >>= fun _ =>
        within loadError (.loadCapabilities [g.id]) (everyRow readLink) >>= fun links =>
          Attempt.ofOutcome (.ok (some (g.linked links))) := by
    change withCapabilities [g] >>= (fun grants => pure grants.head?) = _
    have hload : withCapabilities [g] =
        Attempt.connect (failed "acquire database connection") >>= fun _ =>
          within loadError (.loadCapabilities [g.id]) (everyRow readLink) >>= fun links =>
            pure (assemble [g] (groupByGrant links)) := rfl
    rw [hload]
    simp only [bind_assoc, pure_bind]
    rfl
  rw [hcompleted, Attempt.held_bind]
  constructor
  · rintro (⟨e, h, rfl⟩ | ⟨u, ts₁, ts₂, rfl, h, hlinks⟩)
    · obtain ⟨taken, rfl, he⟩ := Attempt.held_connect.1 h
      cases taken with
      | error f => exact .inl ⟨f, rfl, congrArg _ (Except.error.inj he)⟩
      | ok _ => cases he
    · obtain ⟨taken, rfl, hu⟩ := Attempt.held_connect.1 h
      obtain ⟨o', hwithin, rfl⟩ := Attempt.held_bind_ofOutcome.1 hlinks
      obtain ⟨reply, rfl, rfl⟩ := Attempt.held_within.1 hwithin
      cases taken with
      | error f => cases hu
      | ok _ => exact .inr ⟨reply, rfl, rfl⟩
  · rintro (⟨f, rfl, rfl⟩ | ⟨reply, rfl, rfl⟩)
    · exact .inl ⟨_, Attempt.held_connect.2 ⟨.error f, rfl, rfl⟩, rfl⟩
    · refine .inr ⟨(), [_], [_], rfl, Attempt.held_connect.2 ⟨.ok (), rfl, rfl⟩, ?_⟩
      exact Attempt.held_bind_ofOutcome.2 ⟨_, Attempt.held_within.2 ⟨reply, rfl, rfl⟩, rfl⟩

/-! ### Changes that are cut short -/

/-- The statement of a request that is answered with the row that it changed. -/
def change? : Request → Option Statement
  | .createKey u k changedBy => some (.createKey u k changedBy)
  | .rotateKey u k changedBy => some (.rotateKey u k changedBy)
  | .deleteKey u => some (.deleteKey u)
  | .forceRevokeGrant id revokedAt revokedBy => some (.forceRevokeGrant id revokedAt revokedBy)
  | _ => none

/-- **A change that is cut short**: it is acknowledged, and then its row cannot be read; or it is a
revocation, and no connection can be taken to read the capabilities of the grant, or these cannot be
read. -/
inductive CutShort : Request → List Turn → Prop where
  | keyUnread {r : Request} {s : Statement} {row : Row} {rows : List Row} {affected : Nat}
      {f : Fault} (hr : change? r = some s) (hs : s.changesKey = true)
      (h : readKey row = .error f) :
      CutShort r [⟨.acquire, .ok ()⟩, ⟨.execute s, .ok ⟨row :: rows, affected⟩⟩]
  | grantUnread {id : GrantId} {revokedAt : Instant} {revokedBy : UserId} {row : Row}
      {rows : List Row} {affected : Nat} {f : Fault} (h : readGrant row = .error f) :
      CutShort (.forceRevokeGrant id revokedAt revokedBy)
        [⟨.acquire, .ok ()⟩,
          ⟨.execute (.forceRevokeGrant id revokedAt revokedBy), .ok ⟨row :: rows, affected⟩⟩]
  | unconnected {id : GrantId} {revokedAt : Instant} {revokedBy : UserId} {row : Row}
      {rows : List Row} {affected : Nat} {g : GrantRow} (h : readGrant row = .ok g) (f : Fault) :
      CutShort (.forceRevokeGrant id revokedAt revokedBy)
        [⟨.acquire, .ok ()⟩,
          ⟨.execute (.forceRevokeGrant id revokedAt revokedBy), .ok ⟨row :: rows, affected⟩⟩,
          ⟨.acquire, .error f⟩]
  | unloaded {id : GrantId} {revokedAt : Instant} {revokedBy : UserId} {row : Row}
      {rows : List Row} {affected : Nat} {g : GrantRow} {f : Fault} {reply : Except Fault Result}
      (h : readGrant row = .ok g) (hlinks : (reply >>= everyRow readLink) = .error f) :
      CutShort (.forceRevokeGrant id revokedAt revokedBy)
        [⟨.acquire, .ok ()⟩,
          ⟨.execute (.forceRevokeGrant id revokedAt revokedBy), .ok ⟨row :: rows, affected⟩⟩,
          ⟨.acquire, .ok ()⟩, ⟨.execute (.loadCapabilities [g.id]), reply⟩]

namespace CutShort

variable {r : Request} {s : Statement} {id : GrantId} {revokedAt : Instant} {revokedBy : UserId}

theorem kept_eq (h : CutShort r ts) (hr : change? r = some s) : kept ts = [s] := by
  cases h with
  | keyUnread hr' hs =>
      cases hr.symm.trans hr'
      cases s <;> first | rfl | cases hs
  | grantUnread _ =>
      cases hr
      rfl
  | unconnected _ f =>
      cases hr
      rfl
  | @unloaded _ _ _ _ _ _ _ _ reply _ _ =>
      cases hr
      cases reply <;> rfl

theorem kept_ne_nil (h : CutShort r ts) : kept ts ≠ [] := by
  obtain ⟨s, hr⟩ : ∃ s, change? r = some s := by
    cases h with
    | keyUnread hr _ _ => exact ⟨_, hr⟩
    | _ => exact ⟨_, rfl⟩
  rw [h.kept_eq hr]
  exact List.cons_ne_nil _ _

theorem keyRowsHold (h : CutShort (.forceRevokeGrant id revokedAt revokedBy) ts) :
    KeyRowsHold ts := by
  intro s r hmem hs
  cases h with
  | keyUnread hr hs' =>
      cases hr
      cases hs'
  | grantUnread _ =>
      obtain ⟨rfl, -⟩ : s = .forceRevokeGrant id revokedAt revokedBy ∧ _ := by simpa using hmem
      cases hs
  | unconnected _ f =>
      obtain ⟨rfl, -⟩ : s = .forceRevokeGrant id revokedAt revokedBy ∧ _ := by simpa using hmem
      cases hs
  | @unloaded _ _ _ _ _ _ g _ _ _ _ =>
      obtain ⟨rfl, -⟩ | ⟨rfl, -⟩ : (s = .forceRevokeGrant id revokedAt revokedBy ∧ _) ∨
        s = .loadCapabilities [g.id] ∧ _ := by simpa using hmem
      · cases hs
      · cases hs

theorem held_of_unread {β : Type} {read : Row → Except Fault β} {row : Row} {rows : List Row}
    {affected : Nat} {f : Fault} (h : read row = .error f) (error : Fault → AppError)
    (k : Option β → Attempt α) :
    ∃ e, (single error s (firstRow read) >>= k).run.Held
      [⟨.acquire, .ok ()⟩, ⟨.execute s, .ok ⟨row :: rows, affected⟩⟩] (.error e) :=
  ⟨_, Attempt.held_bind.2 (.inl ⟨_, Attempt.held_firstRow.2 (.unread h), rfl⟩)⟩

theorem held (h : CutShort r ts) : ∃ e, (answer r).Held ts (.error e) := by
  cases h with
  | keyUnread hr hs h =>
      cases r with
      | createKey _ _ _ | rotateKey _ _ _ | deleteKey _ =>
          cases hr
          exact held_of_unread h _ _
      | forceRevokeGrant _ _ _ =>
          cases hr
          cases hs
      | _ => cases hr
  | grantUnread h => exact held_of_unread h _ _
  | unconnected h f =>
      exact ⟨_, Attempt.held_bind.2 (.inr ⟨_, [_, _], [_], rfl, Attempt.held_firstRow.2 (.found h),
        held_completed.2 (.inl ⟨f, rfl, rfl⟩)⟩)⟩
  | @unloaded _ _ _ _ _ _ _ f _ h hlinks =>
      refine ⟨loadError f, Attempt.held_bind.2 (.inr ⟨_, [_, _], [_, _], rfl,
        Attempt.held_firstRow.2 (.found h), held_completed.2 (.inr ⟨_, rfl, ?_⟩)⟩)⟩
      rw [hlinks]
      rfl

end CutShort

/-- A change of a key that fails keeps nothing or is cut short, as long as the rows hold keys. -/
theorem kept_of_key_change {r : Request} {s : Statement} {error : Fault → AppError}
    {f : Option KeyRow → Outcome α} (hr : change? r = some s) (hs : s.changesKey = true)
    (hf : ∀ k q, k.record = .ok q → ∃ v, f (some k) = .ok v) (hrows : KeyRowsHold ts)
    (h : (single error s (firstRow readKey) >>= fun row => Attempt.ofOutcome (f row)).run.Held ts
      (.error e)) :
    kept ts = [] ∨ CutShort r ts := by
  obtain ⟨o, hrow, ho⟩ := Attempt.held_bind_ofOutcome.1 h
  cases Attempt.held_firstRow.1 hrow with
  | unconnected _ => exact .inl rfl
  | refused _ => exact .inl rfl
  | absent _ => exact .inl (by cases s <;> first | rfl | cases hs)
  | unread hread => exact .inr (.keyUnread hr hs hread)
  | found hread =>
      -- the row was read, so only the key in it could be refused, and the rows hold keys
      obtain ⟨q, hq⟩ := (hrows.holdsKey hs).record hread
      obtain ⟨v, hv⟩ := hf _ q hq
      cases ho.trans hv

/-- A revocation answers with the grant, keeps nothing, or is cut short. -/
theorem kept_of_forceRevokeGrant {id : GrantId} {revokedAt : Instant} {revokedBy : UserId}
    {o : Outcome (Option Grant)} (h : (forceRevokeGrant id revokedAt revokedBy).run.Held ts o) :
    (∃ g, o = .ok (some g)) ∨ kept ts = [] ∨
      CutShort (.forceRevokeGrant id revokedAt revokedBy) ts := by
  obtain ⟨e', hrow, -⟩ | ⟨g, ts₁, ts₂, rfl, hrow, hgrant⟩ := Attempt.held_bind.1 h
  · cases Attempt.held_firstRow.1 hrow with
    | unconnected _ => exact .inr (.inl rfl)
    | refused _ => exact .inr (.inl rfl)
    | unread hread => exact .inr (.inr (.grantUnread hread))
  · cases Attempt.held_firstRow.1 hrow with
    | absent _ =>
        obtain ⟨rfl, -⟩ := hgrant
        exact .inr (.inl rfl)
    | found hread =>
        -- the revocation is acknowledged: all that is left are the capabilities
        obtain ⟨f, rfl, -⟩ | ⟨reply, rfl, rfl⟩ := held_completed.1 hgrant
        · exact .inr (.inr (.unconnected hread f))
        · cases hlinks : reply >>= everyRow readLink with
          | error f => exact .inr (.inr (.unloaded hread hlinks))
          | ok links => exact .inl ⟨_, rfl⟩

/-- The steps by which a grant is stored with its links and read back. -/
def storeGrant (d : Grant.Draft) (createdBy : UserId) : Attempt (List Grant) := do
  let g ← within (failed "create permission grant") (.insertGrant d createdBy) (oneRow readGrant)
  within (failed "persist permission grant capabilities")
    (.insertLinks g.id d.capabilityIds.toList) Attempt.ignored
  let links ← within loadError (.loadCapabilities [g.id]) (everyRow readLink)
  pure (assemble [g] (groupByGrant links))

theorem createGrant_eq (d : Grant.Draft) (createdBy : UserId) :
    createGrant d createdBy = Attempt.transaction (storeGrant d createdBy) >>= fun grants =>
      Attempt.ofOutcome (grants.head?.elim (.error vanished) .ok) := by
  refine congrArg (_ >>= ·) (funext fun grants => ?_)
  cases grants <;> rfl

theorem sends_storeGrant (d : Grant.Draft) (createdBy : UserId) : (storeGrant d createdBy).Sends :=
  .bind (.within _ _ _) fun _ => .bind (.within _ _ _) fun _ => .bind (.within _ _ _) fun _ =>
    .pure _

theorem head?_storeGrant {d : Grant.Draft} {createdBy : UserId} {grants : List Grant}
    (h : (storeGrant d createdBy).run.Held ts (.ok grants)) : ∃ g, grants.head? = some g := by
  obtain ⟨_, -, ho⟩ | ⟨g, _, _, -, -, h⟩ := Attempt.held_bind.1 h
  · cases ho
  obtain ⟨_, -, ho⟩ | ⟨_, _, _, -, -, h⟩ := Attempt.held_bind.1 h
  · cases ho
  obtain ⟨_, -, ho⟩ | ⟨links, _, _, -, -, h⟩ := Attempt.held_bind.1 h
  · cases ho
  obtain ⟨-, ho⟩ := h
  exact ⟨_, by rw [Except.ok.inj ho]; rfl⟩

/-- A grant that could not be stored leaves nothing behind. -/
theorem kept_of_createGrant {d : Grant.Draft} {createdBy : UserId}
    (h : (createGrant d createdBy).run.Held ts (.error e)) : kept ts = [] := by
  rw [createGrant_eq] at h
  obtain ⟨o, htransaction, ho⟩ := Attempt.held_bind_ofOutcome.1 h
  have hends := Attempt.held_transaction htransaction
  cases o with
  | error e' => exact hends.kept_of_error (sends_storeGrant d createdBy)
  | ok grants =>
      cases hends with
      | committed hsteps =>
          obtain ⟨g, hg⟩ := head?_storeGrant hsteps
          change Except.error e = grants.head?.elim (.error vanished) .ok at ho
          rw [hg] at ho
          cases ho

/-! ### Requests -/

/-- **A change that fails keeps nothing, unless it is cut short.** -/
theorem kept_of_held_error {r : Request} (hr : r.isChange = true) (hrows : KeyRowsHold ts)
    (h : (answer r).Held ts (.error e)) : kept ts = [] ∨ CutShort r ts := by
  cases r with
  | createKey u k changedBy =>
      change (createKey u k changedBy).run.Held ts _ at h
      rw [createKey_eq] at h
      exact kept_of_key_change rfl rfl (fun k q hq => ⟨q, hq⟩) hrows h
  | rotateKey u k changedBy => exact kept_of_key_change rfl rfl optionalRecord_some hrows h
  | deleteKey u => exact kept_of_key_change rfl rfl optionalRecord_some hrows h
  | createGrant d createdBy => exact .inl (kept_of_createGrant h)
  | forceRevokeGrant id revokedAt revokedBy =>
      obtain ⟨g, ho⟩ | hkept | hcut := kept_of_forceRevokeGrant h
      · cases ho
      · exact .inl hkept
      · exact .inr hcut
  | deleteInactiveGrant id =>
      obtain ⟨o, hsingle, ho⟩ := Attempt.held_bind_ofOutcome.1 h
      obtain ⟨f, rfl, -⟩ | ⟨reply, rfl, rfl⟩ := Attempt.held_single.1 hsingle
      · exact .inl rfl
      · cases reply with
        | error f => exact .inl rfl
        | ok r => cases ho
  | deactivateExpired today =>
      obtain ⟨f, rfl, -⟩ | ⟨reply, rfl, ho⟩ := Attempt.held_single.1 h
      · exact .inl rfl
      · cases reply with
        | error f => exact .inl rfl
        | ok r => cases ho
  | _ => cases hr

end Database

end TableAccess
