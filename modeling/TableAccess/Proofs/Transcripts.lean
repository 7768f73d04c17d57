/-
**Transcripts.**

What was asked in a dialogue and what was replied, in order, is its transcript.  A dialogue can be
held in many ways, one for each way in which the questions may be answered.  For commands to the
database this covers every sequence of replies: rows of any kind, refusals, and connections that
cannot be taken.

Main definitions:

* `Dialogue.Turn`, `Dialogue.Held` — a question with its answer, and the transcripts by which a
  dialogue can be held;
* `Database.Attempt.FirstRowEnds`, `Database.Attempt.TransactionEnds` — the ways in which a
  statement for one row and a transaction can end.

Main results:

* `Dialogue.held_bind` — a sequence is held one part after the other;
* `Dialogue.held_run` — every run is held by the transcript of it;
* `Attempt.held_firstRow`, `Attempt.held_transaction` — a statement alone, and several together.
-/
import TableAccess.Database.Answer

set_option relaxedAutoImplicit false
set_option autoImplicit false

namespace TableAccess

namespace Dialogue

variable {Q : Type} {A : Q → Type} {α β σ : Type}

/-! ### Held dialogues -/

/-- A question with the answer to it. -/
structure Turn (Q : Type) (A : Q → Type) where
  question : Q
  answer : A question

/-- The dialogue can be held in just these turns, and then ends with the value. -/
def Held : Dialogue Q A α → List (Turn Q A) → α → Prop
  | .done a, ts, b => ts = [] ∧ b = a
  | .ask q next, ts, b => ∃ r rest, ts = ⟨q, r⟩ :: rest ∧ (next r).Held rest b

variable {ts : List (Turn Q A)}

theorem held_query {q : Q} {r : A q} : (query q).Held ts r ↔ ts = [⟨q, r⟩] := by
  constructor
  · rintro ⟨r', rest, rfl, rfl, rfl⟩
    rfl
  · rintro rfl
    exact ⟨r, [], rfl, rfl, rfl⟩

/-- **A sequence is held one part after the other.** -/
theorem held_bind {d : Dialogue Q A α} {f : α → Dialogue Q A β} {b : β} :
    (d >>= f).Held ts b ↔ ∃ a ts₁ ts₂, ts = ts₁ ++ ts₂ ∧ d.Held ts₁ a ∧ (f a).Held ts₂ b := by
  induction d generalizing ts with
  | done a =>
      -- the first part takes no turn, so all of them are the second part's
      constructor
      · intro h
        exact ⟨a, [], ts, rfl, ⟨rfl, rfl⟩, h⟩
      · rintro ⟨a', ts₁, ts₂, rfl, ⟨rfl, rfl⟩, h⟩
        exact h
  | ask q next ih =>
      constructor
      · rintro ⟨r, rest, rfl, h⟩
        obtain ⟨a, ts₁, ts₂, rfl, h₁, h₂⟩ := (ih r).1 h
        exact ⟨a, ⟨q, r⟩ :: ts₁, ts₂, rfl, ⟨r, ts₁, rfl, h₁⟩, h₂⟩
      · rintro ⟨a, ts₁, ts₂, rfl, ⟨r, rest, rfl, h₁⟩, h₂⟩
        exact ⟨r, rest ++ ts₂, rfl, (ih r).2 ⟨a, rest, ts₂, rfl, h₁, h₂⟩⟩

/-- The turns of a dialogue with someone who answers from a state. -/
def turns (h : Handler Q A σ) : Dialogue Q A α → σ → List (Turn Q A)
  | .done _, _ => []
  | .ask q next, s => ⟨q, (h q s).1⟩ :: turns h (next (h q s).1) (h q s).2

/-- **Every run is held by its turns.** -/
theorem held_run (h : Handler Q A σ) (d : Dialogue Q A α) (s : σ) :
    d.Held (d.turns h s) (d.run h s).1 := by
  induction d generalizing s with
  | done a => exact ⟨rfl, rfl⟩
  | ask q next ih => exact ⟨_, _, rfl, ih _ _⟩

end Dialogue

namespace Database

/-- A command to the database with its reply. -/
abbrev Turn := Dialogue.Turn Command Command.Reply

namespace Attempt

variable {α β : Type} {ts : List Turn} {o : Outcome α}

/-! ### Commands that may fail -/

/-- A sequence ends with the first error, or goes on with the value. -/
theorem held_bind {x : Attempt β} {k : β → Attempt α} :
    (x >>= k).run.Held ts o ↔
      (∃ e, x.run.Held ts (.error e) ∧ o = .error e) ∨
      ∃ b ts₁ ts₂, ts = ts₁ ++ ts₂ ∧ x.run.Held ts₁ (.ok b) ∧ (k b).run.Held ts₂ o := by
  rw [ExceptT.run_bind, Dialogue.held_bind]
  constructor
  · rintro ⟨e | b, ts₁, ts₂, rfl, h₁, h₂⟩
    · obtain ⟨rfl, rfl⟩ := h₂
      exact .inl ⟨e, by rwa [List.append_nil], rfl⟩
    · exact .inr ⟨b, ts₁, ts₂, rfl, h₁, h₂⟩
  · rintro (⟨e, h, rfl⟩ | ⟨b, ts₁, ts₂, rfl, h₁, h₂⟩)
    · exact ⟨.error e, ts, [], (List.append_nil ts).symm, h, rfl, rfl⟩
    · exact ⟨.ok b, ts₁, ts₂, rfl, h₁, h₂⟩

theorem held_bind_ofOutcome {x : Attempt β} {f : β → Outcome α} :
    (x >>= fun b => ofOutcome (f b)).run.Held ts o ↔ ∃ o', x.run.Held ts o' ∧ o = o' >>= f := by
  rw [held_bind]
  constructor
  · rintro (⟨e, h, rfl⟩ | ⟨b, ts₁, ts₂, rfl, h, rfl, rfl⟩)
    · exact ⟨.error e, h, rfl⟩
    · exact ⟨.ok b, by rwa [List.append_nil], rfl⟩
  · rintro ⟨e | b, h, rfl⟩
    · exact .inl ⟨e, h, rfl⟩
    · exact .inr ⟨b, ts, [], (List.append_nil ts).symm, h, rfl, rfl⟩

variable {error : Fault → AppError} {s : Statement} {read : Result → Except Fault α}

theorem held_connect {o : Outcome Unit} :
    (connect error).run.Held ts o ↔
      ∃ taken, ts = [⟨.acquire, taken⟩] ∧ o = taken.mapError error := by
  refine Dialogue.held_bind.trans ⟨?_, ?_⟩
  · rintro ⟨taken, ts₁, ts₂, rfl, h, rfl, rfl⟩
    exact ⟨taken, by rw [Dialogue.held_query.1 h, List.append_nil], rfl⟩
  · rintro ⟨taken, rfl, rfl⟩
    exact ⟨taken, _, [], rfl, Dialogue.held_query.2 rfl, rfl, rfl⟩

/-- A statement on the connection at hand is one turn. -/
theorem held_within :
    (within error s read).run.Held ts o ↔
      ∃ reply, ts = [⟨.execute s, reply⟩] ∧ o = (reply >>= read).mapError error := by
  refine Dialogue.held_bind.trans ⟨?_, ?_⟩
  · rintro ⟨reply, ts₁, ts₂, rfl, h, rfl, rfl⟩
    exact ⟨reply, by rw [Dialogue.held_query.1 h, List.append_nil], rfl⟩
  · rintro ⟨reply, rfl, rfl⟩
    exact ⟨reply, _, [], rfl, Dialogue.held_query.2 rfl, rfl, rfl⟩

/-- A statement at the head of a sequence: it is refused or its rows cannot be read, or the sequence
goes on with what was read. -/
theorem held_within_bind {k : α → Attempt β} {o : Outcome β} :
    (within error s read >>= k).run.Held ts o ↔
      ∃ reply rest, ts = ⟨.execute s, reply⟩ :: rest ∧
        ((∃ f, reply >>= read = .error f ∧ rest = [] ∧ o = .error (error f)) ∨
          ∃ a, reply >>= read = .ok a ∧ (k a).run.Held rest o) := by
  rw [held_bind]
  constructor
  · rintro (⟨e, h, rfl⟩ | ⟨a, ts₁, rest, rfl, h, hk⟩)
    · obtain ⟨reply, rfl, he⟩ := held_within.1 h
      refine ⟨reply, [], rfl, .inl ?_⟩
      cases hread : reply >>= read with
      | error f =>
          rw [hread] at he
          exact ⟨f, rfl, rfl, congrArg Except.error (Except.error.inj he)⟩
      | ok a =>
          rw [hread] at he
          cases he
    · obtain ⟨reply, rfl, ha⟩ := held_within.1 h
      refine ⟨reply, rest, rfl, .inr ⟨a, ?_, hk⟩⟩
      cases hread : reply >>= read with
      | error f =>
          rw [hread] at ha
          cases ha
      | ok a' =>
          rw [hread] at ha
          exact congrArg Except.ok (Except.ok.inj ha).symm
  · rintro ⟨reply, rest, rfl, ⟨f, hread, rfl, rfl⟩ | ⟨a, hread, hk⟩⟩
    · exact .inl ⟨_, held_within.2 ⟨reply, rfl, by rw [hread]; rfl⟩, rfl⟩
    · exact .inr ⟨a, [_], rest, rfl, held_within.2 ⟨reply, rfl, by rw [hread]; rfl⟩, hk⟩

/-- **A statement alone**: no connection can be taken, or the statement is sent on the one taken. -/
theorem held_single :
    (single error s read).run.Held ts o ↔
      (∃ f, ts = [⟨.acquire, .error f⟩] ∧ o = .error (error f)) ∨
      ∃ reply, ts = [⟨.acquire, .ok ()⟩, ⟨.execute s, reply⟩] ∧
        o = (reply >>= read).mapError error := by
  refine Dialogue.held_bind.trans ⟨?_, ?_⟩
  · rintro ⟨reply, ts₁, ts₂, rfl, ⟨f | _, rest, rfl, h⟩, rfl, rfl⟩
    · obtain ⟨rfl, rfl⟩ := h
      exact .inl ⟨f, rfl, rfl⟩
    · obtain rfl := Dialogue.held_query.1 h
      exact .inr ⟨reply, rfl, rfl⟩
  · rintro (⟨f, rfl, rfl⟩ | ⟨reply, rfl, rfl⟩)
    · exact ⟨.error f, _, [], rfl, ⟨.error f, [], rfl, rfl, rfl⟩, rfl, rfl⟩
    · exact ⟨reply, _, [], rfl, ⟨.ok (), _, rfl, Dialogue.held_query.2 rfl⟩, rfl, rfl⟩

/-- The ways in which a statement for one row can end: there is no connection, the statement is
refused, there is no row, the row cannot be read, or it is read. -/
inductive FirstRowEnds (error : Fault → AppError) (s : Statement) (read : Row → Except Fault α) :
    List Turn → Outcome (Option α) → Prop where
  | unconnected (f : Fault) :
      FirstRowEnds error s read [⟨.acquire, .error f⟩] (.error (error f))
  | refused (f : Fault) :
      FirstRowEnds error s read [⟨.acquire, .ok ()⟩, ⟨.execute s, .error f⟩] (.error (error f))
  | absent (affected : Nat) :
      FirstRowEnds error s read [⟨.acquire, .ok ()⟩, ⟨.execute s, .ok ⟨[], affected⟩⟩] (.ok none)
  | unread {row : Row} {rows : List Row} {affected : Nat} {f : Fault} (h : read row = .error f) :
      FirstRowEnds error s read
        [⟨.acquire, .ok ()⟩, ⟨.execute s, .ok ⟨row :: rows, affected⟩⟩] (.error (error f))
  | found {row : Row} {rows : List Row} {affected : Nat} {a : α} (h : read row = .ok a) :
      FirstRowEnds error s read
        [⟨.acquire, .ok ()⟩, ⟨.execute s, .ok ⟨row :: rows, affected⟩⟩] (.ok (some a))

/-- **A statement for one row ends in one of these ways.** -/
theorem held_firstRow {read : Row → Except Fault α} {o : Outcome (Option α)} :
    (single error s (firstRow read)).run.Held ts o ↔ FirstRowEnds error s read ts o := by
  rw [held_single]
  constructor
  · rintro (⟨f, rfl, rfl⟩ | ⟨reply, rfl, rfl⟩)
    · exact .unconnected f
    · rcases reply with f | ⟨_ | ⟨row, rows⟩, affected⟩
      · exact .refused f
      · exact .absent affected
      · change FirstRowEnds error s read _ (((read row).map some).mapError error)
        cases hrow : read row with
        | error f => exact .unread hrow
        | ok a => exact .found hrow
  · intro h
    cases h with
    | unconnected f => exact .inl ⟨f, rfl, rfl⟩
    | refused f => exact .inr ⟨.error f, rfl, rfl⟩
    | absent affected => exact .inr ⟨_, rfl, rfl⟩
    | unread h => exact .inr ⟨_, rfl, congrArg (fun x => (x.map some).mapError error) h.symm⟩
    | found h => exact .inr ⟨_, rfl, congrArg (fun x => (x.map some).mapError error) h.symm⟩

/-! ### Transactions -/

/-- The ways in which a transaction can end: there is no connection, it cannot be begun, one of its
steps fails, its end is not acknowledged, or it is committed. -/
inductive TransactionEnds (steps : Attempt α) : List Turn → Outcome α → Prop where
  | unconnected (f : Fault) :
      TransactionEnds steps [⟨.acquire, .error f⟩] (.error (failed "begin transaction" f))
  | unbegun (f : Fault) :
      TransactionEnds steps [⟨.acquire, .ok ()⟩, ⟨.begin, .error f⟩]
        (.error (failed "begin transaction" f))
  | givenUp {ts : List Turn} {e : AppError} (h : steps.run.Held ts (.error e)) :
      TransactionEnds steps
        (⟨.acquire, .ok ()⟩ :: ⟨.begin, .ok ()⟩ :: (ts ++ [⟨.rollback, ()⟩])) (.error e)
  | unacknowledged {ts : List Turn} {a : α} (h : steps.run.Held ts (.ok a)) (f : Fault) :
      TransactionEnds steps
        (⟨.acquire, .ok ()⟩ :: ⟨.begin, .ok ()⟩ ::
          (ts ++ [⟨.commit, .error f⟩, ⟨.rollback, ()⟩]))
        (.error (failed "commit transaction" f))
  | committed {ts : List Turn} {a : α} (h : steps.run.Held ts (.ok a)) :
      TransactionEnds steps
        (⟨.acquire, .ok ()⟩ :: ⟨.begin, .ok ()⟩ :: (ts ++ [⟨.commit, .ok ()⟩])) (.ok a)

theorem held_giveUp {e : AppError} :
    (giveUp e : Exchange (Outcome α)).Held ts o ↔ ts = [⟨.rollback, ()⟩] ∧ o = .error e := by
  constructor
  · rintro ⟨_, _, rfl, rfl, rfl⟩
    exact ⟨rfl, rfl⟩
  · rintro ⟨rfl, rfl⟩
    exact ⟨(), [], rfl, rfl, rfl⟩

/-- **A transaction ends in one of these ways.** -/
theorem held_transaction {steps : Attempt α} (h : (transaction steps).run.Held ts o) :
    TransactionEnds steps ts o := by
  -- the connection is taken, the transaction is begun, and its steps come next
  obtain ⟨f | _, rest, rfl, h⟩ := h
  · obtain ⟨rfl, rfl⟩ := h
    exact .unconnected f
  obtain ⟨f | _, rest, rfl, h⟩ := h
  · obtain ⟨rfl, rfl⟩ := h
    exact .unbegun f
  change (steps.run >>= _).Held rest o at h
  obtain ⟨e | a, ts₁, ts₂, rfl, hsteps, hend⟩ := Dialogue.held_bind.1 h
  · obtain ⟨rfl, rfl⟩ := held_giveUp.1 hend
    exact .givenUp hsteps
  -- no step failed: the transaction is committed, or given up when this is refused
  obtain ⟨f | _, rest, rfl, hend⟩ := hend
  · obtain ⟨rfl, rfl⟩ := held_giveUp.1 hend
    exact .unacknowledged hsteps f
  · obtain ⟨rfl, rfl⟩ := hend
    exact .committed hsteps

end Attempt

end Database

end TableAccess
