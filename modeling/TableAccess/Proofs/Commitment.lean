/-
**When a call takes effect.**

What a grant service saw of the store may be out of date by the time it changes the store.  Still
each call can be said to take effect at one moment: with one of its own requests, or, for a
revocation whose grant is deleted under its hands, just before that deletion.  At that moment it
does what it would do if it were the only one, and whatever it asks for afterwards changes nothing
and leads to the same end.

Main definitions:

* `Settled` — a call has taken effect, and its end is certain;
* `Underway` — a call has begun and has still to take effect;
* `Begins` — the first request of a call, whatever the store is by then.

Main results:

* `Settled.mono`, `Underway.mono` — what others do meanwhile does not matter;
* `Underway.advances`, `Underway.lost` — the next request, and a revocation that comes too late;
* `Underway.run` — a call that is left alone from now on ends as it would have at once.
-/
import TableAccess.Proofs.AtOnce

set_option relaxedAutoImplicit false
set_option autoImplicit false

namespace TableAccess

/-! ### Calls that have taken effect, and calls that have not -/

section Commitment

variable {α : Type}

/-- What the answer to a conditional change announces about the end of the call: a revocation that
finds no active grant is an invalid transition, and a deletion that finds nothing to delete finds no
grant. -/
def Honours : (r : Request) → r.Answer → Except ErrorKind α → Prop
  | .forceRevokeGrant .., a, o => a = .ok none → o = .error .invalidStateTransition
  | .deleteInactiveGrant _, a, o => a = .ok false → o = .error .notFound
  | _, _, _ => True

theorem honours_of_reads {r : Request} (hr : r.changes? = none) (a : r.Answer)
    (o : Except ErrorKind α) : Honours r a o := by
  cases r <;> first | exact trivial | cases hr

/-- The call has taken effect: whatever later store answers its requests, they change nothing but
the audit log, and the call ends in the given way. -/
def Settled (o : Except ErrorKind α) : Program α → Store → Prop
  | .done v, _ => Outcome.ending v = o
  | .ask r next, s => ∀ t : Store, t.WellFiled → s.Later t → ∀ now,
      (t.answer now r).2.withoutLog = t.withoutLog ∧ Honours r (t.answer now r).1 o ∧
        Settled o (next (t.answer now r).1) (t.answer now r).2

/-- Answering a request is the moment at which the call takes effect: the store becomes what the
call would make of it if it were alone, and the end of the call is certain from then on. -/
def Commits (lifetimeDays : Nat) (clock : Instant) (g : GrantService) (r : Request)
    (next : r.Answer → Program g.Value) (s : Store) (now : Instant) : Prop :=
  (s.answer now r).2.withoutLog = (g.atOnce lifetimeDays clock s).2.withoutLog ∧
    Honours r (s.answer now r).1 (g.atOnce lifetimeDays clock s).1 ∧
      Settled (g.atOnce lifetimeDays clock s).1 (next (s.answer now r).1) (s.answer now r).2

/-- The call has begun and has still to take effect: whatever later store answers its next request,
either this only reads and the call goes on, or the call takes effect.  If the grant of a revocation
is gone by then, the revocation can only end as an invalid transition. -/
def Underway (lifetimeDays : Nat) (clock : Instant) (g : GrantService) :
    Program g.Value → Store → Prop
  | .done _, _ => False
  | .ask r next, s =>
      (∀ t : Store, t.WellFiled → s.Later t → g.Watches t → ∀ now,
        (r.changes? = none ∧ Underway lifetimeDays clock g (next (t.answer now r).1) t) ∨
          Commits lifetimeDays clock g r next t now) ∧
      (∀ t : Store, t.WellFiled → s.Later t → ¬ g.Watches t →
        Settled (.error .invalidStateTransition) (.ask r next) t)

/-- One answer, after which the call is underway or has taken effect. -/
def Advances (lifetimeDays : Nat) (clock : Instant) (g : GrantService) (r : Request)
    (next : r.Answer → Program g.Value) (s : Store) (now : Instant) : Prop :=
  (r.changes? = none ∧ g.Watches s ∧
    Underway lifetimeDays clock g (next (s.answer now r).1) s) ∨
      Commits lifetimeDays clock g r next s now

/-- The call has not begun: whatever the store is when its first request arrives, it advances. -/
def Begins (lifetimeDays : Nat) (clock : Instant) (g : GrantService) : Program g.Value → Prop
  | .done _ => False
  | .ask r next => ∀ s : Store, s.WellFiled → ∀ now, Advances lifetimeDays clock g r next s now

variable {lifetimeDays : Nat} {clock : Instant} {g : GrantService} {o : Except ErrorKind α}
  {s t : Store}

theorem Settled.mono {d : Program α} (h : Settled o d s) (hlater : s.Later t) : Settled o d t := by
  cases d with
  | done v => exact h
  | ask r next => exact fun u hu htu => h u hu (hlater.trans htu)

theorem Underway.mono {d : Program g.Value} (h : Underway lifetimeDays clock g d s)
    (hlater : s.Later t) : Underway lifetimeDays clock g d t := by
  cases d with
  | done v => exact h
  | ask r next =>
      obtain ⟨hgoes, hlost⟩ := h
      exact ⟨fun u hu htu => hgoes u hu (hlater.trans htu),
        fun u hu htu => hlost u hu (hlater.trans htu)⟩

theorem Underway.advances {r : Request} {next : r.Answer → Program g.Value}
    (h : Underway lifetimeDays clock g (.ask r next) s) (hs : s.WellFiled) (hwatches : g.Watches s)
    (now : Instant) : Advances lifetimeDays clock g r next s now := by
  obtain ⟨hreads, hnext⟩ | hcommits := h.1 s hs (.refl s) hwatches now
  · exact .inl ⟨hreads, hwatches, hnext⟩
  · exact .inr hcommits

/-- A revocation whose grant is gone can only end as an invalid transition. -/
theorem Underway.lost {d : Program g.Value} (h : Underway lifetimeDays clock g d s)
    (ht : t.WellFiled) (hlater : s.Later t) (hlost : ¬ g.Watches t) :
    Settled (.error .invalidStateTransition) d t := by
  cases d with
  | done v => exact h.elim
  | ask r next => exact h.2 t ht hlater hlost

/-- A call that watches no grant is underway as long as it goes on whatever the store is. -/
theorem underway_of_unwatched {r : Request} {next : r.Answer → Program g.Value}
    (hg : g.watched? = none)
    (h : ∀ t : Store, t.WellFiled → s.Later t → ∀ now,
      (r.changes? = none ∧ Underway lifetimeDays clock g (next (t.answer now r).1) t) ∨
        Commits lifetimeDays clock g r next t now) :
    Underway lifetimeDays clock g (.ask r next) s := by
  exact ⟨fun t ht hlater _ now => h t ht hlater now,
    fun t _ _ hlost => absurd (.of_unwatched hg) hlost⟩

theorem settled_of_reads {r : Request} {next : r.Answer → Program α} (hr : r.changes? = none)
    (h : ∀ t : Store, t.WellFiled → s.Later t → ∀ now, Settled o (next (t.answer now r).1) t) :
    Settled o (.ask r next) s := by
  intro t ht hlater now
  rw [Store.answer_of_reads hr]
  exact ⟨rfl, honours_of_reads hr _ o, h t ht hlater now⟩

theorem commits_of_reads {r : Request} {next : r.Answer → Program g.Value} {now : Instant}
    {o : Except ErrorKind g.Value} (hr : r.changes? = none)
    (hatOnce : g.atOnce lifetimeDays clock s = (o, s)) (h : Settled o (next (s.answer now r).1) s) :
    Commits lifetimeDays clock g r next s now := by
  rw [Commits, hatOnce, Store.answer_of_reads hr]
  exact ⟨rfl, honours_of_reads hr _ o, h⟩

/-! ### Calls that are left alone from now on -/

variable {wall : Instant}

theorem Settled.run {o : Except ErrorKind α} {d : Program α} (h : Settled o d s)
    (hs : s.WellFiled) :
    Outcome.ending (d.run (Store.answer wall) s).1 = o ∧
      (d.run (Store.answer wall) s).2.withoutLog = s.withoutLog := by
  induction d generalizing s with
  | done v => exact ⟨h, rfl⟩
  | ask r next ih =>
      obtain ⟨hkept, -, hnext⟩ := h s hs (.refl s) wall
      obtain ⟨hending, hstore⟩ := ih _ hnext (hs.answer wall r)
      exact ⟨hending, hstore.trans hkept⟩

theorem Commits.run {r : Request} {next : r.Answer → Program g.Value}
    (h : Commits lifetimeDays clock g r next s wall) (hs : s.WellFiled) :
    Outcome.ending ((Dialogue.ask r next).run (Store.answer wall) s).1 =
        (g.atOnce lifetimeDays clock s).1 ∧
      ((Dialogue.ask r next).run (Store.answer wall) s).2.withoutLog =
        (g.atOnce lifetimeDays clock s).2.withoutLog := by
  obtain ⟨hstore, -, hsettled⟩ := h
  obtain ⟨hending, hkept⟩ := hsettled.run (hs.answer wall r)
  exact ⟨hending, hkept.trans hstore⟩

theorem Underway.run {d : Program g.Value} (h : Underway lifetimeDays clock g d s)
    (hs : s.WellFiled) (hwatches : g.Watches s) :
    Outcome.ending (d.run (Store.answer wall) s).1 = (g.atOnce lifetimeDays clock s).1 ∧
      (d.run (Store.answer wall) s).2.withoutLog =
        (g.atOnce lifetimeDays clock s).2.withoutLog := by
  induction d with
  | done v => exact h.elim
  | ask r next ih =>
      obtain ⟨hreads, hnext⟩ | hcommits := h.1 s hs (.refl s) hwatches wall
      · rw [Dialogue.run_ask, Store.answer_of_reads hreads]
        exact ih _ hnext
      · exact hcommits.run hs

end Commitment

end TableAccess
