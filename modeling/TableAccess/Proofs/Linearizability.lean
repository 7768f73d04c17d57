/-
**Calls side by side are calls one after the other.**

However the requests of several calls of the grant services are mixed, there is an order of the
whole calls that ends in the same store and gives each call the same end, and in which a call that
was over before another began comes before it.  The order is that of the moments at which the calls
take effect.  It is found while the calls run: a call is put at its end when it takes effect, and a
deletion first lets the revocations take effect whose grant it takes away.

Main definitions:

* `Session.EndsWith` — the ends of whole calls that come one after the other;
* `Session.Simulates` — an order of the calls that have taken effect explains what happened so far.

Main results:

* `Session.Simulates.step` — an order that explains what happened can be continued;
* `Session.linearizable` — calls side by side are calls one after the other.
-/
import Mathlib.Data.List.FinRange
import TableAccess.Proofs.GrantCalls

set_option relaxedAutoImplicit false
set_option autoImplicit false

namespace TableAccess

namespace Session

variable {n : Nat} {σ : Session n} {wall : Instant}

/-- Some of the calls, each once. -/
theorem exists_nodup_list (P : Fin n → Prop) :
    ∃ l : List (Fin n), l.Nodup ∧ ∀ k, k ∈ l ↔ P k := by
  classical
  exact ⟨(List.finRange n).filter P, (List.nodup_finRange n).filter _, by simp⟩

/-! ### The ends of calls in an order -/

def atOnce (σ : Session n) (i : Fin n) (s : Store) :
    Except ErrorKind (σ.service i).Value × Store :=
  (σ.service i).atOnce σ.lifetimeDays (σ.caller i).clock s

/-- Whole calls come one after the other, and something holds of each and its end. -/
def EndsWith (σ : Session n) (wall : Instant)
    (P : (i : Fin n) → Except ErrorKind (σ.service i).Value → Prop) : List (Fin n) → Store → Prop
  | [], _ => True
  | i :: order, s => P i (σ.atOnce i s).1 ∧ EndsWith σ wall P order (σ.alone wall i s).2

section EndsWith

variable {P Q : (i : Fin n) → Except ErrorKind (σ.service i).Value → Prop} {s : Store}
  {order order' : List (Fin n)}

theorem endsWith_append :
    σ.EndsWith wall P (order ++ order') s ↔
      σ.EndsWith wall P order s ∧ σ.EndsWith wall P order' (σ.inOrder wall order s) := by
  induction order generalizing s with
  | nil => simp [EndsWith]
  | cons i order ih => rw [List.cons_append, EndsWith, EndsWith, ih, and_assoc, inOrder_cons]

theorem EndsWith.mono (h : σ.EndsWith wall P order s) (hPQ : ∀ i ∈ order, ∀ o, P i o → Q i o) :
    σ.EndsWith wall Q order s := by
  induction order generalizing s with
  | nil => trivial
  | cons i order ih =>
      exact ⟨hPQ i (List.mem_cons_self ..) _ h.1,
        ih h.2 fun j hj => hPQ j (List.mem_cons_of_mem i hj)⟩

theorem EndsWith.of_eq_append (h : σ.EndsWith wall P order s) {before after : List (Fin n)}
    {i : Fin n} (horder : order = before ++ i :: after) :
    P i (σ.atOnce i (σ.inOrder wall before s)).1 := by
  subst horder
  exact (endsWith_append.1 h).2.1

end EndsWith

theorem alone_eq_atOnce (σ : Session n) (wall : Instant) (i : Fin n) {s : Store}
    (hs : s.WellFiled) :
    Outcome.ending (σ.alone wall i s).1 = (σ.atOnce i s).1 ∧
      (σ.alone wall i s).2.withoutLog = (σ.atOnce i s).2.withoutLog :=
  (σ.caller i).alone_eq_atOnce hs

/-- Calls that would change nothing and all end alike can come one after the other. -/
theorem endsWith_of_unchanged {kind : ErrorKind} {lost : List (Fin n)} {s t : Store}
    (hlost : ∀ i ∈ lost, σ.atOnce i s = (.error kind, s)) (ht : t.WellFiled)
    (hst : t.withoutLog = s.withoutLog) :
    σ.EndsWith wall (fun _ o => o = .error kind) lost t ∧
      (σ.inOrder wall lost t).withoutLog = s.withoutLog := by
  -- induction on the calls: each leaves the store to the next one as it found it
  induction lost generalizing t with
  | nil => exact ⟨trivial, hst⟩
  | cons i lost ih =>
      have hi : σ.atOnce i s = (.error kind, s) := hlost i (List.mem_cons_self ..)
      obtain ⟨hend, hstore⟩ : (σ.atOnce i t).1 = (σ.atOnce i s).1 ∧
          (σ.atOnce i t).2.withoutLog = (σ.atOnce i s).2.withoutLog :=
        GrantService.atOnce_congr hst
      rw [hi] at hend hstore
      obtain ⟨hrest, hlast⟩ := ih (fun j hj => hlost j (List.mem_cons_of_mem i hj))
        (Caller.later_alone σ.lifetimeDays wall (σ.caller i) (σ.service i) ht).2
        ((σ.alone_eq_atOnce wall i ht).2.trans hstore)
      exact ⟨⟨hend, hrest⟩, hlast⟩

/-! ### An order that explains what happened -/

/-- What is known of a call that has taken effect: how it will end, and that the answers to its
requests announced no other end. -/
def Explained (es : List (Event n)) (p : Pool σ) (i : Fin n)
    (o : Except ErrorKind (σ.service i).Value) : Prop :=
  Settled o (p.threads i) p.store ∧ ∀ e ∈ es, e.caller = i → Honours e.request e.answer o

/-- An order of the calls that have taken effect explains what happened so far: as far as everything
but the audit log is concerned the store is what they would have made of it one after the other, and
they will end as they would have ended so. -/
structure Simulates (σ : Session n) (wall : Instant) (s : Store) (es : List (Event n)) (p : Pool σ)
    (order : List (Fin n)) : Prop where
  wellFiled : p.store.WellFiled
  store : p.store.withoutLog = (σ.inOrder wall order s).withoutLog
  nodup : order.Nodup
  begun : ∀ i ∈ order, Begun es i
  fresh : ∀ i, ¬ Begun es i → p.threads i = (σ.caller i).program σ.lifetimeDays (σ.service i)
  underway : ∀ i, Begun es i → i ∉ order →
    Underway σ.lifetimeDays (σ.caller i).clock (σ.service i) (p.threads i) p.store ∧
      (σ.service i).Watches p.store
  reading : ∀ e ∈ es, e.caller ∉ order → e.request.changes? = none
  explained : σ.EndsWith wall (Explained es p) order s
  realTime : ∀ i j, (∃ v, p.threads i = .done v) → j ∈ order → Precedes es i j →
    [i, j].Sublist order

namespace Simulates

variable {s : Store} {es : List (Event n)} {p : Pool σ} {order : List (Fin n)}

/-- In the beginning the empty order explains everything. -/
theorem start (σ : Session n) (wall : Instant) {s : Store} (hs : s.WellFiled) :
    σ.Simulates wall s [] (Pool.start σ s) [] where
  wellFiled := hs
  store := rfl
  nodup := List.nodup_nil
  begun := by
    intro i hi
    cases hi
  fresh := fun _ _ => rfl
  underway := by
    rintro i ⟨e, he, -⟩
    cases he
  reading := by
    intro e he
    cases he
  explained := trivial
  realTime := by
    intro i j _ hj
    cases hj

/-- A call that has answered all its requests has taken effect. -/
theorem mem_of_done (h : σ.Simulates wall s es p order) {i : Fin n}
    (hdone : ∃ v, p.threads i = .done v) : i ∈ order := by
  obtain ⟨v, hv⟩ := hdone
  by_contra hi
  by_cases hbegun : Begun es i
  · have hunderway := (h.underway i hbegun hi).1
    rw [hv] at hunderway
    exact hunderway
  · have hbegins := (σ.caller i).begins σ.lifetimeDays (σ.service i)
    rw [← h.fresh i hbegun, hv] at hbegins
    exact hbegins

/-- A call that has not taken effect advances with the next answer. -/
theorem advances (h : σ.Simulates wall s es p order) {i : Fin n} (hi : i ∉ order) {r : Request}
    {next : r.Answer → Program (σ.service i).Value} (hthread : p.threads i = .ask r next)
    (now : Instant) :
    Advances σ.lifetimeDays (σ.caller i).clock (σ.service i) r next p.store now := by
  by_cases hbegun : Begun es i
  · obtain ⟨hunderway, hwatches⟩ := h.underway i hbegun hi
    rw [hthread] at hunderway
    exact hunderway.advances h.wellFiled hwatches now
  · have hbegins := (σ.caller i).begins σ.lifetimeDays (σ.service i)
    rw [← h.fresh i hbegun, hthread] at hbegins
    exact hbegins p.store h.wellFiled now

/-! ### One more answer -/

section Step

variable {i : Fin n} {r : Request} {next : r.Answer → Program (σ.service i).Value} {now : Instant}

theorem explained_self {d : Program (σ.service i).Value} {o : Except ErrorKind (σ.service i).Value}
    (hsettled : Settled o d (p.store.answer now r).2)
    (hhonours : Honours r (p.store.answer now r).1 o)
    (hbefore : ∀ e ∈ es, e.caller = i → Honours e.request e.answer o) :
    Explained (es ++ [⟨i, p.store, now, r⟩])
      ⟨(p.store.answer now r).2, Function.update p.threads i d⟩ i o := by
  constructor
  · dsimp only
    rw [Function.update_self]
    exact hsettled
  · intro e he hcaller
    obtain he | he := List.mem_append.1 he
    · exact hbefore e he hcaller
    · cases List.mem_singleton.1 he
      exact hhonours

theorem explained_other {k : Fin n} {d : Program (σ.service i).Value}
    {o : Except ErrorKind (σ.service k).Value} (hk : k ≠ i)
    (hsettled : Settled o (p.threads k) (p.store.answer now r).2)
    (hbefore : ∀ e ∈ es, e.caller = k → Honours e.request e.answer o) :
    Explained (es ++ [⟨i, p.store, now, r⟩])
      ⟨(p.store.answer now r).2, Function.update p.threads i d⟩ k o := by
  constructor
  · dsimp only
    rw [Function.update_of_ne hk]
    exact hsettled
  · intro e he hcaller
    obtain he | he := List.mem_append.1 he
    · exact hbefore e he hcaller
    · cases List.mem_singleton.1 he
      exact absurd hcaller.symm hk

theorem explained_of_ne {k : Fin n} {d : Program (σ.service i).Value}
    {o : Except ErrorKind (σ.service k).Value} (hk : k ≠ i) (h : Explained es p k o) :
    Explained (es ++ [⟨i, p.store, now, r⟩])
      ⟨(p.store.answer now r).2, Function.update p.threads i d⟩ k o :=
  explained_other hk (h.1.mono (p.store.later_answer now r)) h.2

/-- The order is continued with the calls that take effect now, if there are any.  Nothing needs to
be said about calls that wait and whose grant is still there. -/
theorem extend (h : σ.Simulates wall s es p order) {d : Program (σ.service i).Value}
    {order' later : List (Fin n)} (horder : order' = order ++ later)
    (hstore : (p.store.answer now r).2.withoutLog = (σ.inOrder wall order' s).withoutLog)
    (hnodup : order'.Nodup) (hlater : ∀ j ∈ later, j = i ∨ Begun es j)
    (hwatches : ∀ k, k ≠ i → Begun es k → k ∉ order' →
      (σ.service k).Watches (p.store.answer now r).2)
    (hself : i ∉ order' → r.changes? = none ∧
      Underway σ.lifetimeDays (σ.caller i).clock (σ.service i) d (p.store.answer now r).2 ∧
        (σ.service i).Watches (p.store.answer now r).2)
    (hexplained : σ.EndsWith wall (Explained (es ++ [⟨i, p.store, now, r⟩])
      ⟨(p.store.answer now r).2, Function.update p.threads i d⟩) order' s) :
    σ.Simulates wall s (es ++ [⟨i, p.store, now, r⟩])
      ⟨(p.store.answer now r).2, Function.update p.threads i d⟩ order' := by
  have hmem : ∀ j, j ∉ order' → j ∉ order := by
    intro j hj hin
    rw [horder] at hj
    exact hj (List.mem_append_left _ hin)
  have hbegun : ∀ j ∈ order', Begun (es ++ [⟨i, p.store, now, r⟩]) j := by
    intro j hj
    rw [horder] at hj
    obtain hj | hj := List.mem_append.1 hj
    · exact begun_snoc.2 (.inl (h.begun j hj))
    · obtain rfl | hj := hlater j hj
      · exact begun_snoc.2 (.inr rfl)
      · exact begun_snoc.2 (.inl hj)
  refine ⟨h.wellFiled.answer now r, hstore, hnodup, hbegun, ?_, ?_, ?_, hexplained, ?_⟩
  · intro k hk
    rw [begun_snoc, not_or] at hk
    dsimp only
    rw [Function.update_of_ne (Ne.symm hk.2)]
    exact h.fresh k hk.1
  · intro k hk hnot
    by_cases hki : k = i
    · subst hki
      dsimp only
      rw [Function.update_self]
      exact (hself hnot).2
    · have hk' : Begun es k := (begun_snoc.1 hk).resolve_right (Ne.symm hki)
      dsimp only
      rw [Function.update_of_ne hki]
      exact ⟨(h.underway k hk' (hmem k hnot)).1.mono (p.store.later_answer now r),
        hwatches k hki hk' hnot⟩
  · intro e he hnot
    obtain he | he := List.mem_append.1 he
    · exact h.reading e he (hmem _ hnot)
    · cases List.mem_singleton.1 he
      exact (hself hnot).1
  · intro a b hdone hb hprecedes
    obtain hnot | ⟨ha, hprecedes⟩ := hprecedes.of_snoc
    · exact absurd (hbegun b hb) hnot
    · dsimp only at hdone ha
      rw [Function.update_of_ne (Ne.symm ha)] at hdone
      rw [horder] at hb ⊢
      obtain hb | hb := List.mem_append.1 hb
      · exact (h.realTime a b hdone hb hprecedes).trans (List.sublist_append_left order later)
      · -- the first call was over, so it is in the order already
        have ha' : [a].Sublist order := List.singleton_sublist.2 (h.mem_of_done hdone)
        exact ha'.append (List.singleton_sublist.2 hb)

/-- A call that has taken effect has a request answered. -/
theorem step_settled (h : σ.Simulates wall s es p order) (hi : i ∈ order)
    (hthread : p.threads i = .ask r next) :
    σ.Simulates wall s (es ++ [⟨i, p.store, now, r⟩])
      ⟨(p.store.answer now r).2, Function.update p.threads i (next (p.store.answer now r).1)⟩
      order := by
  have hsettled : ∀ o : Except ErrorKind (σ.service i).Value, Explained es p i o →
      (p.store.answer now r).2.withoutLog = p.store.withoutLog ∧
        Honours r (p.store.answer now r).1 o ∧
          Settled o (next (p.store.answer now r).1) (p.store.answer now r).2 := by
    intro o ho
    have hsettled := ho.1
    rw [hthread] at hsettled
    exact hsettled p.store h.wellFiled (.refl _) now
  -- its place in the order gives the call an end, so the answer changes nothing
  obtain ⟨before, after, horder⟩ := List.append_of_mem hi
  have hkept := (hsettled _ (h.explained.of_eq_append horder)).1
  refine h.extend (List.append_nil order).symm (hkept.trans h.store) h.nodup
    (fun k hk => absurd hk List.not_mem_nil) ?_ (fun hnot => absurd hi hnot) ?_
  · intro k _ hbegun hnot id hid
    rw [(Store.withoutLog_eq_iff.1 hkept).2.2.2.1]
    exact (h.underway k hbegun hnot).2 id hid
  · refine h.explained.mono fun k _ o ho => ?_
    by_cases hki : k = i
    · subst hki
      obtain ⟨-, hhonours, hnext⟩ := hsettled o ho
      exact explained_self hnext hhonours ho.2
    · exact explained_of_ne hki ho

/-- A call has a request answered and has still to take effect. -/
theorem step_underway (h : σ.Simulates wall s es p order) (hi : i ∉ order)
    (hreads : r.changes? = none) (hwatches : (σ.service i).Watches p.store)
    (hnext : Underway σ.lifetimeDays (σ.caller i).clock (σ.service i)
      (next (p.store.answer now r).1) p.store) :
    σ.Simulates wall s (es ++ [⟨i, p.store, now, r⟩])
      ⟨(p.store.answer now r).2, Function.update p.threads i (next (p.store.answer now r).1)⟩
      order := by
  have hkept : (p.store.answer now r).2 = p.store := Store.answer_of_reads hreads
  refine h.extend (List.append_nil order).symm ?_ h.nodup
    (fun k hk => absurd hk List.not_mem_nil) ?_ ?_ ?_
  · rw [hkept]
    exact h.store
  · intro k _ hbegun hnot
    rw [hkept]
    exact (h.underway k hbegun hnot).2
  · intro _
    rw [hkept]
    exact ⟨hreads, hnext, hwatches⟩
  · exact h.explained.mono fun k hk o ho => explained_of_ne (fun hki => hi (hki ▸ hk)) ho

/-- A call takes effect with the answer to its request.  If a grant goes away with it, the
revocations that are about this grant take effect just before. -/
theorem step_commits (h : σ.Simulates wall s es p order) (hs : s.WellFiled) (hi : i ∉ order)
    (hcommits : Commits σ.lifetimeDays (σ.caller i).clock (σ.service i) r next p.store now) :
    ∃ order', σ.Simulates wall s (es ++ [⟨i, p.store, now, r⟩])
      ⟨(p.store.answer now r).2, Function.update p.threads i (next (p.store.answer now r).1)⟩
      order' := by
  obtain ⟨lost, hnodup, hlost⟩ := exists_nodup_list fun k => k ≠ i ∧ Begun es k ∧ k ∉ order ∧
    ¬ (σ.service k).Watches (p.store.answer now r).2
  obtain ⟨hstore, hhonours, hsettled⟩ := hcommits
  have hfiled : (σ.inOrder wall order s).WellFiled := (σ.later_inOrder wall order hs).2
  have hfiled' := (σ.later_inOrder wall lost hfiled).2
  -- the lost revocations would change nothing, so they can come right before the call
  have hatOnce : ∀ k ∈ lost, σ.atOnce k p.store = (.error .invalidStateTransition, p.store) := by
    intro k hk
    obtain ⟨-, hbegun, hnot, hwatches⟩ := (hlost k).1 hk
    exact GrantService.atOnce_of_lost (h.underway k hbegun hnot).2 hwatches
  obtain ⟨hends, hunchanged⟩ := endsWith_of_unchanged hatOnce hfiled h.store.symm
  obtain ⟨hend, hstore'⟩ : (σ.atOnce i (σ.inOrder wall lost (σ.inOrder wall order s))).1 =
        (σ.atOnce i p.store).1 ∧
      (σ.atOnce i (σ.inOrder wall lost (σ.inOrder wall order s))).2.withoutLog =
        (σ.atOnce i p.store).2.withoutLog := GrantService.atOnce_congr hunchanged
  refine ⟨order ++ (lost ++ [i]), h.extend rfl ?_ ?_ ?_ ?_ ?_ ?_⟩
  · rw [inOrder_append, inOrder_append, inOrder_cons, inOrder_nil,
      (σ.alone_eq_atOnce wall i hfiled').2, hstore']
    exact hstore
  · refine h.nodup.append (hnodup.append (List.nodup_singleton i) ?_) ?_
    · intro k hk hki
      exact ((hlost k).1 hk).1 (List.mem_singleton.1 hki)
    · intro k hk hk'
      obtain hk' | hk' := List.mem_append.1 hk'
      · exact ((hlost k).1 hk').2.2.1 hk
      · exact hi (List.mem_singleton.1 hk' ▸ hk)
  · intro j hj
    obtain hj | hj := List.mem_append.1 hj
    · exact .inr ((hlost j).1 hj).2.1
    · exact .inl (List.mem_singleton.1 hj)
  · intro k hki hbegun hnot
    by_contra hwatches
    have hnot' : k ∉ order := fun hk => hnot (List.mem_append_left _ hk)
    have hk : k ∈ lost := (hlost k).2 ⟨hki, hbegun, hnot', hwatches⟩
    exact hnot (List.mem_append_right _ (List.mem_append_left _ hk))
  · intro hnot
    exact absurd
      (List.mem_append_right _ (List.mem_append_right _ (List.mem_singleton_self i))) hnot
  · -- a call that waits has only read so far, and to read announces no end
    have hreading : ∀ k, k ∉ order → ∀ o : Except ErrorKind (σ.service k).Value, ∀ e ∈ es,
        e.caller = k → Honours e.request e.answer o := by
      rintro k hk o e he rfl
      exact honours_of_reads (h.reading e he hk) e.answer o
    refine endsWith_append.2 ⟨?_, endsWith_append.2 ⟨?_, ?_, trivial⟩⟩
    · exact h.explained.mono fun k hk o ho => explained_of_ne (fun hki => hi (hki ▸ hk)) ho
    · refine hends.mono fun k hk o ho => ?_
      obtain ⟨hki, hbegun, hnot, hwatches⟩ := (hlost k).1 hk
      subst ho
      exact explained_other hki ((h.underway k hbegun hnot).1.lost (h.wellFiled.answer now r)
        (p.store.later_answer now r) hwatches) (hreading k hnot _)
    · rw [hend]
      exact explained_self hsettled hhonours (hreading i hi _)

end Step

/-- **An order that explains what happened can be continued**, whatever happens next. -/
theorem step (h : σ.Simulates wall s es p order) (hs : s.WellFiled) {e : Event n} {q : Pool σ}
    (hstep : p.Step e q) : ∃ order', σ.Simulates wall s (es ++ [e]) q order' := by
  cases hstep with
  | answer i now r next hthread =>
      by_cases hi : i ∈ order
      · exact ⟨order, h.step_settled hi hthread⟩
      · obtain ⟨hreads, hwatches, hnext⟩ | hcommits := h.advances hi hthread now
        · exact ⟨order, h.step_underway hi hreads hwatches hnext⟩
        · exact h.step_commits hs hi hcommits

/-- Whatever has happened, some order explains it. -/
theorem of_run (hs : s.WellFiled) (hrun : (Pool.start σ s).Run es p) :
    ∃ order, σ.Simulates wall s es p order := by
  induction hrun with
  | nil => exact ⟨[], start σ wall hs⟩
  | snoc _ hstep ih =>
      obtain ⟨order, h⟩ := ih
      exact h.step hs hstep

/-- The end of a call that is over is the one that the order gives it. -/
theorem ending_eq (h : σ.Simulates wall s es p order) {before after : List (Fin n)} {i : Fin n}
    (horder : order = before ++ i :: after) {o : Outcome (σ.service i).Value}
    (hdone : p.threads i = .done o) :
    Outcome.ending o = (σ.atOnce i (σ.inOrder wall before s)).1 := by
  have hsettled := (h.explained.of_eq_append horder).1
  rw [hdone] at hsettled
  exact hsettled

end Simulates

/-! ### Calls side by side -/

section Results

variable {s : Store} {es : List (Event n)} {p : Pool σ} {order : List (Fin n)}
  {results : (i : Fin n) → Outcome (σ.service i).Value}

/-- Of two equal revocations or deletions the later one does not succeed. -/
theorem not_both_ok (h : σ.Simulates wall s es p order) (hs : s.WellFiled)
    (hdone : ∀ i, p.threads i = .done (results i)) {i j : Fin n} {id : GrantId}
    (hij : σ.service i = σ.service j)
    (hi : σ.service i = .update id true ∨ σ.service i = .delete id)
    (hoki : ∃ v, results i = .ok v) (hokj : ∃ v, results j = .ok v)
    {before between after : List (Fin n)}
    (horder : order = before ++ i :: (between ++ j :: after)) : False := by
  obtain ⟨v, hv⟩ := hoki
  obtain ⟨w, hw⟩ := hokj
  have hfiled := (σ.later_inOrder wall before hs).2
  have hendi := h.ending_eq horder (hdone i)
  rw [hv] at hendi
  -- after the first of the two the grant is revoked or gone, and so it stays
  have hspent := GrantService.Spent.of_ok hfiled hi hendi.symm
  have hlater : (σ.atOnce i (σ.inOrder wall before s)).2.Later
      (σ.inOrder wall (before ++ i :: between) s) := by
    rw [inOrder_append, inOrder_cons]
    refine (Store.Later.of_withoutLog_eq (σ.alone_eq_atOnce wall i hfiled).2.symm).trans ?_
    exact (σ.later_inOrder wall between
      (Caller.later_alone σ.lifetimeDays wall (σ.caller i) (σ.service i) hfiled).2).1
  have horder' : order = (before ++ i :: between) ++ j :: after := by
    rw [horder, List.append_assoc, List.cons_append]
  have hendj := h.ending_eq horder' (hdone j)
  rw [hw] at hendj
  have hspent' : (σ.service j).Spent (σ.inOrder wall (before ++ i :: between) s) :=
    hij ▸ hspent.later hlater
  exact hspent'.not_ok w hendj.symm

/-- At most one of equal revocations or deletions succeeds. -/
theorem eq_of_both_ok (h : σ.Simulates wall s es p order) (hs : s.WellFiled)
    (hdone : ∀ i, p.threads i = .done (results i)) {i j : Fin n} {id : GrantId}
    (hij : σ.service i = σ.service j)
    (hi : σ.service i = .update id true ∨ σ.service i = .delete id)
    (hoki : ∃ v, results i = .ok v) (hokj : ∃ v, results j = .ok v) : i = j := by
  by_contra hne
  obtain ⟨before, after, horder⟩ := List.append_of_mem (h.mem_of_done ⟨_, hdone i⟩)
  have hj : j ∈ before ++ i :: after := horder ▸ h.mem_of_done ⟨_, hdone j⟩
  obtain hj | hj := List.mem_append.1 hj
  · obtain ⟨before, between, rfl⟩ := List.append_of_mem hj
    have horder' : order = before ++ j :: (between ++ i :: after) := by
      rw [horder, List.append_assoc, List.cons_append]
    exact not_both_ok h hs hdone hij.symm (hij ▸ hi) hokj hoki horder'
  · obtain ⟨between, after, rfl⟩ :=
      List.append_of_mem ((List.mem_cons.1 hj).resolve_left (Ne.symm hne))
    exact not_both_ok h hs hdone hij hi hoki hokj horder

/-- The end of a call is the one that an answer to it announced. -/
theorem honoured (h : σ.Simulates wall s es p order)
    (hdone : ∀ i, p.threads i = .done (results i)) {e : Event n} (he : e ∈ es) :
    Honours e.request e.answer (Outcome.ending (results e.caller)) := by
  obtain ⟨before, after, horder⟩ :=
    List.append_of_mem (h.mem_of_done ⟨_, hdone e.caller⟩)
  rw [h.ending_eq horder (hdone e.caller)]
  exact (h.explained.of_eq_append horder).2 e he rfl

end Results

/-- **Calls side by side are calls one after the other.**  However the requests of calls of the
grant services are mixed, some order of the whole calls ends in the same store and gives each of
them the same end, the audit log and the wording of errors excepted, and a call that was over before
another began comes before it.  So of the revocations of one grant one succeeds at most, and of its
deletions one at most; a revocation that finds its grant gone or no longer active ends as an invalid
transition, a deletion that finds nothing to delete as one of an unknown grant, and no call as a
conflict. -/
theorem linearizable (σ : Session n) (wall : Instant) {s : Store} (hs : s.Reached)
    {es : List (Event n)} {p : Pool σ} (hrun : (Pool.start σ s).Run es p)
    {results : (i : Fin n) → Outcome (σ.service i).Value}
    (hdone : ∀ i, p.threads i = .done (results i)) :
    (∃ order : List (Fin n), order.Nodup ∧ (∀ i, i ∈ order) ∧
      (∀ i j, Precedes es i j → [i, j].Sublist order) ∧
      p.store.withoutLog = (σ.inOrder wall order s).withoutLog ∧
      ∀ before i after, order = before ++ i :: after →
        Outcome.ending (results i) =
          Outcome.ending (σ.alone wall i (σ.inOrder wall before s)).1) ∧
    (∀ id i j, σ.service i = .update id true → σ.service j = .update id true →
      (∃ v, results i = .ok v) → (∃ v, results j = .ok v) → i = j) ∧
    (∀ id i j, σ.service i = .delete id → σ.service j = .delete id →
      (∃ v, results i = .ok v) → (∃ v, results j = .ok v) → i = j) ∧
    (∀ e ∈ es, ∀ id t maker, e.request = .forceRevokeGrant id t maker →
      (∀ g, e.store.grants.find? id = some g → g.status t.date ≠ .active) →
      Outcome.ending (results e.caller) = .error .invalidStateTransition) ∧
    (∀ e ∈ es, ∀ id, e.request = .deleteInactiveGrant id →
      (e.store.deleteInactiveGrant id).1 = false →
      Outcome.ending (results e.caller) = .error .notFound) ∧
    (∀ i, Outcome.ending (results i) ≠ .error .conflict) := by
  have hfiled : s.WellFiled := hs.wellFiled
  obtain ⟨order, h⟩ : ∃ order, σ.Simulates wall s es p order := Simulates.of_run hfiled hrun
  have hmem : ∀ i, i ∈ order := fun i => h.mem_of_done ⟨_, hdone i⟩
  refine ⟨⟨order, h.nodup, hmem, ?_, h.store, ?_⟩, ?_, ?_, ?_, ?_, ?_⟩
  · intro i j hprecedes
    exact h.realTime i j ⟨_, hdone i⟩ (hmem j) hprecedes
  · intro before i after horder
    rw [h.ending_eq horder (hdone i),
      (σ.alone_eq_atOnce wall i (σ.later_inOrder wall before hfiled).2).1]
  · intro id i j hi hj
    exact eq_of_both_ok h hfiled hdone (hi.trans hj.symm) (.inl hi)
  · intro id i j hi hj
    exact eq_of_both_ok h hfiled hdone (hi.trans hj.symm) (.inr hi)
  · intro e he id t maker hrequest hended
    have hhonours := honoured h hdone he
    obtain ⟨i, u, now, r⟩ := e
    subst hrequest
    obtain ⟨-, hrevoke⟩ | ⟨g, hg, hactive, -⟩ := u.forceRevokeGrant_cases id t
    · exact hhonours (congrArg Except.ok (congrArg Prod.fst hrevoke))
    · exact absurd hactive (hended g hg)
  · intro e he id hrequest hkept
    have hhonours := honoured h hdone he
    obtain ⟨i, u, now, r⟩ := e
    subst hrequest
    exact hhonours (congrArg Except.ok hkept)
  · intro i
    obtain ⟨before, after, horder⟩ := List.append_of_mem (hmem i)
    rw [h.ending_eq horder (hdone i)]
    exact GrantService.atOnce_ne_conflict _ _ _ _

/-- A store with one active grant. -/
def oneGrant : Store :=
  (((Store.empty.putPrincipal .root).putCapability ⟨7⟩ "sales").answer .year1970
    (.createGrant ⟨⟨1⟩, Instant.year1970.date, Instant.year1970.date, .ofList [⟨7⟩]⟩ ⟨1⟩)).2

/-- Two administrators revoke the grant. -/
def race : Session 2 where
  lifetimeDays := 183
  caller _ := ⟨.root, rfl, by decide, .year1970, 0⟩
  service _ := .update ⟨1⟩ true

/-- They take turns, so both of them find the grant active before the first of them revokes it. -/
theorem race_run : ∃ es p, (Pool.start race oneGrant).Run es p ∧
    (∃ v, p.threads 0 = .done (.ok v)) ∧ ∃ e, p.threads 1 = .done (.error e) := by
  have hrun := ((Pool.Run.nil (p := Pool.start race oneGrant)).answer 0 .year1970 rfl).answer 1
    .year1970 rfl
  have hrun := (hrun.answer 0 .year1970 rfl).answer 1 .year1970 rfl
  have hrun := (hrun.answer 0 .year1970 rfl).answer 1 .year1970 rfl
  have hrun := (hrun.answer 0 .year1970 rfl).answer 1 .year1970 rfl
  exact ⟨_, _, hrun, ⟨_, rfl⟩, _, rfl⟩

theorem linearizable_race : oneGrant.Reached ∧ ∃ es p, (Pool.start race oneGrant).Run es p ∧
    ∃ results : (i : Fin 2) → Outcome (race.service i).Value,
      (∀ i, p.threads i = .done (results i)) ∧
      (∃ v, results 0 = .ok v) ∧ ¬ (∃ v, results 1 = .ok v) ∧
      ∃ order : List (Fin 2), (∀ i, i ∈ order) ∧
        p.store.withoutLog = (race.inOrder .year1970 order oneGrant).withoutLog := by
  have hreached : oneGrant.Reached := .answer _ _ (.putCapability _ _ (.putPrincipal _ .empty))
  obtain ⟨es, p, hrun, ⟨v, hv⟩, e, he⟩ := race_run
  have hdone : ∀ i, ∃ o, p.threads i = .done o
    | 0 => ⟨_, hv⟩
    | 1 => ⟨_, he⟩
  choose results hresults using hdone
  obtain ⟨⟨order, -, hmem, -, hstore, -⟩, honce, -⟩ :=
    linearizable race .year1970 hreached hrun hresults
  have hok : ∃ v, results 0 = .ok v := ⟨v, Dialogue.done.inj ((hresults 0).symm.trans hv)⟩
  refine ⟨hreached, es, p, hrun, results, hresults, hok, fun hok' => ?_, order, hmem, hstore⟩
  exact absurd (honce ⟨1⟩ 0 1 rfl rfl hok hok') (by decide)

end Session

end TableAccess
