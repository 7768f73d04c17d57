/-
**The days on which a grant counts.**

A grant names a first day and a last day.  A capability that a principal has at present comes from
a grant that is not revoked and whose last day is not over, but the first day is not looked at: a
grant counts from the moment it is stored.  So the capabilities of a principal keep to the days of
its grants as long as every grant that is still to begin gives nothing that another one does not
give already, and in particular when no grant is stored before its first day.

Main definitions:

* `Store.InForce`, `Store.Ahead` — a grant that covers a capability has begun, or is still to begin;
* `Day.Prompt` — a step of a run in which grants are stored on their first day or later.

Main results:

* `Store.inForce_activeCapabilities_iff` — when all that the store gathers is in force;
* `Day.started_of_prompt` — in such a run every stored grant has begun;
* `GrantAdministration.effectiveCapabilities_window` — when the capabilities of a principal keep to
  the days of its grants;
* `GrantAdministration.ahead_counts` — that they do not always.
-/
import TableAccess.Proofs.Degradation
import TableAccess.Proofs.EffectiveCapabilities

set_option relaxedAutoImplicit false
set_option autoImplicit false

namespace TableAccess

/-! ### Grants that have begun -/

namespace Store

variable {s : Store} {user : UserId} {today : Date} {i : GrantId} {id : CapabilityId}

/-- The grant is one of the principal that lists the capability, is recorded as active, was not
revoked, and has the date among its days. -/
def InForce (s : Store) (user : UserId) (today : Date) (i : GrantId) (id : CapabilityId) : Prop :=
  ∃ g, s.grants.find? i = some g ∧ g.userId = user ∧ (∃ c ∈ g.capabilities, c.id = id) ∧
    g.isActive = true ∧ g.forceTerminateAt = none ∧ g.applyDate ≤ today ∧ today ≤ g.expireDate

/-- The grant counts as active for the principal and lists the capability, but is still to begin. -/
def Ahead (s : Store) (user : UserId) (today : Date) (i : GrantId) (id : CapabilityId) : Prop :=
  ∃ g, s.grants.find? i = some g ∧ g.userId = user ∧ (∃ c ∈ g.capabilities, c.id = id) ∧
    g.status today = .active ∧ today < g.applyDate

/-- **A grant that covers a capability is in force or still to begin.** -/
theorem covers_iff : s.Covers user today i id ↔
    s.InForce user today i id ∨ s.Ahead user today i id := by
  constructor
  · rintro ⟨g, hg, huser, hactive, hc⟩
    obtain ⟨hforced, hisActive, hexpire⟩ := Grant.status_eq_active_iff.1 hactive
    by_cases happly : g.applyDate ≤ today
    · exact .inl ⟨g, hg, huser, hc, hisActive, hforced, happly, hexpire⟩
    · exact .inr ⟨g, hg, huser, hc, hactive, Int.not_le.1 happly⟩
  · rintro (⟨g, hg, huser, hc, hisActive, hforced, -, hexpire⟩ | ⟨g, hg, huser, hc, hactive, -⟩)
    · exact ⟨g, hg, huser, Grant.status_eq_active_iff.2 ⟨hforced, hisActive, hexpire⟩, hc⟩
    · exact ⟨g, hg, huser, hactive, hc⟩

/-- **All that the store gathers is in force** exactly if all that grants list which are still to
begin is in force by other ones. -/
theorem inForce_activeCapabilities_iff :
    (∀ c ∈ s.activeCapabilities user today, ∃ i, s.InForce user today i c.id) ↔
      ∀ i id, s.Ahead user today i id → ∃ j, s.InForce user today j id := by
  constructor
  · intro hall i id hahead
    obtain ⟨c, hc, rfl⟩ := exists_id_activeCapabilities.2 ⟨i, covers_iff.2 (.inr hahead)⟩
    exact hall c hc
  · intro hahead c hc
    obtain ⟨i, hi⟩ := exists_id_activeCapabilities.1 ⟨c, hc, rfl⟩
    obtain hforce | hlate := covers_iff.1 hi
    · exact ⟨i, hforce⟩
    · exact hahead i c.id hlate

theorem not_ahead (hs : s.Holds fun g => g.applyDate ≤ today) : ¬ s.Ahead user today i id := by
  rintro ⟨g, hg, -, -, -, happly⟩
  exact absurd (hs i g hg) (Int.not_le.2 happly)

end Store

/-! ### Runs without grants that are still to begin -/

namespace Day

/-- Something happens on the date, where a grant that is stored begins on the date or before, or the
date becomes a later one. -/
inductive Prompt : Day → Day → Prop
  | act {x : Day} {a : Store.Act} (ha : a.DraftsOf fun d => d.applyDate ≤ x.date) :
      Prompt x ⟨x.date, x.store.act a⟩
  | wait {x : Day} {date : Date} (h : x.date ≤ date) : Prompt x ⟨date, x.store⟩

variable {x y : Day}

/-- Every stored grant has begun. -/
def Started (x : Day) : Prop := x.store.Holds fun g => g.applyDate ≤ x.date

theorem Started.step (hx : x.Started) (h : x.Prompt y) : y.Started := by
  cases h with
  | @act a ha =>
      -- a new grant begins by this date, and no write changes the first day of an old one
      refine Store.holds_act ?_ (fun g t _ hg => hg) ?_ ha hx
      · intro d cs hd _ id
        exact hd
      · intro g today hg
        unfold Grant.markExpired
        split <;> exact hg
  | wait hle =>
      intro id g hg
      exact Int.le_trans (hx id g hg) hle

/-- **In such a run every stored grant has begun.** -/
theorem started_of_prompt {xs : List Day} (hrun : (x :: xs).IsChain Prompt) (hx : x.Started) :
    ∀ y ∈ x :: xs, y.Started := by
  induction xs generalizing x with
  | nil =>
      intro y hy
      rw [List.mem_singleton] at hy
      exact hy ▸ hx
  | cons z zs ih =>
      obtain ⟨hstep, hrest⟩ := List.isChain_cons_cons.1 hrun
      intro y hy
      rcases List.mem_cons.1 hy with rfl | hy
      · exact hx
      · exact ih hrest (hx.step hstep) y hy

end Day

/-! ### The operation -/

namespace GrantAdministration

/-- **Which days the capabilities of a principal keep to.**  Each of them is listed by a grant of
the principal that is recorded as active, was not revoked, and whose last day is not over.  They
all are listed by such grants that have begun as well, exactly if every capability of a grant that
is still to begin is; and so they are at every point of a run in which no grant is stored before
its first day. -/
theorem effectiveCapabilities_window {w : World} (hscript : w.script .listActiveCapabilities = [])
    (p : Principal) :
    ∃ cs, (w.run (effectiveCapabilities p)).1 = .ok cs ∧
      (∀ c ∈ cs, ∃ i g, w.store.grants.find? i = some g ∧ g.userId = p.id ∧
        (∃ b ∈ g.capabilities, b.id = c.id) ∧ g.isActive = true ∧ g.forceTerminateAt = none ∧
        w.clock.date ≤ g.expireDate) ∧
      ((∀ c ∈ cs, ∃ i, w.store.InForce p.id w.clock.date i c.id) ↔
        ∀ i id, w.store.Ahead p.id w.clock.date i id →
          ∃ j, w.store.InForce p.id w.clock.date j id) ∧
      ∀ x xs, x.store = .empty → (x :: xs).IsChain Day.Prompt →
        ⟨w.clock.date, w.store⟩ ∈ x :: xs →
        ∀ c ∈ cs, ∃ i, w.store.InForce p.id w.clock.date i c.id := by
  refine ⟨_, run_effectiveCapabilities_world hscript p, ?_,
    Store.inForce_activeCapabilities_iff, ?_⟩
  · intro c hc
    obtain ⟨i, g, hg, huser, hactive, hlists⟩ :=
      Store.exists_id_activeCapabilities.1 ⟨c, hc, rfl⟩
    obtain ⟨hforced, hisActive, hexpire⟩ := Grant.status_eq_active_iff.1 hactive
    exact ⟨i, g, hg, huser, hlists, hisActive, hforced, hexpire⟩
  · intro x xs hx hrun hw
    have hempty : x.Started := by
      rw [Day.Started, hx]
      exact Store.holds_empty
    have hstarted := Day.started_of_prompt hrun hempty _ hw
    refine Store.inForce_activeCapabilities_iff.2 fun i id hahead => ?_
    exact absurd hahead (Store.not_ahead hstarted)

/-- A world on the day before the first day of its only grant. -/
def dayBefore : World where
  store := Store.acts [.putCapability ⟨11⟩ "orders", .serve .year1970 (.createGrant
    ⟨⟨2⟩, ⟨1970, 1, 2, by decide⟩, ⟨1970, 1, 31, by decide⟩, .ofList [⟨11⟩]⟩ ⟨1⟩)] .empty
  script := .empty
  clock := .year1970
  wall := .year1970
  drawn := 0
  random := id

theorem effectiveCapabilities_window_dayBefore :
    dayBefore.script .listActiveCapabilities = [] ∧
    ∃ cs, (dayBefore.run (effectiveCapabilities .ann)).1 = .ok cs ∧
      ∀ c ∈ cs, ∃ i g, dayBefore.store.grants.find? i = some g ∧ g.isActive = true ∧
        dayBefore.clock.date ≤ g.expireDate := by
  obtain ⟨cs, hcs, hlisted, -⟩ := effectiveCapabilities_window (w := dayBefore) rfl .ann
  refine ⟨rfl, cs, hcs, fun c hc => ?_⟩
  obtain ⟨i, g, hg, -, -, hactive, -, hexpire⟩ := hlisted c hc
  exact ⟨i, g, hg, hactive, hexpire⟩

/-- A grant counts on the day before its first day: the capability is there, and no grant that lists
it is in force. -/
theorem ahead_counts :
    dayBefore.store.Reached ∧
    (dayBefore.run (effectiveCapabilities .ann)).1 = .ok [⟨⟨11⟩, datasourceAccess, "orders"⟩] ∧
    ¬ ∃ i, dayBefore.store.InForce Principal.ann.id dayBefore.clock.date i ⟨11⟩ := by
  have hahead : ∀ g ∈ dayBefore.store.grants.values, ¬ g.applyDate ≤ dayBefore.clock.date := by
    decide +kernel
  refine ⟨.acts .empty _, by rfl, ?_⟩
  rintro ⟨i, g, hg, -, -, -, -, happly, -⟩
  exact hahead g (Shelf.mem_values_of_find? hg) happly

end GrantAdministration

end TableAccess
