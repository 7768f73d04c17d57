/-
**What is true of every stored grant.**

A grant enters a store as an active grant made from a draft, and from then on it is changed in two
ways only: it is revoked while it is active, or its expiry is recorded.  What new grants have and
these two changes keep, every stored grant has.

Main definitions:

* `Grant.Draft.Made` — the drafts that pass the check of their parts;
* `Store.Holds`, `Store.Act.DraftsOf` — every stored grant, or the draft that an act brings, has a
  property;
* `Grant.Sound` — a revoked grant is inactive, and was revoked on its last day or before;
* `Grant.Proper` — a grant does not end before it starts, and gives something.

Main results:

* `Store.holds_acts` — what new grants have and changes keep, stored grants have after every run;
* `Store.Reached.sound`, `Store.proper_acts` — stored grants are sound, and proper.
-/
import TableAccess.Proofs.Acts

set_option relaxedAutoImplicit false
set_option autoImplicit false

namespace TableAccess

/-! ### Properties of all grants -/

namespace Store

/-- Every stored grant has a property. -/
def Holds (P : Grant → Prop) (s : Store) : Prop := ∀ id g, s.grants.find? id = some g → P g

/-- The draft that an act brings, if it brings one, has a property. -/
def Act.DraftsOf (Q : Grant.Draft → Prop) : Act → Prop
  | .serve _ (.createGrant d _) => Q d
  | _ => True

variable {P : Grant → Prop} {Q : Grant.Draft → Prop} {s : Store}

theorem Holds.insert (hs : s.Holds P) {id : GrantId} {g : Grant} {n : Int} (hg : P g) :
    Holds P { s with grants := s.grants.insert id g, grantCount := n } := by
  intro j q hq
  rw [Shelf.find?_insert] at hq
  split at hq
  · cases hq
    exact hg
  · exact hs j q hq

/-- **What new grants have and changes keep, an act keeps.** -/
theorem holds_act
    (hnew : ∀ d cs, Q d → s.capabilitiesOf d.capabilityIds.toList = .ok cs → ∀ id,
      P ⟨id, d.userId, d.applyDate, d.expireDate, none, true, cs⟩)
    (hrevoked : ∀ g t, g.status t.date = .active → P g → P (g.revoked t))
    (hexpired : ∀ g today, P g → P (g.markExpired today)) {a : Act} (ha : a.DraftsOf Q)
    (hs : s.Holds P) : (s.act a).Holds P := by
  have hstep := s.act_grantStep a
  generalize s.act a = t at hstep ⊢
  cases hstep with
  | idle _ hgrants _ =>
      intro j q hq
      exact hs j q (hgrants ▸ hq)
  | @create now d c cs hcs => exact hs.insert (hnew d cs ha hcs _)
  | @revoke now id t c g hg hactive => exact hs.insert (hrevoked g t hactive (hs id g hg))
  | delete _ _ =>
      intro j q hq
      rw [Shelf.find?_erase] at hq
      split at hq
      · cases hq
      · exact hs j q hq
  | @sweep now today =>
      intro j q hq
      rw [Shelf.find?_mapValues] at hq
      obtain ⟨g, hg, rfl⟩ := Option.map_eq_some_iff.1 hq
      exact hexpired g today (hs j g hg)

/-- **What new grants have and changes keep, every run keeps.** -/
theorem holds_acts
    (hnew : ∀ d cs (s : Store), Q d → s.capabilitiesOf d.capabilityIds.toList = .ok cs → ∀ id,
      P ⟨id, d.userId, d.applyDate, d.expireDate, none, true, cs⟩)
    (hrevoked : ∀ g t, g.status t.date = .active → P g → P (g.revoked t))
    (hexpired : ∀ g today, P g → P (g.markExpired today)) {as : List Act}
    (has : ∀ a ∈ as, a.DraftsOf Q) (hs : s.Holds P) : (acts as s).Holds P :=
  acts_keeps (fun _ s ha hs => holds_act (fun d cs => hnew d cs s) hrevoked hexpired ha hs) has hs

theorem holds_empty : Store.empty.Holds P := by
  intro id g hg
  cases hg

end Store

/-! ### Revoked grants -/

/-- A grant that was revoked is inactive, and was revoked on its last day or before. -/
structure Grant.Sound (g : Grant) : Prop where
  inactive : g.forceTerminateAt.isSome → g.isActive = false
  inTime : ∀ t, g.forceTerminateAt = some t → t.date ≤ g.expireDate

/-- An active grant was not revoked, and its last day is not over. -/
theorem Grant.status_eq_active_iff {g : Grant} {today : Date} :
    g.status today = .active ↔
      g.forceTerminateAt = none ∧ g.isActive = true ∧ today ≤ g.expireDate := by
  unfold Grant.status
  cases g.forceTerminateAt with
  | none => simp
  | some t => simp

theorem Grant.Sound.markExpired {g : Grant} (hg : g.Sound) (today : Date) :
    (g.markExpired today).Sound := by
  unfold Grant.markExpired
  split
  · exact ⟨fun _ => rfl, hg.inTime⟩
  · exact hg

theorem Store.sound_act {s : Store} (a : Store.Act) (hs : s.Holds Grant.Sound) :
    (s.act a).Holds Grant.Sound := by
  refine holds_act (Q := fun _ => True) ?_ ?_ (fun g today hg => hg.markExpired today) ?_ hs
  · intro d cs _ _ id
    constructor
    · intro h
      cases h
    · intro t h
      cases h
  · intro g t hactive _
    refine ⟨fun _ => rfl, fun t' ht' => ?_⟩
    cases ht'
    exact (Grant.status_eq_active_iff.1 hactive).2.2
  · cases a with
    | serve now r => cases r <;> trivial
    | _ => trivial

/-- **Every grant in a state that is reached is sound.** -/
theorem Store.Reached.sound {s : Store} (hs : s.Reached) : s.Holds Grant.Sound := by
  induction hs with
  | empty => exact holds_empty
  | putPrincipal p _ ih => exact sound_act (.putPrincipal p) ih
  | putKey now u k _ ih => exact sound_act (.putKey now u k) ih
  | putCapability id resource _ ih => exact sound_act (.putCapability id resource) ih
  | answer now r _ ih => exact sound_act (.serve now r) ih

/-! ### Grants from checked drafts -/

/-- The draft is what the check of some parts gives. -/
def Grant.Draft.Made (d : Grant.Draft) : Prop :=
  ∃ user applyDate expireDate ids lifetimeDays,
    Grant.Draft.make user applyDate expireDate ids lifetimeDays = .ok d

theorem Grant.Draft.Made.parts {d : Grant.Draft} (h : d.Made) :
    d.applyDate ≤ d.expireDate ∧ d.capabilityIds.toList ≠ [] := by
  obtain ⟨user, applyDate, expireDate, ids, lifetimeDays, hd⟩ := h
  unfold Grant.Draft.make at hd
  split at hd
  · cases hd
  · next hids =>
      split at hd
      · cases hd
      · next e _ =>
          split at hd
          · cases hd
          · next hle =>
              cases hd
              refine ⟨Date.le_def.2 (Int.not_lt.1 hle), fun hnil => hids ?_⟩
              -- the members of the list are those of the set, so the list is empty with it
              rw [List.isEmpty_iff, List.eq_nil_iff_forall_not_mem]
              intro id hid
              have hmem := Ascending.mem_ofList.2 hid
              rw [hnil] at hmem
              cases hmem

/-- A grant does not end before it starts, and gives something. -/
structure Grant.Proper (g : Grant) : Prop where
  dates : g.applyDate ≤ g.expireDate
  capabilities : g.capabilities ≠ []

/-- Where something is asked for and all of it exists, something is given. -/
theorem Store.capabilitiesOf_ne_nil {s : Store} {ids : List CapabilityId} {cs : List Capability}
    (h : s.capabilitiesOf ids = .ok cs) (hids : ids ≠ []) : cs ≠ [] := by
  cases ids with
  | nil => exact absurd rfl hids
  | cons id ids =>
      unfold Store.capabilitiesOf at h
      split at h
      · cases h
      · split at h
        · cases h
        · cases h
          exact List.cons_ne_nil _ _

/-- **Grants from checked drafts are proper**, whatever happens to them. -/
theorem Store.proper_acts {s : Store} {as : List Store.Act}
    (has : ∀ a ∈ as, a.DraftsOf Grant.Draft.Made) (hs : s.Holds Grant.Proper) :
    (acts as s).Holds Grant.Proper := by
  refine holds_acts ?_ ?_ ?_ has hs
  · intro d cs s hd hcs id
    exact ⟨hd.parts.1, Store.capabilitiesOf_ne_nil hcs hd.parts.2⟩
  · intro g t _ hg
    exact ⟨hg.dates, hg.capabilities⟩
  · intro g today hg
    unfold Grant.markExpired
    split
    · exact ⟨hg.dates, hg.capabilities⟩
    · exact hg

/-! ### A grant for examples -/

/-- A draft for the first half of a year. -/
def Store.firstHalf : Grant.Draft :=
  ⟨⟨5⟩, Instant.year1970.date, ⟨1970, 6, 30, by decide⟩, .ofList [⟨7⟩]⟩

/-- The day after it. -/
def Store.july : Date := ⟨1970, 7, 1, by decide⟩

end TableAccess
