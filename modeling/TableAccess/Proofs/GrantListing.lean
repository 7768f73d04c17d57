/-
**The listing of grants.**

Grants are listed by owner, and those of one owner newest first.  An administrator who asks for one
page after the other, until a page is empty, reads every grant that matches the query once, in this
order and with the state it has at the time.  The name of an owner is asked for when the first of
its grants comes up, and kept for the others.

Main definitions:

* `Grant.ListedBefore` — the order of the listing;
* `Store.matching` — the grants that match a query, in order;
* `GrantAdministration.View.Shows` — a view shows what the store knows of a grant at a moment.

Main results:

* `Store.pairwise_matching`, `Store.mem_matching` — the listing is in order and complete;
* `World.call_viewsWith` — each view has the name of its own owner, kept or asked for;
* `World.run_list` — a page of the listing is a window on all of it;
* `World.listing_is_read_out` — the pages make up the listing.
-/
import TableAccess.Proofs.Acts
import TableAccess.Proofs.CallsMade
import TableAccess.Proofs.Pages
import TableAccess.Proofs.QuietWorld
import TableAccess.Proofs.Reached
import TableAccess.Proofs.Shelves

set_option relaxedAutoImplicit false
set_option autoImplicit false

namespace TableAccess

/-- One grant is listed before another: its owner comes first, or it is the newer one of the same
owner. -/
def Grant.ListedBefore (a b : Grant) : Prop :=
  a.userId < b.userId ∨ a.userId = b.userId ∧ b.id < a.id

namespace Store

variable {s : Store} {owner : Option UserId} {activeOnly : Bool} {today : Date}

/-! ### The order -/

theorem listedBefore_iff {a b : Grant} :
    listedBefore a b = true ↔ a.userId < b.userId ∨ a.userId = b.userId ∧ b.id ≤ a.id := by
  simp [listedBefore]

theorem listedBefore_trans (a b c : Grant) (hab : listedBefore a b = true)
    (hbc : listedBefore b c = true) : listedBefore a c = true := by
  rw [listedBefore_iff] at *
  grind

theorem listedBefore_total (a b : Grant) : (listedBefore a b || listedBefore b a) = true := by
  rw [Bool.or_eq_true, listedBefore_iff, listedBefore_iff]
  grind

/-! ### The grants that match -/

/-- The grants that match a query, in the order in which they are listed. -/
def matching (s : Store) (owner : Option UserId) (activeOnly : Bool) (today : Date) : List Grant :=
  (s.grants.values.filter (selectsGrant ⟨owner, activeOnly, today, 0, 0⟩)).mergeSort listedBefore

theorem selectsGrant_iff {q : GrantQuery} {g : Grant} :
    selectsGrant q g = true ↔ (∀ u, q.userId = some u → g.userId = u) ∧
      (q.activeOnly = true → g.status q.asOf = .active) := by
  rw [selectsGrant, Bool.and_eq_true]
  refine and_congr ?_ ?_
  · cases q.userId <;> simp
  · cases q.activeOnly <;> simp

/-- **The listing is complete**: it has the grants that match, and no others. -/
theorem mem_matching {g : Grant} : g ∈ s.matching owner activeOnly today ↔
    (∃ i, s.grants.find? i = some g) ∧ (∀ u, owner = some u → g.userId = u) ∧
      (activeOnly = true → g.status today = .active) := by
  rw [matching, List.mem_mergeSort, List.mem_filter, Shelf.mem_values_iff, selectsGrant_iff]

/-- **The listing is in order**, so no grant comes twice. -/
theorem pairwise_matching (hs : s.WellFiled) :
    (s.matching owner activeOnly today).Pairwise Grant.ListedBefore := by
  have hsorted : (s.matching owner activeOnly today).Pairwise fun a b => listedBefore a b = true :=
    List.pairwise_mergeSort listedBefore_trans listedBefore_total _
  have hids : (s.grants.values.map Grant.id).Nodup := by
    refine Shelf.nodup_map_values Grant.id fun i j g h hg hh hgh => ?_
    rw [← hs.grant_id i g hg, ← hs.grant_id j h hh, hgh]
  have hdistinct : (s.matching owner activeOnly today).Pairwise fun a b => a.id ≠ b.id := by
    have hfiltered := (List.pairwise_map.1 hids).filter
      (selectsGrant ⟨owner, activeOnly, today, 0, 0⟩)
    exact (List.mergeSort_perm _ _).symm.pairwise hfiltered Ne.symm
  refine (hsorted.and hdistinct).imp fun {a b} h => ?_
  obtain ⟨hle, hne⟩ := h
  -- two grants of one owner differ in their numbers
  rcases listedBefore_iff.1 hle with huser | ⟨huser, hid⟩
  · exact .inl huser
  · exact .inr ⟨huser, by grind⟩

end Store

/-! ### The operation -/

namespace GrantAdministration

/-- A view shows what a store knows of a grant at a moment: its state on that date, and the name of
its own owner, who may be gone. -/
structure View.Shows (v : View) (s : Store) (now : Instant) : Prop where
  status_eq : v.status = v.grant.status now.date
  text_eq : v.expireOrTerminateText = v.grant.expireOrTerminateText
  owner_name : ∀ p, s.principals.find? v.grant.userId = some p → v.displayName = p.displayName
  missing_name : s.principals.find? v.grant.userId = none →
    v.displayName = "user " ++ v.grant.userId.write

theorem view_shows (s : Store) (g : Grant) (now : Instant) :
    (view g (s.nameOf g.userId) now).Shows s now :=
  ⟨rfl, rfl, fun _ hp => Store.nameOf_of_find? hp, fun hnone => Store.nameOf_of_missing hnone⟩

end GrantAdministration

namespace World

open GrantAdministration

variable {w : World}

theorem call_nameOf {α : Type} (hw : w.script = .empty) (u : UserId) (k : String → Service α) :
    w.call (nameOf u >>= k).run = w.call (k (w.store.nameOf u)).run := by
  rw [Service.run_nameOf_bind]
  exact call_read_quiet hw rfl rfl _

/-- **Each view has the name of its own owner**, whether it was kept or is asked for. -/
theorem call_viewsWith (hw : w.script = .empty) (now : Instant) (gs : List Grant)
    {names : Shelf UserId String}
    (hnames : ∀ u name, names.find? u = some name → name = w.store.nameOf u) :
    w.call (viewsWith now gs names).run =
      (.ok (gs.map fun g => view g (w.store.nameOf g.userId) now), w) := by
  -- along the list, the names that are kept remain those that the store knows
  induction gs generalizing names with
  | nil => rfl
  | cons g gs ih =>
      unfold viewsWith
      cases hfind : names.find? g.userId with
      | some name =>
          rw [Service.run_bind, call_bind, ih hnames, hnames _ _ hfind]
          rfl
      | none =>
          have hkept : ∀ u name,
              (names.insert g.userId (w.store.nameOf g.userId)).find? u = some name →
                name = w.store.nameOf u := by
            intro u name h
            rw [Shelf.find?_insert] at h
            split at h
            · next hu =>
                cases h
                rw [hu]
            · exact hnames u name h
          rw [call_nameOf hw, Service.run_bind, call_bind, ih hkept]
          rfl

/-- The views of all grants that match a query, in the order of the listing. -/
def listing (w : World) (owner : Option UserId) (activeOnly : Bool) : List View :=
  (w.store.matching owner activeOnly w.clock.date).map fun g =>
    view g (w.store.nameOf g.userId) w.clock

/-- **A page of the listing is a window on all of it**, and reading it changes nothing. -/
theorem run_list (hw : w.script = .empty) {actor : Principal}
    (hactor : actor.active && actor.isAdmin) (q : ListQuery) :
    w.run (list actor q) = (.ok (Paging.slice q.offset (Paging.clamp q.limit)
      (w.listing q.userId q.activeOnly)), w) := by
  have hnone : ∀ u name, (Shelf.empty : Shelf UserId String).find? u = some name →
      name = w.store.nameOf u := by
    intro u name h
    rw [Shelf.find?_empty] at h
    cases h
  rw [list, run_requireAdmin hactor, run, Service.run_now_bind, call_ask,
    Service.run_request_bind]
  change w.call (.ask _ _) = _
  rw [call_read_quiet hw rfl rfl, call_viewsWith hw _ _ hnone, listing, ← Paging.map_slice]
  rfl

/-- **The pages make up the listing.**  An administrator asks for one page after the other, passing
over one page size more each time, until a page is empty.  The pages that were read are full but for
the last one, and together they hold every grant that matches the query, once, by owner and newest
first; each view shows its grant as it is at the time, under the name of its own owner. -/
theorem listing_is_read_out (hstore : w.store.Reached) (hw : w.script = .empty) {actor : Principal}
    (hactor : actor.active && actor.isAdmin) (owner : Option UserId) (activeOnly : Bool)
    (limit : Nat) :
    ∃ page : Nat → List View,
      (∀ offset, w.run (list actor ⟨owner, activeOnly, limit, offset⟩) = (.ok (page offset), w)) ∧
      ∃ pages views, Paging.ReadOut page (Paging.clamp limit) 0 pages ∧
        Paging.Partition (Paging.clamp limit) views pages ∧
        (views.map View.grant).Pairwise Grant.ListedBefore ∧
        (∀ g, g ∈ views.map View.grant ↔ (∃ i, w.store.grants.find? i = some g) ∧
          (∀ u, owner = some u → g.userId = u) ∧
          (activeOnly = true → g.status w.clock.date = .active)) ∧
        ∀ v ∈ views, v.Shows w.store w.clock ∧ (activeOnly = true → v.status = .active) := by
  have hsize : 0 < Paging.clamp limit := Paging.one_le_clamp limit
  have hgrants : (w.listing owner activeOnly).map View.grant =
      w.store.matching owner activeOnly w.clock.date := by
    rw [listing, List.map_map]
    exact List.map_id _
  obtain ⟨pages, hread, hpages⟩ :=
    Paging.exists_readOut_slice hsize (w.listing owner activeOnly) 0
  refine ⟨_, fun offset => run_list hw hactor _, pages, _, hread, hpages, ?_, fun g => ?_, ?_⟩
  · rw [List.drop_zero, hgrants]
    exact Store.pairwise_matching hstore.wellFiled
  · rw [List.drop_zero, hgrants]
    exact Store.mem_matching
  · intro v hv
    obtain ⟨g, hg, rfl⟩ := List.mem_map.1 (List.drop_zero .. ▸ hv)
    exact ⟨view_shows w.store g w.clock, (Store.mem_matching.1 hg).2.2⟩

/-- A day on which a principal has two grants, and a user who is gone has one. -/
def threeGrants : World where
  store :=
    let today := Instant.year1970.date
    Store.acts [.putPrincipal .root, .putCapability ⟨11⟩ "orders",
      .serve .year1970 (.createGrant ⟨⟨1⟩, today, today, .ofList [⟨11⟩]⟩ ⟨1⟩),
      .serve .year1970 (.createGrant ⟨⟨1⟩, today, today, .ofList [⟨11⟩]⟩ ⟨1⟩),
      .serve .year1970 (.createGrant ⟨⟨3⟩, today, today, .ofList [⟨11⟩]⟩ ⟨1⟩)] .empty
  script := .empty
  clock := .year1970
  wall := .year1970
  drawn := 0
  random := id

/-- On that day the grants come on pages of two, with the names of their owners. -/
theorem listing_is_read_out_threeGrants :
    threeGrants.store.Reached ∧ threeGrants.script = .empty ∧
    (Principal.root.active && Principal.root.isAdmin) = true ∧
    ∃ page : Nat → List View,
      (threeGrants.run (list .root ⟨none, true, 2, 0⟩)).1 = .ok (page 0) ∧
      ∃ pages views, Paging.ReadOut page 2 0 pages ∧ Paging.Partition 2 views pages ∧
        (∃ v ∈ views, v.grant.id = ⟨2⟩ ∧ v.displayName = "root" ∧ v.status = .active) ∧
        ∃ v ∈ views, v.grant.id = ⟨3⟩ ∧ v.displayName = "user 3" ∧ v.status = .active := by
  have hstore : threeGrants.store.Reached := .acts .empty _
  have hroot : (Principal.root.active && Principal.root.isAdmin) = true := by decide
  obtain ⟨page, hpage, pages, views, hread, hpages, -, hmem, hshows⟩ :=
    listing_is_read_out hstore rfl hroot none true 2
  have hview : ∀ i u, (threeGrants.store.grants.find? i).map
      (fun g => (g.userId, g.status threeGrants.clock.date)) = some (u, .active) →
      ∃ v ∈ views, v.grant.id = i ∧ v.grant.userId = u := by
    intro i u h
    obtain ⟨g, hg, hgu⟩ := Option.map_eq_some_iff.1 h
    obtain ⟨huser, hactive⟩ := Prod.mk.inj hgu
    obtain ⟨v, hv, rfl⟩ := List.mem_map.1 ((hmem g).2 ⟨⟨i, hg⟩, by simp, fun _ => hactive⟩)
    exact ⟨v, hv, hstore.wellFiled.grant_id i _ hg, huser⟩
  obtain ⟨v, hv, hid, huser⟩ := hview ⟨2⟩ ⟨1⟩ (by decide +kernel)
  obtain ⟨u, hu, hid', huser'⟩ := hview ⟨3⟩ ⟨3⟩ (by decide +kernel)
  refine ⟨hstore, rfl, hroot, page, congrArg Prod.fst (hpage 0), pages, views, hread, hpages,
    ⟨v, hv, hid, ?_, (hshows v hv).2 rfl⟩, ⟨u, hu, hid', ?_, (hshows u hu).2 rfl⟩⟩
  · exact (hshows v hv).1.owner_name .root (by rw [huser]; rfl)
  · rw [(hshows u hu).1.missing_name (by rw [huser']; rfl), huser']
    decide +kernel

end World

end TableAccess
