/-
**How deep the pages of a listing go.**

A listing is read page by page from a store in memory or from a database.  Both take as many entries
as they are asked for, between 1 and 200.  The store in memory passes over as many entries as it is
asked to; the database never passes over more than 5000 rows, and whoever asks for more is shown the
same page again.  So the two agree as long as there are no more rows than that, and behind them a
reader of the database never comes to an end.

Main definitions:

* `Statement.Window` — a statement takes some rows of all that it finds, after some others;
* `OpensWith` — an operation starts with such a statement;
* `Paged` — how a listing is paged on both sides;
* `Paging.AgreesTo` — what the limit of the database means for the pages of a list.

Main results:

* `Paging.agreesTo` — pages agree exactly as far as this;
* `pages_agree_to_depth` — how the listings of grants and of the audit log are paged;
* `deep_offset_is_cut` — that a page may differ.
-/
import TableAccess.Proofs.AuditListing
import TableAccess.Proofs.DatabaseCalls
import TableAccess.Proofs.GrantListing

set_option relaxedAutoImplicit false
set_option autoImplicit false

namespace TableAccess

namespace Paging

variable {α : Type} {as : List α} {offset size cap : Nat}

/-! ### Pages that start no later than at some entry -/

theorem clamp_clamp (limit : Nat) : clamp (clamp limit) = clamp limit := by
  simp only [clamp, maxLimit]
  omega

theorem ReadOut.exists_eq_nil {page : Nat → List α} {pages : List (List α)}
    (h : ReadOut page size offset pages) : ∃ o, page o = [] := by
  induction h with
  | done hnil => exact ⟨_, hnil⟩
  | more _ _ ih => exact ih

theorem slice_min (h : offset ≤ cap ∨ as.length ≤ cap) :
    slice (min offset cap) size as = slice offset size as := by
  rcases Nat.le_total offset cap with hle | hge
  · rw [Nat.min_eq_left hle]
  · obtain hle | hlength := h
    · rw [Nat.min_eq_left hle]
    · -- both pages start behind the last entry
      have hend : ∀ o, as.length ≤ o → slice o size as = [] := fun o ho => by
        rw [slice, List.drop_eq_nil_of_le ho, List.take_nil]
      rw [Nat.min_eq_right hge, hend cap hlength, hend offset (Nat.le_trans hlength hge)]

/-- What it means for the pages of a list that they start no later than at some entry. -/
structure AgreesTo (cap size : Nat) (as : List α) : Prop where
  /-- A page is the one that was asked for as long as it starts, or the list ends, by there. -/
  same_iff : ∀ offset, slice (min offset cap) size as = slice offset size as ↔
    offset ≤ cap ∨ as.length ≤ cap
  /-- A reader comes to an end if the list ends by there. -/
  ends_iff : (∃ pages, ReadOut (fun o => slice (min o cap) size as) size 0 pages) ↔ as.length ≤ cap
  /-- A reader sees every entry if the list ends at most one page later. -/
  reaches_iff : (∀ a ∈ as, ∃ k, a ∈ slice (min (k * size) cap) size as) ↔ as.length ≤ cap + size
  /-- Without this, a reader comes to an end and sees every entry once. -/
  read_out : ∃ pages, ReadOut (fun o => slice o size as) size 0 pages ∧ Partition size as pages

/-- **Pages agree exactly as far as this.** -/
theorem agreesTo (hsize : 0 < size) (has : as.Nodup) : AgreesTo cap size as := by
  have hposition : ∀ {i j : Nat} (hi : i < as.length), as[j]? = some as[i] → i = j := by
    intro i j hi hj
    exact (List.getElem?_inj hi has).1 ((List.getElem?_eq_getElem hi).trans hj.symm)
  constructor
  case same_iff =>
    refine fun offset => ⟨fun h => ?_, slice_min⟩
    refine Decidable.byContradiction fun hdeep => ?_
    -- the entry where the page starts is not on the page that was asked for
    obtain ⟨hoffset, hlength⟩ : cap < offset ∧ cap < as.length := by omega
    rw [Nat.min_eq_right (Nat.le_of_lt hoffset)] at h
    have hmem : as[cap] ∈ slice cap size as :=
      mem_slice_iff.2 ⟨cap, Nat.le_refl _, by omega, List.getElem?_eq_getElem hlength⟩
    obtain ⟨i, hle, -, hi⟩ := mem_slice_iff.1 (h ▸ hmem)
    have := hposition hlength hi
    omega
  case ends_iff =>
    constructor
    · rintro ⟨pages, hread⟩
      obtain ⟨o, ho⟩ := hread.exists_eq_nil
      exact Nat.le_trans ((slice_eq_nil_iff hsize).1 ho) (Nat.min_le_right ..)
    · intro hlength
      have hsame : (fun o => slice (min o cap) size as) = fun o => slice o size as :=
        funext fun o => slice_min (.inr hlength)
      obtain ⟨pages, hread, -⟩ := exists_readOut_slice hsize as 0
      exact ⟨pages, hsame ▸ hread⟩
  case reaches_iff =>
    constructor
    · intro h
      refine Decidable.byContradiction fun hlong => ?_
      -- the first entry behind the last page is on none
      have hlast : cap + size < as.length := by omega
      obtain ⟨k, hk⟩ := h as[cap + size] (List.getElem_mem hlast)
      obtain ⟨i, -, hlt, hi⟩ := mem_slice_iff.1 hk
      have := hposition hlast hi
      omega
    · intro hlength a ha
      obtain ⟨i, hi, rfl⟩ := List.mem_iff_getElem.1 ha
      have hstart : i / size * size ≤ i := Nat.div_mul_le_self i size
      have hend : i < i / size * size + size := by
        rw [← Nat.succ_mul]
        exact Nat.lt_mul_of_div_lt (Nat.lt_succ_self _) hsize
      exact ⟨i / size, mem_slice_iff.2 ⟨i, by omega, by omega, List.getElem?_eq_getElem hi⟩⟩
  case read_out =>
    obtain ⟨pages, hread, hpages⟩ := exists_readOut_slice hsize as 0
    rw [List.drop_zero] at hpages
    exact ⟨pages, hread, hpages⟩

end Paging

namespace Database

/-! ### Over a database -/

/-- The end of a statement that takes a window of the rows it finds.  The places for this come after
a number of others. -/
def windowClause (places : Nat) : String :=
  "LIMIT $" ++ Numeral.write (places + 1 : Nat) ++ " OFFSET $" ++ Numeral.write (places + 2 : Nat)

/-- The statement takes at most a number of the rows that it finds, in their order, after it passed
over some others. -/
def Statement.Window (s : Statement) (limit offset : Nat) : Prop :=
  ∃ text values, s.sql = text ++ windowClause values.length ∧
    s.params = values ++ [.integer limit, .integer offset]

theorem window_listGrants (q : GrantQuery) :
    (Statement.listGrants q).Window (Paging.clamp q.limit) (min q.offset 5000) := by
  have hclause : windowClause 3 = "LIMIT $4 " ++ "OFFSET $5" := by decide +kernel
  obtain ⟨text, hsql⟩ : ∃ text, Sql.listGrants = text ++ windowClause 3 := by
    rw [hclause]
    exact ⟨_, String.append_assoc⟩
  exact ⟨text, [.optional .id q.userId, .boolean q.activeOnly, .date q.asOf], hsql, rfl⟩

theorem window_listRecentEntries (q : AuditQuery) :
    (Statement.listRecentEntries q).Window (Paging.clamp q.limit) (min q.offset 5000) := by
  have hclause : windowClause 2 = "LIMIT $3 " ++ "OFFSET $4" := by decide +kernel
  obtain ⟨text, hsql⟩ : ∃ text, Sql.listRecentEntries = text ++ windowClause 2 := by
    rw [hclause]
    exact ⟨_, String.append_assoc⟩
  exact ⟨text, [.optional .text q.action, .optional .id q.actorId], hsql, rfl⟩

/-- The first request is answered by such a statement, unless no connection can be taken. -/
def OpensWith (limit offset : Nat) (tss : List (List Turn)) : Prop :=
  ∃ ts rest, tss = ts :: rest ∧ ((∃ f, ts = [⟨.acquire, .error f⟩]) ∨
    ∃ s reply more, ts = ⟨.acquire, .ok ()⟩ :: ⟨.execute s, reply⟩ :: more ∧ s.Window limit offset)

theorem ensures_opensWith {β : Type} {limit offset : Nat} {tss : List (List Turn)}
    (h : OpensWith limit offset tss) (d : Calls β) :
    d.Ensures overDatabase (fun _ => OpensWith limit offset) tss := by
  induction d generalizing tss with
  | done b => exact h
  | ask c next ih =>
      intro r tss' hr
      refine ih r ?_
      cases c with
      | store q =>
          obtain ⟨ts, -, rfl⟩ := hr
          obtain ⟨first, rest, rfl, hfirst⟩ := h
          exact ⟨first, rest ++ [ts], rfl, hfirst⟩
      | _ => exact hr ▸ h

/-- How a listing is paged on both sides, for a page size and an offset. -/
structure Paged {β : Type} (list : Nat → Nat → Service (List β)) : Prop where
  /-- The database takes a page that starts after 5000 rows at most. -/
  database : ∀ limit offset, (list limit offset).run.Ensures overDatabase
    (fun _ => OpensWith (Paging.clamp limit) (min offset 5000)) []
  /-- The store in memory takes the page that starts where it was asked to. -/
  memory : ∀ w : World, w.script = .empty → ∃ all, ∀ limit offset,
    w.run (list limit offset) = (.ok (Paging.slice offset (Paging.clamp limit) all), w)

variable {actor : Principal}

theorem paged_listGrants (hactor : actor.active && actor.isAdmin) (owner : Option UserId)
    (activeOnly : Bool) :
    Paged fun limit offset =>
      GrantAdministration.list actor ⟨owner, activeOnly, limit, offset⟩ := by
  refine ⟨fun limit offset => ?_, fun w hw => ⟨w.listing owner activeOnly, fun limit offset =>
    World.run_list hw hactor ⟨owner, activeOnly, limit, offset⟩⟩⟩
  rw [GrantAdministration.list, Service.run_requireAdmin_bind, if_pos hactor,
    Service.run_now_bind, ensures_now]
  intro now
  rw [Service.run_request_bind, ensures_store]
  intro ts o hts
  refine ensures_opensWith ⟨ts, [], rfl, ?_⟩ _
  have hwindow := window_listGrants ⟨owner, activeOnly, now.date, Paging.clamp limit, offset⟩
  rw [Paging.clamp_clamp] at hwindow
  -- the rows are found first, and their capabilities are read later
  obtain ⟨e, hrows, -⟩ | ⟨rows, ts₁, ts₂, rfl, hrows, -⟩ := Attempt.held_bind.1 hts
  · obtain ⟨f, rfl, -⟩ | ⟨reply, rfl, -⟩ := Attempt.held_single.1 hrows
    · exact .inl ⟨f, rfl⟩
    · exact .inr ⟨_, reply, [], rfl, hwindow⟩
  · obtain ⟨f, -, ho⟩ | ⟨reply, rfl, -⟩ := Attempt.held_single.1 hrows
    · cases ho
    · exact .inr ⟨_, reply, ts₂, rfl, hwindow⟩

theorem paged_readAudit (hactor : actor.active && actor.isAdmin) (action : Option String)
    (actorId : Option UserId) :
    Paged fun limit offset => AuditReading.list actor ⟨limit, offset, action, actorId⟩ := by
  refine ⟨fun limit offset => ?_, fun w hw => ⟨w.entries action actorId, fun limit offset =>
    World.run_readAudit hw hactor ⟨limit, offset, action, actorId⟩⟩⟩
  rw [AuditReading.run_list hactor]
  refine ensures_store.2 fun ts o hts => ⟨ts, [], rfl, ?_⟩
  obtain ⟨f, rfl, -⟩ | ⟨reply, rfl, -⟩ := Attempt.held_single.1 hts
  · exact .inl ⟨f, rfl⟩
  · refine .inr ⟨_, reply, [], rfl, ?_⟩
    have hwindow := window_listRecentEntries ⟨Paging.clamp limit, offset, action, actorId⟩
    rwa [Paging.clamp_clamp] at hwindow

/-- **The listings are paged alike up to a depth of 5000 rows.**  The listings of grants and of the
audit log take windows of one size on both sides, but the window of the database starts after 5000
rows at most.  So a page is the same on both sides just when it starts, or the rows end, by there; a
reader of the database comes to an end just when there are no more rows, and sees all of them just
when there is at most one page more.  A reader of the store in memory always does both. -/
theorem pages_agree_to_depth (hactor : actor.active && actor.isAdmin) :
    (∀ owner activeOnly, Paged fun limit offset =>
      GrantAdministration.list actor ⟨owner, activeOnly, limit, offset⟩) ∧
    (∀ action actorId, Paged fun limit offset =>
      AuditReading.list actor ⟨limit, offset, action, actorId⟩) ∧
    ∀ (α : Type) (rows : List α) (limit : Nat), rows.Nodup →
      Paging.AgreesTo 5000 (Paging.clamp limit) rows :=
  ⟨paged_listGrants hactor, paged_readAudit hactor,
    fun _ _ limit hrows => Paging.agreesTo (Paging.one_le_clamp limit) hrows⟩

theorem pages_agree_to_depth_oneMore :
    (Principal.root.active && Principal.root.isAdmin) = true ∧
    (GrantAdministration.list .root ⟨none, false, 50, 5050⟩).run.Ensures overDatabase
      (fun _ => OpensWith 50 5000) [] ∧
    (List.range 5001).Nodup ∧
    ¬ ∃ pages, Paging.ReadOut (fun o => Paging.slice (min o 5000) 50 (List.range 5001)) 50 0
      pages := by
  have hroot : (Principal.root.active && Principal.root.isAdmin) = true := by decide
  have hrows : (List.range 5001).Nodup := List.nodup_range
  obtain ⟨hgrants, -, hpages⟩ := pages_agree_to_depth hroot
  refine ⟨hroot, (hgrants none false).database 50 5050, hrows, fun h => ?_⟩
  have hlength := (hpages Nat (List.range 5001) 50 hrows).ends_iff.1 h
  rw [List.length_range] at hlength
  omega

def emptySite : Site := ⟨.ready, .year1970, 0, id⟩

/-- Who asks for a page behind 5001 entries is shown another one: the database passes over 5000 rows
only, and takes an entry that is not on that page. -/
theorem deep_offset_is_cut :
    ¬ (∀ (actor : Principal) (q : GrantAdministration.ListQuery), actor.active && actor.isAdmin →
      (GrantAdministration.list actor q).run.Ensures overDatabase
        (fun _ => OpensWith (Paging.clamp q.limit) q.offset) []) ∧
    Paging.slice 5000 50 (List.range 5001) ≠ Paging.slice 5001 50 (List.range 5001) := by
  refine ⟨fun h => ?_, fun h => ?_⟩
  · obtain ⟨ts, rest, htss, ⟨f, hf⟩ | ⟨s, reply, more, hts, text, values, -, hparams⟩⟩ :=
      (h .root ⟨none, false, 50, 5001⟩ (by decide)).run_map Prod.snd Site.overDatabase_record
        (t := (emptySite, []))
    · cases htss
      cases hf
    · cases htss
      cases hts
      have hlast := congrArg List.getLast? hparams
      rw [List.getLast?_append] at hlast
      cases hlast
  · have hlength := congrArg List.length h
    rw [Paging.length_slice, Paging.length_slice, List.length_range] at hlength
    omega

end Database

end TableAccess
