/-
**Principals do not see each other.**

Who asks for its own identity or its own capabilities is answered from two things: what the store
knows of the owner of the token, and the grants of that principal.  Two stores that agree on these
give the same response, however much they differ in everything else: the grants, keys and identities
of others, the capabilities that may be granted, and the audit log.

Main definitions:

* `Store.SameGrants` — two stores have the same grants of a principal;
* `World.AlikeFor` — two worlds are alike for the owner of a token.

Main results:

* `Shelf.filter_values_congr` — what shelves have in common they list alike;
* `Store.activeCapabilities_congr` — the grants of a principal decide what it may do;
* `Http.Router.call_respond_own` — a request of a principal about itself is carried out for it;
* `Http.Router.isolates` — two worlds that are alike for a principal give it the same response.
-/
import TableAccess.Proofs.EffectiveCapabilities
import TableAccess.Proofs.Mediation
import TableAccess.Proofs.QuietWorld

set_option relaxedAutoImplicit false
set_option autoImplicit false

namespace TableAccess

/-! ### Shelves that have something in common -/

/-- **What two shelves have in common they list alike**: the things of a kind that are filed on both
under the same keys come in the same order. -/
theorem Shelf.filter_values_congr {κ α : Type} [LT κ] [LE κ] [Std.IsLinearOrder κ]
    [Std.LawfulOrderLT κ] [DecidableEq κ] {s t : Shelf κ α} {p : α → Bool}
    (h : ∀ k a, p a = true → (s.find? k = some a ↔ t.find? k = some a)) :
    s.values.filter p = t.values.filter p := by
  -- entries are in order by their keys, so it is enough that they are the same ones
  rw [Shelf.values, Shelf.values, List.filter_map, List.filter_map]
  refine congrArg (List.map Prod.snd) (ascending_ext (s.ascends.filter _) (t.ascends.filter _) ?_)
  rintro ⟨k, a⟩
  simp only [List.mem_filter, Shelf.mem_entries_iff, Function.comp_apply]
  constructor
  · rintro ⟨hk, hp⟩
    exact ⟨(h k a hp).1 hk, hp⟩
  · rintro ⟨hk, hp⟩
    exact ⟨(h k a hp).2 hk, hp⟩

namespace Store

variable {s t : Store} {user : UserId}

/-- Two stores have the same grants of a principal, under the same numbers. -/
def SameGrants (s t : Store) (user : UserId) : Prop :=
  ∀ i g, g.userId = user → (s.grants.find? i = some g ↔ t.grants.find? i = some g)

/-- **The grants of a principal decide what it may do.** -/
theorem activeCapabilities_congr (h : s.SameGrants t user) (today : Date) :
    s.activeCapabilities user today = t.activeCapabilities user today := by
  unfold activeCapabilities
  rw [Shelf.filter_values_congr fun i g hg => h i g ?_]
  simp only [Bool.and_eq_true, decide_eq_true_eq] at hg
  exact hg.1

end Store

/-- Two worlds are alike for the owner of a token: nothing is prepared in either, their clocks show
the same time, both know the active owner, and both have the same grants of that principal. -/
structure World.AlikeFor (w w' : World) (token : String) (p : Principal) : Prop where
  script : w.script = .empty
  script' : w'.script = .empty
  clock : w.clock = w'.clock
  resolves : w.Resolves token p
  resolves' : w'.Resolves token p
  grants : w.store.SameGrants w'.store p.id

namespace Http

/-- What an active principal is told about itself: who it is, or what it may do. -/
def ownView (p : Principal) (cs : List Capability) : Route → Json
  | .me => View.principal p
  | _ => View.list View.capability cs

/-- The operations for active principals answer with their identity or their capabilities, and
change nothing. -/
theorem Endpoint.call_guarded_own (s : Settings) {w : World} (m : Message) {r : Route}
    (p : Principal) (hscript : w.script = .empty) (haccess : r.access = .activePrincipal) :
    (w.call (guarded s p r m)).1 =
        .ofJson 200 (ownView p (w.store.activeCapabilities p.id w.clock.date) r) ∧
      (w.call (guarded s p r m)).2.store = w.store := by
  cases r with
  | me => exact ⟨rfl, rfl⟩
  | tablePermissions =>
      have hrun := GrantAdministration.run_effectiveCapabilities_world
        (congrFun hscript .listActiveCapabilities) p
      have hstore : (w.run (GrantAdministration.effectiveCapabilities p)).2.store = w.store :=
        World.call_store_of_reads (Service.asks_effectiveCapabilities fun _ => rfl)
      change (w.call (respond 200 _ _)).1 = _ ∧ (w.call (respond 200 _ _)).2.store = _
      rw [respond, World.call_bind]
      refine ⟨?_, hstore⟩
      change Response.ofOutcome 200 _ (w.run (GrantAdministration.effectiveCapabilities p)).1 = _
      rw [hrun]
      rfl
  | _ => cases haccess

namespace Router

/-- **A request of an active principal about itself is answered by its identity or its
capabilities**, and changes nothing. -/
theorem call_respond_own (router : Router) {w : World} {m : Message} {r : Route} {token : String}
    {p : Principal} (hscript : w.script = .empty) (hr : Route.ofPath? m.path = some r)
    (hmethod : m.method ∈ r.methods) (haccess : r.access = .activePrincipal)
    (htoken : m.Presents token) (hresolves : w.Resolves token p) :
    (w.call (router.respond m)).1 = router.finish m
        (.ofJson 200 (ownView p (w.store.activeCapabilities p.id w.clock.date) r)) ∧
      (w.call (router.respond m)).2.store = w.store := by
  have hfaults : w.script.FaultsOnly := hscript ▸ Script.faultsOnly_empty
  -- the path is not one of the administration, so the token is enough
  have hadmits : Admits w m p := by
    refine ⟨token, htoken, hresolves, fun hadmin => ?_⟩
    cases haccess.symm.trans ((Route.access_of_ofPath? hr).1.2 hadmin)
  have hpass := (passesOn_iff_admits hfaults hr).2 hadmits
  obtain ⟨hanswer, hstore⟩ := Endpoint.call_guarded_own router.settings m p hscript haccess
  rw [call_respond_of_passesOn router hfaults hr hmethod (by simp [haccess]) hpass,
    World.advance_of_empty hscript]
  exact ⟨congrArg (router.finish m) hanswer, hstore⟩

/-- **Principals do not see each other.**  Two worlds show the same time, both know the active owner
of a token, and both have the same grants of that principal.  Whatever else there is in their
stores, a request with the token for the identity or the capabilities of its owner has the same
response in both, and changes neither store. -/
theorem isolates (router : Router) {w w' : World} {m : Message} {token : String} {p : Principal}
    (h : w.AlikeFor w' token p) (hmethod : m.method = .post)
    (hpath : m.path = "/api/v1/me".toList ∨ m.path = "/api/v1/table-permissions".toList)
    (htoken : m.Presents token) :
    (w.call (router.respond m)).1 = (w'.call (router.respond m)).1 ∧
      (w.call (router.respond m)).1.status = 200 ∧
      (w.call (router.respond m)).2.store = w.store ∧
      (w'.call (router.respond m)).2.store = w'.store := by
  obtain ⟨r, hr, hmem, haccess⟩ : ∃ r, Route.ofPath? m.path = some r ∧ m.method ∈ r.methods ∧
      r.access = .activePrincipal := by
    rw [hmethod]
    rcases hpath with hpath | hpath
    · exact ⟨.me, by rw [hpath]; decide, List.mem_singleton_self _, rfl⟩
    · exact ⟨.tablePermissions, by rw [hpath]; decide, List.mem_singleton_self _, rfl⟩
  obtain ⟨hanswer, hstore⟩ := call_respond_own router h.script hr hmem haccess htoken h.resolves
  obtain ⟨hanswer', hstore'⟩ := call_respond_own router h.script' hr hmem haccess htoken h.resolves'
  refine ⟨?_, ?_, hstore, hstore'⟩
  · rw [hanswer, hanswer', h.clock, Store.activeCapabilities_congr h.grants]
  · rw [hanswer, status_finish]
    rfl

/-- A store in which one principal has a key and a grant. -/
def alone : Store :=
  let today := Instant.year1970.date
  Store.acts [.putPrincipal .ann, .putKey .year1970 ⟨2⟩ ⟨"alpha"⟩, .putCapability ⟨11⟩ "orders",
    .serve .year1970 (.createGrant ⟨⟨2⟩, today, today, .ofList [⟨11⟩]⟩ ⟨1⟩)] .empty

/-- The same store after another principal came and got a key and a grant as well. -/
def crowded : Store :=
  let today := Instant.year1970.date
  Store.acts [.putPrincipal .root, .putKey .year1970 ⟨1⟩ ⟨"beta"⟩, .putCapability ⟨12⟩ "stock",
    .serve .year1970 (.createGrant ⟨⟨1⟩, today, today, .ofList [⟨12⟩]⟩ ⟨1⟩)] alone

def plain (s : Store) : World := ⟨s, .empty, .year1970, .year1970, 0, id⟩

def askOwnCapabilities : Message where
  method := .post
  path := "/api/v1/table-permissions".toList
  query := []
  headers := [("Authorization", "Bearer alpha")]
  body := []

theorem isolates_crowded :
    (plain alone).AlikeFor (plain crowded) "alpha" .ann ∧ askOwnCapabilities.Presents "alpha" ∧
    ((plain alone).call (local8080.respond askOwnCapabilities)).1 =
      ((plain crowded).call (local8080.respond askOwnCapabilities)).1 ∧
    ((plain alone).call (local8080.respond askOwnCapabilities)).1.status = 200 := by
  have hscript : ∀ {s e cues}, (plain s).script .resolveKey ≠ .fail e :: cues := by
    intro s e cues hcues
    cases hcues
  have hgrants : alone.SameGrants crowded ⟨2⟩ := by
    intro i g huser
    change _ ↔ (alone.grants.insert ⟨2⟩ _).find? i = some g
    rw [Shelf.find?_insert]
    split
    · next hi =>
        -- the number of the new grant was not taken, and the new grant is another principal's
        subst hi
        constructor
        · intro hg
          cases hg
        · intro hg
          cases hg
          cases huser
    · exact Iff.rfl
  have halike : (plain alone).AlikeFor (plain crowded) "alpha" .ann :=
    ⟨rfl, rfl, rfl, ⟨fun _ _ => hscript, _, rfl, rfl⟩, ⟨fun _ _ => hscript, _, rfl, rfl⟩, hgrants⟩
  have hpresents : askOwnCapabilities.Presents "alpha" :=
    ⟨by decide, .obj [], ⟨by decide, .inl ⟨rfl, rfl⟩⟩, by decide +kernel⟩
  obtain ⟨hsame, hstatus, -⟩ := isolates local8080 halike rfl (.inr rfl) hpresents
  exact ⟨halike, hpresents, hsame, hstatus⟩

end Router

end Http

end TableAccess
