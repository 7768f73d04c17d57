/-
**The listings of keys and of capabilities.**

Keys are listed with the one that was changed last first, and keys that were changed at the same
moment by owner.  The sort compares moments only, so this order rests on the order in which records
are filed.  Each record comes under the names that the store knows of its owner and of whoever
changed it.  A record that is filed with a moment after all others moves to the front, and the
others stay in their order.

Main definitions:

* `AccessKeyRecord.ListedBefore` — the order of the listing;
* `KeyListing.Shows` — a listed record has the names of its own people;
* `Store.OwnCapabilityIds` — capabilities are filed under their own identifiers.

Main results:

* `Store.keyListings_perm`, `Store.pairwise_keyListings` — the listing is complete and in order;
* `Store.keyListings_insert` — **what was changed last comes first**;
* `Store.listings_are_in_order` — both listings, and the listing after a rotation.
-/
import TableAccess.Proofs.CalendarDays
import TableAccess.Proofs.EffectiveCapabilities
import TableAccess.Proofs.KeyStore
import TableAccess.Proofs.Reached
import TableAccess.Proofs.Shelves

set_option relaxedAutoImplicit false
set_option autoImplicit false

namespace TableAccess

/-! ### The order of instants -/

namespace Instant

variable {a b c : Instant}

theorem precedes_iff : a.precedes b = true ↔ a.date.rank < b.date.rank ∨
    a.date.rank = b.date.rank ∧ (a.second < b.second ∨ a.second = b.second ∧ a.nano < b.nano) := by
  simp [precedes, Date.lt_def]

theorem not_precedes_iff : (!a.precedes b) = true ↔ ¬ a.precedes b = true := by
  rw [Bool.not_eq_true', Bool.not_eq_true]

theorem not_precedes_self (a : Instant) : ¬ a.precedes a = true := by
  rw [precedes_iff]
  omega

theorem precedes_asymm (h : a.precedes b = true) : ¬ b.precedes a = true := by
  rw [precedes_iff] at *
  omega

/-- Of two instants, neither of which comes before the other, there is only one. -/
theorem eq_of_not_precedes (h : ¬ a.precedes b = true) (h' : ¬ b.precedes a = true) : a = b := by
  rw [precedes_iff] at h h'
  have hdate : a.date = b.date :=
    Date.eq_of_not_lt (by rw [Date.lt_def]; omega) (by rw [Date.lt_def]; omega)
  exact Instant.ext hdate (by omega) (by omega)

theorem not_precedes_trans (h : ¬ a.precedes b = true) (h' : ¬ b.precedes c = true) :
    ¬ a.precedes c = true := by
  rw [precedes_iff] at *
  omega

end Instant

/-! ### The order of keys -/

/-- One record is listed before another: it was changed later, or at the same moment and its owner
comes first. -/
def AccessKeyRecord.ListedBefore (q r : AccessKeyRecord) : Prop :=
  r.changedAt.precedes q.changedAt = true ∨ q.changedAt = r.changedAt ∧ q.userId < r.userId

namespace AccessKeyRecord

variable {q r : AccessKeyRecord}

theorem not_listedBefore_self (r : AccessKeyRecord) : ¬ r.ListedBefore r := by
  rintro (hlater | ⟨-, huser⟩)
  · exact Instant.not_precedes_self _ hlater
  · rw [Id.lt_def] at huser
    omega

theorem ListedBefore.asymm (h : q.ListedBefore r) : ¬ r.ListedBefore q := by
  rintro (hlater' | ⟨htime', huser'⟩)
  · rcases h with hlater | ⟨htime, -⟩
    · exact Instant.precedes_asymm hlater hlater'
    · exact Instant.not_precedes_self _ (htime ▸ hlater')
  · rcases h with hlater | ⟨-, huser⟩
    · exact Instant.not_precedes_self _ (htime' ▸ hlater)
    · rw [Id.lt_def] at huser huser'
      omega

end AccessKeyRecord

/-! ### Names -/

/-- A listed record has the names of its own people: that of its owner, and that of whoever changed
it last if that is known.  Who is gone is named by number. -/
structure KeyListing.Shows (l : KeyListing) (s : Store) : Prop where
  owner_name : ∀ p, s.principals.find? l.record.userId = some p → l.displayName = p.displayName
  missing_owner : s.principals.find? l.record.userId = none →
    l.displayName = "user " ++ l.record.userId.write
  unchanged : l.record.changedBy = none → l.changedByName = none
  changer_name : ∀ u p, l.record.changedBy = some u → s.principals.find? u = some p →
    l.changedByName = some p.displayName
  missing_changer : ∀ u, l.record.changedBy = some u → s.principals.find? u = none →
    l.changedByName = some ("user " ++ u.write)

namespace Store

variable {s t : Store} {u : UserId} {r : AccessKeyRecord} {l : KeyListing}

theorem listing_shows (s : Store) (r : AccessKeyRecord) : (s.listing r).Shows s where
  owner_name _ hp := nameOf_of_find? hp
  missing_owner hnone := nameOf_of_missing hnone
  unchanged hnone := by
    rw [listing] at hnone ⊢
    exact congrArg (Option.map s.nameOf) hnone
  changer_name v p hv hp := by
    rw [listing] at hv ⊢
    rw [show r.changedBy = some v from hv, Option.map_some, nameOf_of_find? hp]
  missing_changer v hv hnone := by
    rw [listing] at hv ⊢
    rw [show r.changedBy = some v from hv, Option.map_some, nameOf_of_missing hnone]

/-! ### The listing of keys -/

/-- **The listing is complete**: it has every record once. -/
theorem keyListings_perm (s : Store) :
    (s.keyListings.map KeyListing.record).Perm s.accessKeys.values := by
  have hperm : s.keyListings.Perm (s.accessKeys.values.map s.listing) := List.mergeSort_perm _ _
  refine (hperm.map KeyListing.record).trans (List.Perm.of_eq ?_)
  rw [List.map_map]
  exact List.map_id _

theorem mem_keyListings :
    l ∈ s.keyListings ↔ ∃ u r, s.accessKeys.find? u = some r ∧ s.listing r = l := by
  rw [keyListings, List.mem_mergeSort, List.mem_map]
  simp only [Shelf.mem_values_iff]
  constructor
  · rintro ⟨r, ⟨v, hv⟩, hl⟩
    exact ⟨v, r, hv, hl⟩
  · rintro ⟨v, r, hv, hl⟩
    exact ⟨r, ⟨v, hv⟩, hl⟩

/-- **The listing is in order**, if records are filed under their owners. -/
theorem pairwise_keyListings (hs : ∀ u r, s.accessKeys.find? u = some r → r.userId = u) :
    s.keyListings.Pairwise fun l m => l.record.ListedBefore m.record := by
  have hfiled : (s.accessKeys.values.map s.listing).Pairwise
      fun l m => l.record.userId < m.record.userId :=
    List.pairwise_map.2 (Shelf.pairwise_values hs)
  refine (pairwise_mergeSort_of_pairwise (fun a b c hab hbc => ?_) (fun a b => ?_) hfiled).imp
    fun {l m} h => ?_
  · rw [Instant.not_precedes_iff] at *
    exact Instant.not_precedes_trans hab hbc
  · rw [Bool.or_eq_true, Instant.not_precedes_iff, Instant.not_precedes_iff]
    by_cases hab : a.record.changedAt.precedes b.record.changedAt = true
    · exact .inr (Instant.precedes_asymm hab)
    · exact .inl hab
  · rw [Instant.not_precedes_iff, Instant.not_precedes_iff] at h
    obtain ⟨hle, hback⟩ := h
    by_cases hlater : m.record.changedAt.precedes l.record.changedAt = true
    · exact .inl hlater
    · exact .inr ⟨Instant.eq_of_not_precedes hle hlater, hback hlater⟩

theorem listings_ext {ls ms : List KeyListing}
    (hls : ls.Pairwise fun l m => l.record.ListedBefore m.record)
    (hms : ms.Pairwise fun l m => l.record.ListedBefore m.record)
    (h : ∀ l, l ∈ ls ↔ l ∈ ms) : ls = ms := by
  have hirrefl : Std.Irrefl fun l m : KeyListing => l.record.ListedBefore m.record :=
    ⟨fun l => l.record.not_listedBefore_self⟩
  have hantisymm : Std.Antisymm fun l m : KeyListing => l.record.ListedBefore m.record :=
    ⟨fun l m hlm hml => absurd hml hlm.asymm⟩
  exact hls.eq_of_mem_iff hms h

/-- **What was changed last comes first**: a record that is filed with a moment after those of all
others is at the front of the listing, and the others follow in their order. -/
theorem keyListings_insert (hs : ∀ u r, s.accessKeys.find? u = some r → r.userId = u)
    (hr : r.userId = u) (hlast : ∀ v q, v ≠ u → s.accessKeys.find? v = some q →
      q.changedAt.precedes r.changedAt = true) :
    keyListings { s with accessKeys := s.accessKeys.insert u r } =
      s.listing r :: s.keyListings.filter fun l => l.record.userId ≠ u := by
  have hmem : ∀ l, l ∈ (s.keyListings.filter fun l => l.record.userId ≠ u) ↔
      ∃ v q, v ≠ u ∧ s.accessKeys.find? v = some q ∧ s.listing q = l := by
    intro l
    rw [List.mem_filter, mem_keyListings, decide_eq_true_eq]
    constructor
    · rintro ⟨⟨v, q, hq, rfl⟩, hne⟩
      exact ⟨v, q, hs v q hq ▸ hne, hq, rfl⟩
    · rintro ⟨v, q, hne, hq, rfl⟩
      refine ⟨⟨v, q, hq, rfl⟩, ?_⟩
      rw [← hs v q hq] at hne
      exact hne
  refine listings_ext (pairwise_keyListings fun v q hq => ?_)
    (List.pairwise_cons.2 ⟨fun l hl => ?_, (pairwise_keyListings hs).filter _⟩) fun l => ?_
  · rw [Shelf.find?_insert] at hq
    split at hq
    · next huv =>
        cases hq
        rw [hr, huv]
    · exact hs v q hq
  · obtain ⟨v, q, hne, hq, rfl⟩ := (hmem l).1 hl
    exact .inl (hlast v q hne hq)
  · rw [List.mem_cons, hmem, mem_keyListings]
    constructor
    · rintro ⟨v, q, hq, rfl⟩
      rw [Shelf.find?_insert] at hq
      split at hq
      · cases hq
        exact .inl rfl
      · next huv => exact .inr ⟨v, q, Ne.symm huv, hq, rfl⟩
    · rintro (rfl | ⟨v, q, hne, hq, rfl⟩)
      · exact ⟨u, r, by rw [Shelf.find?_insert, if_pos rfl], rfl⟩
      · exact ⟨v, q, by rw [Shelf.find?_insert, if_neg (Ne.symm hne), hq], rfl⟩

/-- A rotation that goes through files the record of the user again. -/
theorem rotateKey_eq_ok {now : Instant} {k : AccessKey} {c : UserId}
    (h : s.rotateKey now u k c = (.ok (some r), t)) :
    (∃ q, s.accessKeys.find? u = some q ∧ r = q.renewed k now c) ∧
      t = { s with accessKeys := s.accessKeys.insert u r } := by
  obtain ⟨e, he⟩ | ⟨-, he⟩ | ⟨q, hq, -, he⟩ := s.rotateKey_cases now u k c
  · cases he.symm.trans h
  · cases he.symm.trans h
  · cases he.symm.trans h
    exact ⟨⟨q, hq, rfl⟩, rfl⟩

/-! ### The listing of capabilities -/

/-- Capabilities are filed under their own identifiers. -/
def OwnCapabilityIds (s : Store) : Prop := ∀ id c, s.capabilities.find? id = some c → c.id = id

theorem Reached.ownCapabilityIds (hs : s.Reached) : s.OwnCapabilityIds := hs.capability_id

/-- **Capabilities are listed by resource**, and those of one resource by identifier. -/
theorem pairwise_grantable (hs : s.OwnCapabilityIds) : s.grantable.Pairwise fun c d =>
    c.resourceName < d.resourceName ∨ c.resourceName = d.resourceName ∧ c.id < d.id :=
  pairwise_mergeSort_name (Shelf.pairwise_values hs)

/-! ### Both listings -/

/-- **The listings are complete and in order.**  The listing of keys has every record once, the one
that was changed last first and those that were changed at the same moment by owner, each under the
names of its own people.  If a rotation goes through at a moment after all that are stored, the
record that it changed comes first from then on, and the others follow as they did.  The listing of
capabilities has every capability once, by resource and then by identifier. -/
theorem listings_are_in_order (hkeys : s.KeysSound) (hcapabilities : s.OwnCapabilityIds)
    (now : Instant) :
    (∃ ls : List KeyListing, s.answer now .listKeys = (.ok ls, s) ∧
      (ls.map KeyListing.record).Perm s.accessKeys.values ∧
      (ls.map KeyListing.record).Pairwise AccessKeyRecord.ListedBefore ∧
      (∀ l ∈ ls, l.Shows s) ∧
      ∀ (rotated later : Instant) (u c : UserId) (k : AccessKey) (r : AccessKeyRecord)
        (t : Store),
        s.answer rotated (.rotateKey u k c) = (.ok (some r), t) →
        (∀ v q, s.accessKeys.find? v = some q → q.changedAt.precedes rotated = true) →
        r.userId = u ∧ ∃ l, l.record = r ∧ l.Shows t ∧
          t.answer later .listKeys = (.ok (l :: ls.filter fun l => l.record.userId ≠ u), t)) ∧
    ∃ cs : List Capability, s.answer now .listGrantable = (.ok cs, s) ∧
      cs.Perm s.capabilities.values ∧
      cs.Pairwise fun c d =>
        c.resourceName < d.resourceName ∨ c.resourceName = d.resourceName ∧ c.id < d.id := by
  refine ⟨⟨s.keyListings, rfl, s.keyListings_perm,
    List.pairwise_map.2 (pairwise_keyListings hkeys.filed), fun l hl => ?_, ?_⟩,
    s.grantable, rfl, List.mergeSort_perm _ _, pairwise_grantable hcapabilities⟩
  · obtain ⟨u, r, -, rfl⟩ := mem_keyListings.1 hl
    exact s.listing_shows r
  · intro rotated later u c k r t hrotated hlast
    obtain ⟨⟨q, hq, hr⟩, rfl⟩ := rotateKey_eq_ok hrotated
    have huser : r.userId = u := by
      rw [hr]
      exact hkeys.filed u q hq
    -- a rotation moves no principal, so the names are those that were known before
    have hshows : (s.listing r).Shows { s with accessKeys := s.accessKeys.insert u r } :=
      listing_shows { s with accessKeys := s.accessKeys.insert u r } r
    refine ⟨huser, s.listing r, rfl, hshows, ?_⟩
    rw [answer, keyListings_insert hkeys.filed huser fun v p _ hp => ?_]
    rw [hr]
    exact hlast v p hp

/-- Two users with a key each, of whom one is an administrator, and two capabilities for a table. -/
def keyRoom : Store :=
  ((twoKeys.putPrincipal .root).putCapability ⟨7⟩ "orders").putCapability ⟨4⟩ "orders"

/-- A year after the keys were issued that of the second user is replaced; it comes first from then
on, and it is seen who did it. -/
theorem listings_are_in_order_keyRoom :
    keyRoom.KeysSound ∧ keyRoom.OwnCapabilityIds ∧
    ∃ rotated r t, (∀ v q, keyRoom.accessKeys.find? v = some q →
        q.changedAt.precedes rotated = true) ∧
      keyRoom.answer rotated (.rotateKey ⟨2⟩ ⟨"gamma"⟩ ⟨1⟩) = (.ok (some r), t) ∧
      ∃ l others, t.answer rotated .listKeys = (.ok (l :: others), t) ∧ l.record = r ∧
        l.displayName = "user 2" ∧ l.changedByName = some "root" := by
  have hkeys : keyRoom.KeysSound := twoKeys_sound.congr rfl
  have hreached : keyRoom.Reached :=
    .putCapability _ _ (.putCapability _ _ (.putPrincipal _ (.putKey _ _ _ (.putKey _ _ _ .empty))))
  obtain ⟨rotated, hrotated⟩ : ∃ t : Instant, t = .startOf ⟨1971, 1, 1, by decide⟩ := ⟨_, rfl⟩
  have hlast : ∀ q ∈ keyRoom.accessKeys.values, q.changedAt.precedes rotated = true := by
    rw [hrotated]
    decide +kernel
  have hlater : ∀ v q, keyRoom.accessKeys.find? v = some q →
      q.changedAt.precedes rotated = true := fun v q hq => hlast q (Shelf.mem_values_of_find? hq)
  obtain ⟨⟨ls, -, -, -, -, hrotation⟩, -⟩ :=
    listings_are_in_order hkeys hreached.ownCapabilityIds rotated
  obtain ⟨-, l, hl, hshows, hlisted⟩ :=
    hrotation rotated rotated ⟨2⟩ ⟨1⟩ ⟨"gamma"⟩ _ _ rfl hlater
  have huser : l.record.userId = ⟨2⟩ := by rw [hl]
  have hchanger : l.record.changedBy = some ⟨1⟩ := by rw [hl]
  refine ⟨hkeys, hreached.ownCapabilityIds, rotated, _, _, hlater, rfl, l, _, hlisted, hl, ?_,
    hshows.changer_name ⟨1⟩ .root hchanger rfl⟩
  rw [hshows.missing_owner (by rw [huser]; rfl), huser]
  decide +kernel

end Store

end TableAccess
