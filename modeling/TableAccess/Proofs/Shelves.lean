/-
**What a shelf holds.**

A shelf can be seen in two ways: by looking a key up, and as the list of all it holds.  This module
ties the two together, so that a property of everything on a shelf can be checked key by key.  It
says in which order things come that are sorted, and what each change to a shelf does to the number
of entries of some kind.

Main definitions:

* `Shelf.tally` — the number of entries of some kind.

Main results:

* `Shelf.mem_entries_iff` — the entries are what looking up finds;
* `Shelf.mem_values_iff` — so are the things filed;
* `Shelf.nodup_map_values` — a view that tells any two entries apart has no repetition;
* `Shelf.pairwise_values` — things that know their keys come in the order of these;
* `pairwise_mergeSort_of_pairwise`, `pairwise_mergeSort_name` — things that are sorted stay in the
  order in which they came where the sorting does not tell them apart;
* `Shelf.mapValues_mapValues`, `Shelf.mapValues_eq_self` — changing everything twice, or not at all;
* `Shelf.tally_insert`, `Shelf.tally_erase`, `Shelf.tally_mapValues` — counting after a change;
* `Shelf.tally_key` — there is one entry under a key at most.
-/
import TableAccess.Collection.Shelf

set_option relaxedAutoImplicit false
set_option autoImplicit false

namespace TableAccess

/-- Sorting is stable: of two things that the order does not tell apart, the one that came first
still does. -/
theorem pairwise_mergeSort_of_pairwise {α : Type} {le : α → α → Bool} {r : α → α → Prop}
    (htrans : ∀ a b c, le a b = true → le b c = true → le a c = true)
    (htotal : ∀ a b, (le a b || le b a) = true) {as : List α} (h : as.Pairwise r) :
    (as.mergeSort le).Pairwise fun a b => le a b = true ∧ (le b a = true → r a b) := by
  induction as with
  | nil => simp
  | cons a as ih =>
      obtain ⟨hfirst, hrest⟩ := List.pairwise_cons.1 h
      -- the first thing goes into the sorted rest, behind what the order puts before it
      obtain ⟨before, after, hcons, has, hbefore⟩ := List.mergeSort_cons htrans htotal a as
      have hsorted := List.pairwise_mergeSort htrans htotal (a :: as)
      have hothers := ih hrest
      rw [hcons, List.pairwise_append, List.pairwise_cons] at hsorted
      rw [has, List.pairwise_append] at hothers
      obtain ⟨-, ⟨hle, -⟩, hcross⟩ := hsorted
      obtain ⟨hb, ha, hba⟩ := hothers
      have hmem : ∀ x ∈ after, x ∈ as := fun x hx =>
        List.mem_mergeSort.1 (has ▸ List.mem_append_right before hx)
      rw [hcons]
      refine List.pairwise_append.2 ⟨hb, List.pairwise_cons.2 ⟨fun x hx => ?_, ha⟩, ?_⟩
      · exact ⟨hle x hx, fun _ => hfirst x (hmem x hx)⟩
      · intro x hx y hy
        rcases List.mem_cons.1 hy with rfl | hy
        · refine ⟨hcross x hx y (List.mem_cons_self ..), fun hyx => ?_⟩
          have hnot := hbefore x hx
          rw [hyx] at hnot
          cases hnot
        · exact hba x hx y hy

/-- Things that are sorted by name come in the order of their names, and those of one name in the
order in which they came. -/
theorem pairwise_mergeSort_name {α : Type} {name : α → String} {r : α → α → Prop} {as : List α}
    (h : as.Pairwise r) : (as.mergeSort fun a b => name a ≤ name b).Pairwise fun a b =>
      name a < name b ∨ name a = name b ∧ r a b := by
  have htrans : ∀ a b c : α, decide (name a ≤ name b) = true →
      decide (name b ≤ name c) = true → decide (name a ≤ name c) = true := by
    intro a b c hab hbc
    rw [decide_eq_true_eq] at *
    exact String.le_trans hab hbc
  have htotal : ∀ a b : α,
      (decide (name a ≤ name b) || decide (name b ≤ name a)) = true := by
    intro a b
    rw [Bool.or_eq_true, decide_eq_true_eq, decide_eq_true_eq]
    exact String.le_total (name a) (name b)
  refine (pairwise_mergeSort_of_pairwise htrans htotal h).imp fun {a b} hab => ?_
  rw [decide_eq_true_eq, decide_eq_true_eq] at hab
  obtain ⟨hle, hback⟩ := hab
  by_cases hlt : name a < name b
  · exact .inl hlt
  · have hge : name b ≤ name a := String.not_lt.1 hlt
    exact .inr ⟨String.le_antisymm hle hge, hback hge⟩

namespace Shelf

variable {κ α β : Type} [LT κ] [DecidableEq κ]

/-! ### Entries and looking up -/

omit [LT κ] in
theorem mem_of_findIn {k : κ} {a : α} {es : List (κ × α)} (h : findIn k es = some a) :
    (k, a) ∈ es := by
  induction es with
  | nil => simp at h
  | cons e es ih =>
      obtain ⟨j, b⟩ := e
      unfold findIn at h
      split at h
      · next hjk =>
          cases h
          subst hjk
          exact List.mem_cons_self ..
      · exact List.mem_cons_of_mem _ (ih h)

omit [LT κ] in
theorem eraseIn_of_findIn_eq_none {k : κ} {es : List (κ × α)} (h : findIn k es = none) :
    eraseIn k es = es := by
  induction es with
  | nil => rfl
  | cons e es ih =>
      obtain ⟨j, b⟩ := e
      unfold findIn at h
      split at h
      · cases h
      · next hjk => rw [eraseIn, if_neg hjk, ih h]

/-- Taking out what is not there changes nothing. -/
theorem erase_of_find?_eq_none {s : Shelf κ α} {k : κ} (h : s.find? k = none) : s.erase k = s :=
  Shelf.ext (eraseIn_of_findIn_eq_none h)

section Order

variable [LE κ] [Std.IsLinearOrder κ] [Std.LawfulOrderLT κ]

theorem findIn_of_mem {k : κ} {a : α} {es : List (κ × α)} (hes : es.Pairwise (·.1 < ·.1))
    (h : (k, a) ∈ es) : findIn k es = some a := by
  induction es with
  | nil => cases h
  | cons e es ih =>
      obtain ⟨j, b⟩ := e
      have hj := List.pairwise_cons.1 hes
      rcases List.mem_cons.1 h with he | he
      · cases he
        simp [findIn]
      · have hjk : j < k := hj.1 (k, a) he
        have hne : j ≠ k := by grind
        rw [findIn, if_neg hne]
        exact ih hj.2 he

/-- **The entries of a shelf are what looking up finds.** -/
theorem mem_entries_iff {s : Shelf κ α} {k : κ} {a : α} :
    (k, a) ∈ s.entries ↔ s.find? k = some a :=
  ⟨findIn_of_mem s.ascends, mem_of_findIn⟩

theorem mem_values_iff {s : Shelf κ α} {a : α} : a ∈ s.values ↔ ∃ k, s.find? k = some a := by
  constructor
  · intro h
    obtain ⟨e, he, rfl⟩ := List.mem_map.1 h
    exact ⟨e.1, mem_entries_iff.1 he⟩
  · rintro ⟨k, hk⟩
    exact List.mem_map.2 ⟨(k, a), mem_entries_iff.2 hk, rfl⟩

theorem mem_values_of_find? {s : Shelf κ α} {k : κ} {a : α} (h : s.find? k = some a) :
    a ∈ s.values := mem_values_iff.2 ⟨k, h⟩

/-! ### Views without repetition -/

/-- If a view of what is filed tells the keys apart, no two things have the same view. -/
theorem nodup_map_values {s : Shelf κ α} (f : α → β)
    (hf : ∀ k j a b, s.find? k = some a → s.find? j = some b → f a = f b → k = j) :
    (s.values.map f).Nodup := by
  rw [values, List.map_map, List.Nodup, List.pairwise_map]
  refine s.ascends.imp_of_mem fun {x y} hx hy hlt heq => ?_
  have hxy := hf x.1 y.1 x.2 y.2 (mem_entries_iff.1 hx) (mem_entries_iff.1 hy) heq
  grind

theorem pairwise_values {s : Shelf κ α} {f : α → κ} (hf : ∀ k a, s.find? k = some a → f a = k) :
    s.values.Pairwise (f · < f ·) := by
  rw [values, List.pairwise_map]
  refine s.ascends.imp_of_mem fun {x y} hx hy hlt => ?_
  rw [hf x.1 x.2 (mem_entries_iff.1 hx), hf y.1 y.2 (mem_entries_iff.1 hy)]
  exact hlt

end Order

/-! ### Changing everything -/

omit [DecidableEq κ] in
theorem values_mapValues (s : Shelf κ α) (f : α → β) : (s.mapValues f).values = s.values.map f := by
  simp only [values, mapValues, List.map_map, Function.comp_def]

omit [DecidableEq κ] in
/-- Two changes of everything, one after the other, are one change. -/
theorem mapValues_mapValues {γ : Type} (s : Shelf κ α) (f : α → β) (g : β → γ) :
    (s.mapValues f).mapValues g = s.mapValues fun a => g (f a) := by
  simp only [mapValues, List.map_map, Function.comp_def]

theorem mapValues_eq_self [LE κ] [Std.IsLinearOrder κ] [Std.LawfulOrderLT κ] {s : Shelf κ α}
    {f : α → α} (h : ∀ k a, s.find? k = some a → f a = a) : s.mapValues f = s := by
  refine Shelf.ext ((List.map_congr_left fun e he => ?_).trans (List.map_id s.entries))
  exact Prod.ext rfl (h e.1 e.2 (mem_entries_iff.1 he))

/-! ### Searching -/

/-- What a search through a shelf finds is filed there and passes the test. -/
theorem find?_values_eq_some [LE κ] [Std.IsLinearOrder κ] [Std.LawfulOrderLT κ] {s : Shelf κ α}
    {p : α → Bool} {a : α} (h : s.values.find? p = some a) : (∃ k, s.find? k = some a) ∧ p a :=
  ⟨mem_values_iff.1 (List.mem_of_find?_eq_some h), List.find?_some h⟩

/-! ### Counting -/

/-- The number of entries of some kind. -/
def tally (p : κ → α → Bool) (s : Shelf κ α) : Nat := s.entries.countP fun e => p e.1 e.2

omit [DecidableEq κ] in
theorem tally_size (s : Shelf κ α) : s.tally (fun _ _ => true) = s.size :=
  congrFun List.countP_true s.entries

omit [DecidableEq κ] in
theorem tally_values (p : α → Bool) (s : Shelf κ α) :
    s.tally (fun _ a => p a) = s.values.countP p := by
  rw [values, List.countP_map]
  rfl

omit [DecidableEq κ] in
theorem tally_mapValues (s : Shelf κ α) (f : α → β) (p : κ → β → Bool) :
    (s.mapValues f).tally p = s.tally fun k a => p k (f a) := by
  rw [tally, mapValues, List.countP_map]
  rfl

omit [DecidableEq κ] in
theorem tally_le {p q : κ → α → Bool} (s : Shelf κ α) (h : ∀ k a, p k a = true → q k a = true) :
    s.tally p ≤ s.tally q :=
  List.countP_mono_left fun e _ => h e.1 e.2

omit [DecidableEq κ] in
/-- What is of one kind is of one of two others, and not of both. -/
theorem tally_add {p q r : κ → α → Bool} (s : Shelf κ α)
    (h : ∀ k a, (p k a).toNat + (q k a).toNat = (r k a).toNat) :
    s.tally p + s.tally q = s.tally r := by
  have htoNat : ∀ b : Bool, b.toNat = if b then 1 else 0 := by decide
  unfold tally
  induction s.entries with
  | nil => rfl
  | cons e es ih =>
      have he := h e.1 e.2
      simp only [List.countP_cons, htoNat] at he ⊢
      omega

section Order

variable [LE κ] [Std.IsLinearOrder κ] [Std.LawfulOrderLT κ]

theorem findIn_eq_none_of_lt {k : κ} {es : List (κ × α)} (h : ∀ e ∈ es, k < e.1) :
    findIn k es = none := by
  induction es with
  | nil => rfl
  | cons e es ih =>
      have hne : e.1 ≠ k := by
        have := h e (List.mem_cons_self ..)
        grind
      rw [findIn, if_neg hne]
      exact ih fun f hf => h f (List.mem_cons_of_mem _ hf)

theorem findIn_tail {k : κ} {a : α} {es : List (κ × α)}
    (hes : ((k, a) :: es).Pairwise (·.1 < ·.1)) : findIn k es = none :=
  findIn_eq_none_of_lt fun e he => (List.pairwise_cons.1 hes).1 e he

theorem tally_insert [DecidableLT κ] (s : Shelf κ α) (k : κ) (a : α) (p : κ → α → Bool) :
    (s.insert k a).tally p + ((s.find? k).any (p k)).toNat = s.tally p + (p k a).toNat := by
  obtain ⟨es, hes⟩ := s
  change (placeIn k a es).countP _ + ((findIn k es).any (p k)).toNat = es.countP _ + _
  induction es with
  | nil => cases h : p k a <;> simp [placeIn, h]
  | cons e es ih =>
      obtain ⟨j, b⟩ := e
      have hj := List.pairwise_cons.1 hes
      unfold placeIn
      split
      · next hkj =>
          -- the new entry comes first, so its key was not there
          have hnone : findIn k ((j, b) :: es) = none := by
            refine findIn_eq_none_of_lt fun e he => ?_
            rcases List.mem_cons.1 he with rfl | he
            · exact hkj
            · have := hj.1 e he
              grind
          rw [hnone, List.countP_cons]
          cases h : p k a <;> simp
      · split
        · next hjk =>
            have hne : j ≠ k := by grind
            have hrest := ih hj.2
            rw [List.countP_cons, List.countP_cons, findIn, if_neg hne]
            omega
        · have hkj : j = k := by grind
          subst hkj
          rw [List.countP_cons, List.countP_cons, findIn, if_pos rfl, Option.any_some]
          cases p j a <;> cases p j b <;> simp

theorem tally_erase (s : Shelf κ α) (k : κ) (p : κ → α → Bool) :
    (s.erase k).tally p + ((s.find? k).any (p k)).toNat = s.tally p := by
  obtain ⟨es, hes⟩ := s
  change (eraseIn k es).countP _ + ((findIn k es).any (p k)).toNat = es.countP _
  induction es with
  | nil => rfl
  | cons e es ih =>
      obtain ⟨j, b⟩ := e
      by_cases hjk : j = k
      · subst hjk
        rw [eraseIn, if_pos rfl, eraseIn_of_findIn_eq_none (findIn_tail hes), findIn, if_pos rfl,
          List.countP_cons, Option.any_some]
        cases p j b <;> simp
      · have hrest := ih (List.pairwise_cons.1 hes).2
        rw [eraseIn, if_neg hjk, findIn, if_neg hjk, List.countP_cons, List.countP_cons]
        omega

/-- **There is one entry under a key at most**, the one that looking up finds. -/
theorem tally_key (s : Shelf κ α) (k : κ) (p : α → Bool) :
    s.tally (fun j a => j = k && p a) = ((s.find? k).any p).toNat := by
  obtain ⟨es, hes⟩ := s
  change es.countP _ = ((findIn k es).any p).toNat
  induction es with
  | nil => rfl
  | cons e es ih =>
      obtain ⟨j, b⟩ := e
      have hrest := ih (List.pairwise_cons.1 hes).2
      rw [List.countP_cons, hrest]
      by_cases hjk : j = k
      · subst hjk
        rw [findIn_tail hes, findIn, if_pos rfl, Option.any_some]
        cases h : p b <;> simp [h]
      · rw [findIn, if_neg hjk]
        simp [hjk]

end Order

end Shelf

end TableAccess
