/-
**Shelves.**

A shelf files things under keys, each key at most once, and keeps them in the order of the keys.

Main definitions:

* `Shelf` — the entries, with the proof that their keys ascend;
* `Shelf.find?`, `Shelf.insert`, `Shelf.erase`, `Shelf.mapValues` — looking up and changing;
* `Shelf.values` — the things filed, in the order of their keys.

Main statements:

* `Shelf.find?_insert`, `Shelf.find?_erase`, `Shelf.find?_mapValues` — what each change does to
  looking up.
-/

set_option relaxedAutoImplicit false
set_option autoImplicit false

namespace TableAccess

/-- Things filed under ascending keys. -/
@[ext] structure Shelf (κ : Type) (α : Type) [LT κ] where
  entries : List (κ × α)
  ascends : entries.Pairwise (·.1 < ·.1)

namespace Shelf

variable {κ α β : Type} [LT κ] [DecidableLT κ]

/-! ### Entries -/

/-- The thing filed under a key. -/
def findIn [DecidableEq κ] (k : κ) : List (κ × α) → Option α
  | [] => none
  | (j, a) :: es => if j = k then some a else findIn k es

/-- Files a thing at its place, in place of what was filed under its key. -/
def placeIn (k : κ) (a : α) : List (κ × α) → List (κ × α)
  | [] => [(k, a)]
  | (j, b) :: es =>
      if k < j then (k, a) :: (j, b) :: es
      else if j < k then (j, b) :: placeIn k a es
      else (k, a) :: es

/-- Takes out what is filed under a key. -/
def eraseIn [DecidableEq κ] (k : κ) : List (κ × α) → List (κ × α)
  | [] => []
  | (j, a) :: es => if j = k then eraseIn k es else (j, a) :: eraseIn k es

omit [LT κ] [DecidableLT κ] in
theorem mem_of_mem_eraseIn [DecidableEq κ] {k : κ} {e : κ × α} {es : List (κ × α)}
    (h : e ∈ eraseIn k es) : e ∈ es := by
  induction es with
  | nil => exact h
  | cons f es ih =>
      obtain ⟨j, a⟩ := f
      unfold eraseIn at h
      split at h
      · exact List.mem_cons_of_mem _ (ih h)
      · exact (List.mem_cons.1 h).elim (· ▸ List.mem_cons_self ..)
          fun h => List.mem_cons_of_mem _ (ih h)

omit [DecidableLT κ] in
theorem pairwise_eraseIn [DecidableEq κ] {k : κ} {es : List (κ × α)}
    (h : es.Pairwise (·.1 < ·.1)) : (eraseIn k es).Pairwise (·.1 < ·.1) := by
  induction es with
  | nil => exact h
  | cons f es ih =>
      obtain ⟨j, a⟩ := f
      have hj := List.pairwise_cons.1 h
      unfold eraseIn
      split
      · exact ih hj.2
      · exact List.pairwise_cons.2 ⟨fun e he => hj.1 e (mem_of_mem_eraseIn he), ih hj.2⟩

theorem mem_placeIn {k : κ} {a : α} {e : κ × α} {es : List (κ × α)} (h : e ∈ placeIn k a es) :
    e = (k, a) ∨ e ∈ es := by
  induction es with
  | nil => simpa [placeIn] using h
  | cons f es ih =>
      obtain ⟨j, b⟩ := f
      unfold placeIn at h
      split at h
      · exact (List.mem_cons.1 h).imp id id
      · split at h
        · rcases List.mem_cons.1 h with h | h
          · exact .inr (h ▸ List.mem_cons_self ..)
          · exact (ih h).imp id (List.mem_cons_of_mem _)
        · exact (List.mem_cons.1 h).imp id (List.mem_cons_of_mem _)

section Order

variable [LE κ] [Std.IsLinearOrder κ] [Std.LawfulOrderLT κ]

theorem pairwise_placeIn {k : κ} {a : α} {es : List (κ × α)} (h : es.Pairwise (·.1 < ·.1)) :
    (placeIn k a es).Pairwise (·.1 < ·.1) := by
  induction es with
  | nil => simp [placeIn]
  | cons f es ih =>
      obtain ⟨j, b⟩ := f
      have hj := List.pairwise_cons.1 h
      unfold placeIn
      split
      · next hkj =>
          refine List.pairwise_cons.2 ⟨fun e he => ?_, h⟩
          rcases List.mem_cons.1 he with rfl | he
          · exact hkj
          · have := hj.1 e he
            grind
      · split
        · next hjk =>
            refine List.pairwise_cons.2 ⟨fun e he => ?_, ih hj.2⟩
            rcases mem_placeIn he with rfl | he
            · exact hjk
            · exact hj.1 e he
        · have hk : k = j := by grind
          refine List.pairwise_cons.2 ⟨fun e he => hk ▸ hj.1 e he, hj.2⟩

/-! ### Shelves -/

/-- The shelf that holds nothing. -/
def empty : Shelf κ α := ⟨[], .nil⟩

/-- Files a thing under a key, in place of what was there. -/
def insert (s : Shelf κ α) (k : κ) (a : α) : Shelf κ α :=
  ⟨placeIn k a s.entries, pairwise_placeIn s.ascends⟩

instance : Inhabited (Shelf κ α) := ⟨empty⟩

end Order

/-- The things filed, in the order of their keys. -/
def values (s : Shelf κ α) : List α := s.entries.map Prod.snd

/-- The number of things filed. -/
def size (s : Shelf κ α) : Nat := s.entries.length

/-- Changes every thing filed, under its key. -/
def mapValues (s : Shelf κ α) (f : α → β) : Shelf κ β :=
  ⟨s.entries.map fun e => (e.1, f e.2), s.ascends.map _ fun _ _ h => h⟩

section Keys

variable [DecidableEq κ]

/-- The thing filed under a key. -/
def find? (s : Shelf κ α) (k : κ) : Option α := findIn k s.entries

/-- Whether something is filed under a key. -/
def contains (s : Shelf κ α) (k : κ) : Bool := (s.find? k).isSome

/-- Takes out what is filed under a key. -/
def erase (s : Shelf κ α) (k : κ) : Shelf κ α := ⟨eraseIn k s.entries, pairwise_eraseIn s.ascends⟩

/-! ### Looking up after a change -/

omit [LT κ] [DecidableLT κ] in
@[simp] theorem findIn_nil (k : κ) : findIn k ([] : List (κ × α)) = none := rfl

theorem findIn_placeIn [LE κ] [Std.IsLinearOrder κ] [Std.LawfulOrderLT κ] (k j : κ) (a : α)
    (es : List (κ × α)) :
    findIn j (placeIn k a es) = if k = j then some a else findIn j es := by
  induction es with
  | nil => simp [placeIn, findIn]
  | cons e es ih =>
      obtain ⟨i, b⟩ := e
      unfold placeIn
      split
      · simp [findIn]
      · split
        · by_cases hij : i = j
          · have : k ≠ j := by grind
            simp [findIn, hij, this]
          · simp [findIn, hij, ih]
        · have : k = i := by grind
          subst this
          by_cases hkj : k = j <;> simp [findIn, hkj]

omit [LT κ] [DecidableLT κ] in
theorem findIn_eraseIn (k j : κ) (es : List (κ × α)) :
    findIn j (eraseIn k es) = if k = j then none else findIn j es := by
  induction es with
  | nil => simp [eraseIn]
  | cons e es ih =>
      obtain ⟨i, b⟩ := e
      unfold eraseIn
      by_cases hik : i = k
      · subst hik
        rw [if_pos rfl, ih]
        by_cases hij : i = j <;> simp [findIn, hij]
      · rw [if_neg hik]
        by_cases hij : i = j
        · subst hij
          simp [findIn, Ne.symm hik]
        · simp [findIn, hij, ih]

omit [LT κ] [DecidableLT κ] in
theorem findIn_map (k : κ) (f : α → β) (es : List (κ × α)) :
    findIn k (es.map fun e => (e.1, f e.2)) = (findIn k es).map f := by
  induction es with
  | nil => rfl
  | cons e es ih =>
      obtain ⟨i, b⟩ := e
      by_cases hik : i = k <;> simp [findIn, hik, ih]

theorem find?_insert [LE κ] [Std.IsLinearOrder κ] [Std.LawfulOrderLT κ] (s : Shelf κ α) (k j : κ)
    (a : α) : (s.insert k a).find? j = if k = j then some a else s.find? j :=
  findIn_placeIn k j a s.entries

omit [DecidableLT κ] in
theorem find?_erase (s : Shelf κ α) (k j : κ) :
    (s.erase k).find? j = if k = j then none else s.find? j :=
  findIn_eraseIn k j s.entries

omit [DecidableLT κ] in
theorem find?_mapValues (s : Shelf κ α) (f : α → β) (k : κ) :
    (s.mapValues f).find? k = (s.find? k).map f :=
  findIn_map k f s.entries

omit [DecidableLT κ] in
@[simp] theorem find?_empty [LE κ] [Std.IsLinearOrder κ] [Std.LawfulOrderLT κ] (k : κ) :
    (empty : Shelf κ α).find? k = none := rfl

end Keys

end Shelf

end TableAccess
