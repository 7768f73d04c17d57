/-
**Ascending lists.**

A set of things that have an order is kept as the list of its members from the least to the
greatest.  Two such sets with the same members are the same list.

Main definitions:

* `Ascending` — the type, with the proof that the list ascends;
* `Ascending.insert`, `Ascending.ofList` — adding a member, and the members of any list.

Main statements:

* `Ascending.mem_ofList` — nothing is lost and nothing is added.
-/

set_option relaxedAutoImplicit false
set_option autoImplicit false

namespace TableAccess

/-- Members in ascending order, none twice. -/
@[ext] structure Ascending (α : Type) [LT α] where
  toList : List α
  ascends : toList.Pairwise (· < ·)

namespace Ascending

variable {α : Type} [LT α] [DecidableLT α]

/-! ### Adding a member to a list -/

/-- Puts a member at its place, unless it is there. -/
def place (a : α) : List α → List α
  | [] => [a]
  | b :: bs => if a < b then a :: b :: bs else if b < a then b :: place a bs else b :: bs

section Order

variable [LE α] [Std.IsLinearOrder α] [Std.LawfulOrderLT α]

theorem mem_place {a x : α} {bs : List α} : x ∈ place a bs ↔ x = a ∨ x ∈ bs := by
  induction bs with
  | nil => simp [place]
  | cons b bs ih =>
      unfold place
      split
      · simp
      · split
        · simp only [List.mem_cons, ih]
          exact ⟨fun h => h.elim (.inr ∘ .inl) fun h => h.elim .inl (.inr ∘ .inr),
            fun h => h.elim (.inr ∘ .inl) fun h => h.elim .inl (.inr ∘ .inr)⟩
        · have : a = b := by grind
          subst this
          simp

theorem pairwise_place {a : α} {bs : List α} (h : bs.Pairwise (· < ·)) :
    (place a bs).Pairwise (· < ·) := by
  induction bs with
  | nil => simp [place]
  | cons b bs ih =>
      have hb := List.pairwise_cons.1 h
      unfold place
      split
      · next hab =>
          refine List.pairwise_cons.2 ⟨fun x hx => ?_, h⟩
          rcases List.mem_cons.1 hx with rfl | hx
          · exact hab
          · have := hb.1 x hx
            grind
      · split
        · next hba =>
            refine List.pairwise_cons.2 ⟨fun x hx => ?_, ih hb.2⟩
            rcases mem_place.1 hx with rfl | hx
            · exact hba
            · exact hb.1 x hx
        · exact h

/-! ### The sets -/

/-- The set without members. -/
def empty : Ascending α := ⟨[], .nil⟩

/-- The set with one more member. -/
def insert (a : α) (s : Ascending α) : Ascending α := ⟨place a s.toList, pairwise_place s.ascends⟩

/-- The set of the members of a list. -/
def ofList (as : List α) : Ascending α := as.foldr insert empty

omit [DecidableLT α] [LE α] [Std.IsLinearOrder α] [Std.LawfulOrderLT α] in
@[simp] theorem toList_empty : (empty : Ascending α).toList = [] := rfl

@[simp] theorem toList_insert (a : α) (s : Ascending α) :
    (s.insert a).toList = place a s.toList := rfl

@[simp] theorem ofList_nil : ofList ([] : List α) = empty := rfl

@[simp] theorem ofList_cons (a : α) (as : List α) : ofList (a :: as) = (ofList as).insert a := rfl

theorem mem_ofList {x : α} {as : List α} : x ∈ (ofList as).toList ↔ x ∈ as := by
  induction as with
  | nil => simp
  | cons a as ih => simp [mem_place, ih]

instance : Inhabited (Ascending α) := ⟨empty⟩

end Order

instance [DecidableEq α] : DecidableEq (Ascending α) := fun s t =>
  decidable_of_iff (s.toList = t.toList) Ascending.ext_iff.symm

end Ascending

end TableAccess
