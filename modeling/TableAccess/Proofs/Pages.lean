/-
**Reading page by page.**

Somebody who wants all of a long list asks for one page after the other, each time passing over one
page more, until a page is empty.  When the pages are windows on one list, this ends, and what was
read is the list: nothing is read twice and nothing is passed over.

Main definitions:

* `Paging.ReadOut` — the pages that are read from an offset on, until one is empty;
* `Paging.Partition` — pages that make up a list, all of them full but for the last one.

Main results:

* `Paging.mem_slice_iff`, `Paging.slice_eq_nil_iff` — which entries are on a page, and when there
  are none;
* `Paging.ReadOut.unique` — there is one way to read;
* `Paging.exists_readOut_slice` — the pages of a list are read to the end, and make it up.
-/
import TableAccess.Paging

set_option relaxedAutoImplicit false
set_option autoImplicit false

namespace TableAccess

namespace Paging

variable {α β : Type} {as : List α} {offset limit : Nat}

/-! ### One page -/

theorem length_slice : (slice offset limit as).length = min limit (as.length - offset) := by
  simp [slice]

theorem map_slice (f : α → β) : (slice offset limit as).map f = slice offset limit (as.map f) := by
  simp [slice]

/-- A page is empty when it begins behind the last entry. -/
theorem slice_eq_nil_iff (hlimit : 0 < limit) :
    slice offset limit as = [] ↔ as.length ≤ offset := by
  rw [← List.length_eq_zero_iff, length_slice]
  omega

theorem mem_slice_iff {a : α} :
    a ∈ slice offset limit as ↔ ∃ i, offset ≤ i ∧ i < offset + limit ∧ as[i]? = some a := by
  rw [slice, List.mem_iff_getElem?]
  constructor
  · rintro ⟨i, hi⟩
    rw [List.getElem?_take] at hi
    split at hi
    · next hlt =>
        rw [List.getElem?_drop] at hi
        exact ⟨offset + i, by omega, by omega, hi⟩
    · cases hi
  · rintro ⟨i, hle, hlt, hi⟩
    refine ⟨i - offset, ?_⟩
    rw [List.getElem?_take, if_pos (by omega), List.getElem?_drop, Nat.add_sub_cancel' hle]
    exact hi

/-! ### One page after the other -/

/-- The pages that are read from an offset on: each is asked for in turn, until one is empty. -/
inductive ReadOut (page : Nat → List α) (size : Nat) : Nat → List (List α) → Prop
  | done {offset : Nat} (h : page offset = []) : ReadOut page size offset []
  | more {offset : Nat} {pages : List (List α)} (h : page offset ≠ [])
      (rest : ReadOut page size (offset + size) pages) :
      ReadOut page size offset (page offset :: pages)

/-- There is one way to read. -/
theorem ReadOut.unique {page : Nat → List α} {size : Nat} {pages pages' : List (List α)}
    (h : ReadOut page size offset pages) (h' : ReadOut page size offset pages') :
    pages = pages' := by
  induction h generalizing pages' with
  | done hnil =>
      cases h' with
      | done _ => rfl
      | more hne _ => exact absurd hnil hne
  | more hne _ ih =>
      cases h' with
      | done hnil => exact absurd hnil hne
      | more _ rest => rw [ih rest]

/-- Pages that make up a list.  None is empty, none has more than a number of entries, and all but
the last one have just that many. -/
structure Partition (size : Nat) (as : List α) (pages : List (List α)) : Prop where
  flatten_eq : pages.flatten = as
  ne_nil : ∀ p ∈ pages, p ≠ []
  length_le : ∀ p ∈ pages, p.length ≤ size
  length_eq : ∀ p ∈ pages.dropLast, p.length = size

/-- A page in front of a list that goes on is a full one. -/
theorem Partition.cons {size : Nat} {p : List α} {pages : List (List α)}
    (h : Partition size as pages) (hne : p ≠ []) (hle : p.length ≤ size)
    (hfull : as ≠ [] → p.length = size) : Partition size (p ++ as) (p :: pages) := by
  refine ⟨?_, ?_, ?_, ?_⟩
  · rw [List.flatten_cons, h.flatten_eq]
  · exact List.forall_mem_cons.2 ⟨hne, h.ne_nil⟩
  · exact List.forall_mem_cons.2 ⟨hle, h.length_le⟩
  · cases pages with
    | nil =>
        intro q hq
        cases hq
    | cons q pages =>
        rw [List.dropLast_cons_cons]
        refine List.forall_mem_cons.2 ⟨hfull fun has => ?_, h.length_eq⟩
        -- a page follows that is not empty, so the list goes on
        have hflat : q ++ pages.flatten = [] := h.flatten_eq.trans has
        exact h.ne_nil q (List.mem_cons_self ..) (List.append_eq_nil_iff.1 hflat).1

/-- **The pages of a list are read to the end, and make it up.** -/
theorem exists_readOut_slice {size : Nat} (hsize : 0 < size) (as : List α) (offset : Nat) :
    ∃ pages, ReadOut (fun o => slice o size as) size offset pages ∧
      Partition size (as.drop offset) pages := by
  -- every page that is not empty brings the end nearer
  induction hleft : as.length - offset using Nat.strongRecOn generalizing offset with
  | _ left ih =>
      by_cases hend : as.length ≤ offset
      · refine ⟨[], .done ((slice_eq_nil_iff hsize).2 hend), ?_⟩
        rw [List.drop_eq_nil_of_le hend]
        exact ⟨rfl, by simp, by simp, by simp⟩
      · obtain ⟨pages, hread, hpages⟩ := ih (as.length - (offset + size)) (by omega) _ rfl
        have hne : slice offset size as ≠ [] := fun h => hend ((slice_eq_nil_iff hsize).1 h)
        refine ⟨_, .more hne hread, ?_⟩
        have hsplit : as.drop offset = slice offset size as ++ as.drop (offset + size) := by
          rw [slice, ← List.drop_drop, List.take_append_drop]
        rw [hsplit]
        refine hpages.cons hne ?_ fun hrest => ?_
        · rw [length_slice]
          omega
        · have hlt : offset + size < as.length := by
            rcases Nat.lt_or_ge (offset + size) as.length with hlt | hge
            · exact hlt
            · exact absurd (List.drop_eq_nil_of_le hge) hrest
          rw [length_slice]
          omega

end Paging

end TableAccess
