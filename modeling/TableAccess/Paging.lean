/-
**Pages.**

Long lists are read in pages: a number of entries to pass over and a number of entries to take,
which is brought between 1 and 200.

Main definitions:

* `Paging.clamp` — the number of entries of a page;
* `Paging.slice` — a page of a list.
-/

set_option relaxedAutoImplicit false
set_option autoImplicit false

namespace TableAccess

namespace Paging

def maxLimit : Nat := 200

/-- The page size that is used for the one that was asked for. -/
def clamp (limit : Nat) : Nat := max 1 (min limit maxLimit)

/-- The entries of a page. -/
def slice {α : Type} (offset limit : Nat) (as : List α) : List α := (as.drop offset).take limit

theorem one_le_clamp (limit : Nat) : 1 ≤ clamp limit := Nat.le_max_left ..

end Paging

end TableAccess
