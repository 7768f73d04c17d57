/-
**Tables of code points.**

A class of characters is given by the ranges of its code points in ascending order.  Whether a
character belongs to it is found by halving the table.

Main definitions:

* `CodePoints.Table` — the tables;
* `CodePoints.hold` — whether a table holds a character.
-/

set_option relaxedAutoImplicit false
set_option autoImplicit false

namespace TableAccess

namespace CodePoints

/-- Ranges of code points in ascending order, both ends included. -/
abbrev Table := Array (Nat × Nat)

/-- Whether a code point lies in one of the ranges from `lo` up to `hi`, by halving.  The table is
sorted, so each step keeps the only half that can hold the code point. -/
def search (table : Table) (n : Nat) : Nat → Nat → Nat → Bool
  | 0, _, _ => false
  | fuel + 1, lo, hi =>
      if lo < hi then
        match table[(lo + hi) / 2]? with
        | none => false
        | some (a, b) =>
            if n < a then search table n fuel lo ((lo + hi) / 2)
            else if b < n then search table n fuel ((lo + hi) / 2 + 1) hi
            else true
      else false

def hold (table : Table) (c : Char) : Bool := search table c.toNat table.size 0 table.size

end CodePoints

end TableAccess
