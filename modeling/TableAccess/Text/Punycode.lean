/-
**Labels in the letters of ASCII.**

A label of a domain name that holds other characters is carried in ASCII: first those of its
characters that are ASCII, then the others as insertions, in the order of their code points.  Each
insertion is a number whose digits have a weight that adapts to the numbers before.

Main definitions:

* `Punycode.readNumber` — a number of the row of insertions;
* `Punycode.decode?` — the characters that a label stands for.
-/
import TableAccess.Text.Numeral

set_option relaxedAutoImplicit false
set_option autoImplicit false

namespace TableAccess

namespace Punycode

/-- The value of a digit: the letters come first. -/
def digit? (c : Char) : Option Nat :=
  if 'a' ≤ c ∧ c ≤ 'z' then some (c.toNat - 'a'.toNat) else (Numeral.digit? c).map (· + 26)

/-- The least value that tells that another digit follows the one at a position. -/
def threshold (position bias : Nat) : Nat :=
  if position ≤ bias then 1 else min 26 (position - bias)

/-- A number, its least digit first, and what is left.  A digit below the threshold ends it. -/
def readNumber (bias : Nat) : Nat → Nat → Nat → List Char → Option (Nat × List Char)
  | _, _, _, [] => none
  | position, weight, n, c :: cs =>
      match digit? c with
      | none => none
      | some d =>
          let t := threshold position bias
          if d < t then some (n + d * weight, cs)
          else readNumber bias (position + 36) (weight * (36 - t)) (n + d * weight) cs

/-- The bias that goes with a number, `k` being the part of it that was found so far. -/
def settle (n k : Nat) : Nat :=
  if 455 < n then settle (n / 35) (k + 36) else k + 36 * n / (n + 38)
termination_by n
decreasing_by omega

/-- The bias after a number, when the label has grown to a number of characters. -/
def adapt (n size : Nat) (first : Bool) : Nat :=
  let n := if first then n / 700 else n / 2
  settle (n + n / size) 0

/-- A list with one more item at a place. -/
def insertAt (cs : List Char) (place : Nat) (c : Char) : List Char :=
  cs.take place ++ c :: cs.drop place

/-- The label after a row of insertions.  A number counts the places passed over, from the place
after the last insertion on, where the end of the label leads to the next code point. -/
def insertions :
    Nat → Bool → Nat → Nat → Nat → List Char → List Char → Option (List Char)
  | 0, _, _, _, _, out, _ => some out
  | _ + 1, _, _, _, _, out, [] => some out
  | fuel + 1, first, place, point, bias, out, code =>
      match readNumber bias 36 1 0 code with
      | none => none
      | some (n, rest) =>
          let size := out.length + 1
          let next := point + (place + n) / size
          let here := (place + n) % size
          if next.isValidChar then
            insertions fuel false (here + 1) next (adapt n size first)
              (insertAt out here (Char.ofNat next)) rest
          else none

/-- The characters that a label stands for.  The last hyphen ends those that are ASCII, unless the
label begins with it. -/
def decode? (code : List Char) : Option (List Char) :=
  let after := (code.reverse.takeWhile (· ≠ '-')).reverse
  let before := code.take (code.length - after.length - 1)
  if before.any fun c => 0x80 ≤ c.toNat then none
  else insertions code.length true 0 0x80 72 before (if before.isEmpty then code else after)

end Punycode

end TableAccess
