/-
**The shortest decimal of a binary number.**

A number of double precision is `m · 2^q` for whole numbers `m` and `q`.  Every real number nearer
to it than to its neighbours reads back as it; those numbers form an interval around it, whose ends
belong to it when `m` is even.  Among the decimals in the interval the one with the fewest digits is
chosen, and among those the nearest to the number.

Main definitions:

* `Shortest.Binary`, `Shortest.ofBits` — the parts of a number;
* `Shortest.digits` — the digits and the exponent of the shortest decimal;
* `Shortest.write` — its written form: positional between ten to the minus five and ten to the
  sixteen, with a signed exponent outside.
-/
import TableAccess.Text.Numeral

set_option relaxedAutoImplicit false
set_option autoImplicit false

namespace TableAccess

namespace Shortest

/-! ### The binary number -/

/-- A finite number `± m · 2^q`; `narrow` tells that the neighbour below is only half as far as the
neighbour above. -/
structure Binary where
  negative : Bool
  m : Nat
  q : Int
  narrow : Bool

def ofBits (bits : UInt64) : Binary :=
  let b : Nat := bits.toNat
  let mantissa := b % Nat.pow 2 52
  let e : Nat := b / Nat.pow 2 52 % Nat.pow 2 11
  { negative := b / Nat.pow 2 63 = 1
    m := if e = 0 then mantissa else Nat.pow 2 52 + mantissa
    q := if e = 0 then -1074 else (e : Int) - 1075
    narrow := mantissa = 0 && e > 1 }

/-! ### The search -/

/-- A fraction of two whole numbers, the second positive. -/
structure Ratio where
  num : Nat
  den : Nat

def scaled (m : Nat) (q : Int) : Ratio :=
  if 0 ≤ q then ⟨m * Nat.pow 2 q.toNat, 1⟩ else ⟨m, Nat.pow 2 q.natAbs⟩

def Ratio.unscale (r : Ratio) (e : Int) : Ratio :=
  if 0 ≤ e then ⟨r.num, r.den * Nat.pow 10 e.toNat⟩ else ⟨r.num * Nat.pow 10 e.natAbs, r.den⟩

def Ratio.le (a b : Ratio) : Bool := a.num * b.den ≤ b.num * a.den

/-- The strict order of two fractions. -/
def Ratio.lt (a b : Ratio) : Bool := a.num * b.den < b.num * a.den

/-- Whether a fraction lies between two others; `closed` lets it be one of them. -/
def Ratio.within (closed : Bool) (low high r : Ratio) : Bool :=
  if closed then low.le r && r.le high else low.lt r && r.lt high

/-- The neighbour of the number on the grid of multiples of `10^e`, if one lies in the interval:
the nearer of the two, and of two equally near ones the even one. -/
def onGrid? (b : Binary) (e : Int) : Option Nat :=
  let value := (scaled (4 * b.m) (b.q - 2)).unscale e
  let low := (scaled (4 * b.m - (if b.narrow then 1 else 2)) (b.q - 2)).unscale e
  let high := (scaled (4 * b.m + 2) (b.q - 2)).unscale e
  let closed := b.m % 2 = 0
  let down := value.num / value.den
  let rest := value.num % value.den
  let downFits := 0 < down && Ratio.within closed low high ⟨down, 1⟩
  let upFits := Ratio.within closed low high ⟨down + 1, 1⟩
  if downFits && upFits then
    if 2 * rest < value.den then some down
    else if value.den < 2 * rest then some (down + 1)
    else if down % 2 = 0 then some down else some (down + 1)
  else if downFits then some down
  else if upFits then some (down + 1)
  else none

/-- The first grid, from the exponent `e` downwards, that has a point in the interval. -/
def search (b : Binary) : Nat → Int → Nat × Int
  | 0, e => (0, e)
  | fuel + 1, e =>
      match onGrid? b e with
      | some n => (n, e)
      | none => search b fuel (e - 1)

/-- The number without its trailing zeros, and the exponent that goes with it. -/
def strip : Nat → Nat → Int → Nat × Int
  | 0, n, e => (n, e)
  | fuel + 1, n, e => if n % 10 = 0 && n ≠ 0 then strip fuel (n / 10) (e + 1) else (n, e)

/-- Whole number `n` and exponent `e` with `n · 10^e` the shortest decimal.  The coarsest grid that
can matter is the one of the first digit, which `top` does not undercut. -/
def digits (b : Binary) : Nat × Int :=
  let top : Int := ((b.m.log2 : Int) + b.q) * 30103 / 100000 + 1
  let p := search b 40 top
  strip 400 p.1 p.2

/-! ### Writing -/

def zeros (n : Nat) : String := String.ofList (List.replicate n '0')

/-- The written form of `n · 10^e`.  With its point after the first digit the number has exponent
`p`; it is written out for `p` from -5 to 15. -/
def writeDecimal (n : Nat) (e : Int) : String :=
  let ds := Numeral.digits n
  let p := e + ds.length - 1
  if -5 ≤ p ∧ p < 0 then
    "0." ++ zeros (p.natAbs - 1) ++ String.ofList ds
  else if 0 ≤ p ∧ p < 16 then
    let whole := p.toNat + 1
    if 0 ≤ e then String.ofList ds ++ zeros e.toNat ++ ".0"
    else String.ofList (ds.take whole) ++ "." ++ String.ofList (ds.drop whole)
  else
    let frac := ds.drop 1
    let head := String.ofList (ds.take 1)
    let head := if frac.isEmpty then head else head ++ "." ++ String.ofList frac
    head ++ (if p < 0 then "e-" else "e+") ++ String.ofList (Numeral.digits p.natAbs)

def write (bits : UInt64) : String :=
  let b := ofBits bits
  let sign := if b.negative then "-" else ""
  if b.m = 0 then sign ++ "0.0"
  else
    let p := digits b
    sign ++ writeDecimal p.1 p.2

end Shortest

end TableAccess
