/-
**Internet addresses.**

An address has four bytes, written as decimal numbers between dots, or eight groups of sixteen bits,
written as hexadecimal numbers between colons.  In the second form one run of zero groups may be
left out, with a double colon in its place, and the last two groups may be written as four bytes.

Main definitions:

* `IpAddress`, `IpAddress.read?`, `IpAddress.write` — the addresses and their texts;
* `SocketAddress`, `SocketAddress.write` — an address with a port.
-/
import TableAccess.Text.Blank
import TableAccess.Text.Numeral

set_option relaxedAutoImplicit false
set_option autoImplicit false

namespace TableAccess

/-- An address on the internet. -/
inductive IpAddress where
  | v4 (a b c d : UInt8)
  | v6 (groups : Vector UInt16 8)
deriving DecidableEq, Repr

namespace IpAddress

/-! ### Reading four bytes -/

def hexValue (ds : List Char) : Nat := ds.foldl (fun n c => n * 16 + (Numeral.hexDigit? c).getD 0) 0

def decimalValue (ds : List Char) : Nat := ds.foldl (fun n c => n * 10 + (Numeral.digit? c).getD 0) 0

def decimals (cs : List Char) : List Char := cs.takeWhile fun c => (Numeral.digit? c).isSome

def hexadecimals (cs : List Char) : List Char := cs.takeWhile fun c => (Numeral.hexDigit? c).isSome

/-- A byte: up to three decimal digits without a leading zero. -/
def byte? (cs : List Char) : Option (UInt8 × List Char) :=
  let ds := decimals cs
  if ds.isEmpty || 3 < ds.length || (1 < ds.length && ds.head? = some '0') || 255 < decimalValue ds
  then none
  else some (UInt8.ofNat (decimalValue ds), cs.drop ds.length)

def dottedByte? : List Char → Option (UInt8 × List Char)
  | '.' :: cs => byte? cs
  | _ => none

/-- Four bytes between dots. -/
def quad? (cs : List Char) :
    Option ((UInt8 × UInt8 × UInt8 × UInt8) × List Char) := do
  let (a, cs) ← byte? cs
  let (b, cs) ← dottedByte? cs
  let (c, cs) ← dottedByte? cs
  let (d, cs) ← dottedByte? cs
  pure ((a, b, c, d), cs)

/-! ### Reading eight groups -/

/-- A group: up to four hexadecimal digits. -/
def group? (cs : List Char) : Option (UInt16 × List Char) :=
  let ds := hexadecimals cs
  if ds.isEmpty || 4 < ds.length then none
  else some (UInt16.ofNat (hexValue ds), cs.drop ds.length)

/-- What comes after a colon, which the first group does not need. -/
def separated (first : Bool) (cs : List Char) : Option (List Char) :=
  if first then some cs
  else
    match cs with
    | ':' :: r => some r
    | _ => none

/-- The two groups of four bytes. -/
def pairOf (q : UInt8 × UInt8 × UInt8 × UInt8) : List UInt16 :=
  [q.1.toUInt16 * 256 + q.2.1.toUInt16, q.2.2.1.toUInt16 * 256 + q.2.2.2.toUInt16]

/-- Groups between colons. -/
structure Groups where
  groups : List UInt16
  /-- Whether the last two were written as four bytes. -/
  endsInQuad : Bool
  rest : List Char

/-- As many groups as there are, up to a number.  Four bytes take the place of two groups. -/
def readGroups : Nat → Bool → List Char → Groups
  | 0, _, cs => ⟨[], false, cs⟩
  | left + 1, first, cs =>
      match separated first cs with
      | none => ⟨[], false, cs⟩
      | some r =>
          match (if 0 < left then quad? r else none) with
          | some (q, r') => ⟨pairOf q, true, r'⟩
          | none =>
              match group? r with
              | none => ⟨[], false, cs⟩
              | some (g, r') =>
                  let more := readGroups left false r'
                  ⟨g :: more.groups, more.endsInQuad, more.rest⟩

/-- Eight groups with zeros between those at the front and those at the end. -/
def spread (front back : List UInt16) : Vector UInt16 8 :=
  Vector.ofFn fun i =>
    if i.val < front.length then front.getD i.val 0
    else if 8 - back.length ≤ i.val then back.getD (i.val - (8 - back.length)) 0
    else 0

/-- Eight groups, where a double colon stands for at least one group of zeros. -/
def eight? (cs : List Char) : Option (Vector UInt16 8 × List Char) :=
  let front := readGroups 8 true cs
  if front.groups.length = 8 then some (spread front.groups [], front.rest)
  else if front.endsInQuad then none
  else
    match front.rest with
    | ':' :: ':' :: r =>
        let back := readGroups (7 - front.groups.length) true r
        some (spread front.groups back.groups, back.rest)
    | _ => none

/-- The address that some characters are, from the first to the last. -/
def ofChars? (cs : List Char) : Option IpAddress :=
  match quad? cs with
  | some ((a, b, c, d), r) => if r.isEmpty then some (.v4 a b c d) else none
  | none =>
      match eight? cs with
      | some (g, r) => if r.isEmpty then some (.v6 g) else none
      | none => none

def read? (s : String) : Option IpAddress := ofChars? s.toList

/-! ### Writing -/

def writeQuad (a b c d : UInt8) : String :=
  Numeral.write a.toNat ++ "." ++ Numeral.write b.toNat ++ "." ++ Numeral.write c.toNat ++ "."
    ++ Numeral.write d.toNat

def writeGroups (gs : List UInt16) : String :=
  ":".intercalate (gs.map fun g => Numeral.hex g.toNat)

/-- The number of zero groups at the front. -/
def zeros (gs : List UInt16) : Nat := (gs.takeWhile (· = 0)).length

/-- The longest run of zero groups, by its place and its length; of two that are equally long the
first. -/
def longestRun : Nat → List UInt16 → Nat × Nat
  | _, [] => (0, 0)
  | i, g :: gs =>
      let later := longestRun (i + 1) gs
      if 0 < zeros (g :: gs) ∧ later.2 ≤ zeros (g :: gs) then (i, zeros (g :: gs)) else later

/-- The text of eight groups.  The longest run of at least two zero groups is left out, and the
addresses that stand for four bytes show them. -/
def writeEight (g : Vector UInt16 8) : String :=
  let gs := g.toList
  if gs.take 6 = [0, 0, 0, 0, 0, 0xffff] then
    "::ffff:" ++ writeQuad (g[6].toNat / 256).toUInt8 (g[6].toNat % 256).toUInt8
      (g[7].toNat / 256).toUInt8 (g[7].toNat % 256).toUInt8
  else
    match longestRun 0 gs with
    | (start, length) =>
        if 1 < length then
          writeGroups (gs.take start) ++ "::" ++ writeGroups (gs.drop (start + length))
        else writeGroups gs

def write : IpAddress → String
  | .v4 a b c d => writeQuad a b c d
  | .v6 g => writeEight g

end IpAddress

/-- An address with a port. -/
structure SocketAddress where
  address : IpAddress
  port : UInt16
deriving DecidableEq, Repr

/-- The text of an address with a port; groups stand between brackets. -/
def SocketAddress.write (s : SocketAddress) : String :=
  match s.address with
  | .v4 a b c d => IpAddress.writeQuad a b c d ++ ":" ++ Numeral.write s.port.toNat
  | .v6 g => "[" ++ IpAddress.writeEight g ++ "]:" ++ Numeral.write s.port.toNat

end TableAccess
