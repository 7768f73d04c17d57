/-
**Hosts.**

The host of a URL is a name or an internet address.  Where a scheme is known to lead to machines on
the internet, the name is one of a domain, and a name whose last label is a number is an address of
four bytes: up to four numbers, of which the last fills the bytes that are left.

Main definitions:

* `HostFault` — what can be wrong with a host, and its wording;
* `Host`, `Host.ofDomain`, `Host.ofName` — hosts, and the two ways to read them.
-/
import TableAccess.Network.DomainName
import TableAccess.Network.IpAddress
import TableAccess.Text.Percent

set_option relaxedAutoImplicit false
set_option autoImplicit false

namespace TableAccess

/-- What can be wrong with a host. -/
inductive HostFault where
  | empty
  | badCharacter
  | badDomain
  | badBytes
  | badGroups
deriving DecidableEq, Repr

def HostFault.message : HostFault → String
  | .empty => "empty host"
  | .badCharacter => "invalid domain character"
  | .badDomain => "invalid international domain name"
  | .badBytes => "invalid IPv4 address"
  | .badGroups => "invalid IPv6 address"

inductive Host where
  | name (cs : List Char)
  | address (a : IpAddress)
deriving DecidableEq, Repr

namespace Host

/-! ### Numbers -/

/-- The value of digits of a base, of which there may be none. -/
def digitsOf? (base : Nat) (cs : List Char) : Option Nat :=
  cs.foldlM (fun n c => do
    let d ← Numeral.hexDigit? c
    if d < base then some (n * base + d) else none) 0

/-- A number, whose beginning tells its base: sixteen, eight or ten. -/
def number? : List Char → Option Nat
  | [] => none
  | '0' :: 'x' :: cs => digitsOf? 16 cs
  | '0' :: c :: cs => digitsOf? 8 (c :: cs)
  | cs => digitsOf? 10 cs

/-- The labels of a name, without the empty one after a last full stop. -/
def labels (cs : List Char) : List (List Char) :=
  let parts := Text.splitOn '.' cs
  if 1 < parts.length && parts.getLast? = some [] then parts.dropLast else parts

/-- Whether the last label of a name is a number. -/
def endsInNumber (cs : List Char) : Bool :=
  match (labels cs).getLast? with
  | some l => (!l.isEmpty && Numeral.areDigits l) || (number? l).isSome
  | none => false

/-- The address of up to four numbers. -/
def ofNumbers? (ns : List Nat) : Option IpAddress :=
  let first := ns.dropLast
  let last := ns.getLast?.getD 0
  let free := 4 - first.length
  if 4 < ns.length || first.any (255 < ·) || Nat.pow 256 free ≤ last then none
  else
    let n := first.foldl (fun n b => n * 256 + b) 0 * Nat.pow 256 free + last
    some (.v4 (UInt8.ofNat (n / Nat.pow 2 24)) (UInt8.ofNat (n / Nat.pow 2 16))
      (UInt8.ofNat (n / Nat.pow 2 8))
      (UInt8.ofNat n))

/-- The address that a name is whose last label is a number. -/
def quad? (cs : List Char) : Option IpAddress := (labels cs).mapM number? >>= ofNumbers?

/-! ### Reading -/

/-- The address between brackets, after the opening one. -/
def bracketed (cs : List Char) : Except HostFault Host :=
  match cs.reverse with
  | ']' :: inner =>
      match IpAddress.eight? inner.reverse with
      | some (groups, []) => .ok (.address (.v6 groups))
      | _ => .error .badGroups
  | _ => .error .badGroups

/-- A host on the internet; its name may be encoded. -/
def ofDomain (cs : List Char) : Except HostFault Host :=
  match cs with
  | '[' :: inner => bracketed inner
  | cs =>
      match DomainName.normal? (Percent.decodeBytes cs) with
      | none => .error .badDomain
      | some plain =>
          if plain.isEmpty then .error .empty
          else if endsInNumber plain then
            match quad? plain with
            | some a => .ok (.address a)
            | none => .error .badBytes
          else .ok (.name plain)

/-- Whether a character cannot stand in a name that is kept as it is written. -/
def isForbidden (c : Char) : Bool := c.toNat = 0 || " #/:<>?@[\\]^|".toList.contains c

/-- A host whose name is kept as it is written. -/
def ofName (cs : List Char) : Except HostFault Host :=
  match cs with
  | '[' :: inner => bracketed inner
  | cs => if cs.any isForbidden then .error .badCharacter else .ok (.name cs)

def isEmpty (h : Host) : Bool := h = .name []

end Host

end TableAccess
