/-
**Decimal numerals within bounds.**

Numbers that arrive as text are read digit by digit from the left, and the first thing that is
wrong decides the answer: a character that is no digit, or a value that leaves the bounds.  A plus
sign is always allowed, a minus sign only where the bounds admit negative numbers.

Main definitions:

* `Numeral.Bounds` — the admitted interval, with the widths that occur;
* `Numeral.read` — the value of a numeral, or what is wrong with it;
* `Numeral.isReal` — the numerals of real numbers.
-/

set_option relaxedAutoImplicit false
set_option autoImplicit false

namespace TableAccess

namespace Numeral

/-! ### Bounds -/

/-- An interval of integers, both ends included. -/
structure Bounds where
  low : Int
  high : Int
deriving Repr

def natural16 : Bounds := ⟨0, Int.pow 2 16 - 1⟩

def natural32 : Bounds := ⟨0, Int.pow 2 32 - 1⟩

def natural64 : Bounds := ⟨0, Int.pow 2 64 - 1⟩

/-- Integers of 64 bits, which is the width of every identifier. -/
def integer64 : Bounds := ⟨-Int.pow 2 63, Int.pow 2 63 - 1⟩

def Bounds.admits (b : Bounds) (n : Int) : Bool := b.low ≤ n && n ≤ b.high

/-! ### Reading -/

/-- What is wrong with a numeral. -/
inductive Fault where
  | empty
  | digit
  | tooLarge
  | tooSmall
deriving DecidableEq, Repr

def Fault.message : Fault → String
  | .empty => "cannot parse integer from empty string"
  | .digit => "invalid digit found in string"
  | .tooLarge => "number too large to fit in target type"
  | .tooSmall => "number too small to fit in target type"

def digit? (c : Char) : Option Nat :=
  if '0' ≤ c ∧ c ≤ '9' then some (c.toNat - '0'.toNat) else none

/-- Appends digits to a value that is not negative. -/
def readUp (b : Bounds) : Int → List Char → Except Fault Int
  | n, [] => .ok n
  | n, c :: cs =>
      match digit? c with
      | none => .error .digit
      | some d => if n * 10 + d ≤ b.high then readUp b (n * 10 + d) cs else .error .tooLarge

/-- Appends digits to a value that is not positive. -/
def readDown (b : Bounds) : Int → List Char → Except Fault Int
  | n, [] => .ok n
  | n, c :: cs =>
      match digit? c with
      | none => .error .digit
      | some d => if b.low ≤ n * 10 - d then readDown b (n * 10 - d) cs else .error .tooSmall

/-- The value of a numeral. -/
def readChars (b : Bounds) : List Char → Except Fault Int
  | [] => .error .empty
  | ['+'] => .error .digit
  | ['-'] => .error .digit
  | '+' :: cs => readUp b 0 cs
  | '-' :: cs => if b.low < 0 then readDown b 0 cs else .error .digit
  | cs => readUp b 0 cs

def read (b : Bounds) (s : String) : Except Fault Int := readChars b s.toList

/-! ### Real numbers -/

def areDigits (cs : List Char) : Bool := cs.all fun c => (digit? c).isSome

/-- The characters after a sign, if one comes first. -/
def dropSign : List Char → List Char
  | '+' :: cs => cs
  | '-' :: cs => cs
  | cs => cs

/-- Whether characters are digits with at most one point among them, at least one digit in all. -/
def isDecimal (cs : List Char) : Bool :=
  let whole := cs.takeWhile (· ≠ '.')
  let rest := (cs.dropWhile (· ≠ '.')).drop 1
  areDigits whole && areDigits rest && !(whole.isEmpty && rest.isEmpty)

/-- Whether characters write a real number with an optional sign, point and exponent, an infinity,
or what is not a number. -/
def isReal (cs : List Char) : Bool :=
  let cs := (dropSign cs).map Char.toLower
  let mantissa := cs.takeWhile (· ≠ 'e')
  let afterLetter := cs.dropWhile (· ≠ 'e')
  let exponent := dropSign (afterLetter.drop 1)
  ["inf", "infinity", "nan"].contains (String.ofList cs)
    || isDecimal mantissa
      && (afterLetter.isEmpty || (areDigits exponent && !exponent.isEmpty))

/-! ### Writing -/

/-- The decimal digits of a number, most significant first. -/
def digits (n : Nat) : List Char := Nat.toDigits 10 n

/-- A number with at least the given count of digits. -/
def padded (width n : Nat) : String :=
  let ds := digits n
  String.ofList (List.replicate (width - ds.length) '0' ++ ds)

/-- An integer in decimal, with a minus sign when it is negative. -/
def write (n : Int) : String :=
  if n < 0 then "-" ++ String.ofList (digits n.natAbs) else String.ofList (digits n.natAbs)

/-! ### Hexadecimal digits -/

/-- The value of a hexadecimal digit of either case. -/
def hexDigit? (c : Char) : Option Nat :=
  if '0' ≤ c ∧ c ≤ '9' then some (c.toNat - '0'.toNat)
  else if 'a' ≤ c ∧ c ≤ 'f' then some (c.toNat - 'a'.toNat + 10)
  else if 'A' ≤ c ∧ c ≤ 'F' then some (c.toNat - 'A'.toNat + 10)
  else none

/-- A number in lower-case hexadecimal. -/
def hex (n : Nat) : String := String.ofList (Nat.toDigits 16 n)

/-- A number in lower-case hexadecimal with at least the given count of digits. -/
def hexPadded (width n : Nat) : String :=
  let ds := Nat.toDigits 16 n
  String.ofList (List.replicate (width - ds.length) '0' ++ ds)

end Numeral

end TableAccess
