/-
**Texts and numbers of the format.**

A text stands between quotes, with escapes for what cannot stand there.  A number is written in
decimal.  Whole numbers that fit 64 bits are exact; others become doubles, by taking as many digits
as fit 64 bits and one or more multiplications by powers of ten.

Where a value is only passed over, its texts and numbers are looked at less closely: surrogates,
stray bytes and numbers of any size are let through.

Main definitions:

* `Json.text`, `Json.skipText` — the text whose opening quote was taken, and passing over it;
* `Json.number`, `Json.skipNumber` — a number, and passing over it.
-/
import TableAccess.Json.Cursor

set_option relaxedAutoImplicit false
set_option autoImplicit false

namespace TableAccess

namespace Json

open Utf8 (Piece)
open Reader

/-! ### Escapes -/

/-- The number of bytes of a text, counted no further than four. -/
def bytesUpTo4 (xs : List Piece) : Nat := min 4 (((xs.take 4).map Piece.size).foldl (· + ·) 0)

/-- The value of four hexadecimal digits at the front. -/
def hex4? : List Piece → Option (Nat × List Piece)
  | .char a :: .char b :: .char c :: .char d :: xs => do
      let a ← Numeral.hexDigit? a
      let b ← Numeral.hexDigit? b
      let c ← Numeral.hexDigit? c
      let d ← Numeral.hexDigit? d
      pure (((a * 16 + b) * 16 + c) * 16 + d, xs)
  | _ => none

def hex4 : Reader Nat := fun c =>
  match hex4? c.rest with
  | some (n, xs) => .ok (n, ⟨xs, ⟨c.place.line, c.place.column + 4⟩⟩)
  | none =>
      if bytesUpTo4 c.rest < 4 then .error (Problem.endInString.at (c.place.atEnd c.rest))
      else .error (Problem.invalidEscape.at (c.place.afterBytes 4 c.rest))

/-- Takes one given character inside an escape. -/
def escapePart (a : Char) : Reader Unit := do
  let c ← get
  if c.atEnd then failHere .endInString
  else if c.peek? = some a then eat
  else failPeek .endOfHexEscape

/-- The character of an escape by number, after the letter that introduces it: four digits, or two
times four digits for a character beyond the first plane. -/
def unicodeEscape : Reader Char := do
  let n ← hex4
  if 0xdc00 ≤ n ∧ n ≤ 0xdfff then failHere .loneSurrogate
  else if n < 0xd800 ∨ 0xdbff < n then pure (Char.ofNat n)
  else do
    escapePart '\\'
    escapePart 'u'
    let m ← hex4
    if m < 0xdc00 ∨ 0xdfff < m then failHere .loneSurrogate
    else pure (Char.ofNat ((n - 0xd800) * 0x400 + (m - 0xdc00) + 0x10000))

/-- The character that a letter after the backslash stands for. -/
def letterEscape? (c : Char) : Option Char :=
  if c = '"' ∨ c = '\\' ∨ c = '/' then some c
  else if c = 'b' then some '\x08'
  else if c = 'f' then some '\x0c'
  else if c = 'n' then some '\n'
  else if c = 'r' then some '\r'
  else if c = 't' then some '\t'
  else none

/-- The character of an escape, after the backslash. -/
def escape : Reader Char := do
  let c ← get
  if c.atEnd then failHere .endInString
  else
    match c.peek? with
    | some 'u' => do
        eat
        unicodeEscape
    | some a =>
        match letterEscape? a with
        | some b => do
            eat
            pure b
        | none => failPeek .invalidEscape
    | none => failPeek .invalidEscape

/-! ### Texts -/

/-- Whether a character cannot stand for itself between quotes. -/
def isControl (c : Char) : Bool := c.toNat < 0x20

/-- The place that a text with stray bytes is refused at, seen from its closing quote: as many bytes
before the quote as the text takes up, read, from its first stray byte on. -/
def strayPlace (atQuote : Place) (bytes : Nat) : Place :=
  ⟨atQuote.line, atQuote.column - bytes + 1⟩

/-- The characters up to the closing quote.  `acc` holds those before, last first; `stray` counts
the bytes of the text from its first stray byte on, which is reported only at the closing quote. -/
def textFrom : Nat → List Char → Option Nat → Cursor → Except Fault (String × Cursor)
  | 0, _, _, c => .error (Problem.endInString.at c.place)
  | fuel + 1, acc, stray, c =>
      match c.rest with
      | [] => .error (Problem.endInString.at c.place)
      | .char a :: _ =>
          if a = '"' then
            match stray with
            | none => .ok (String.ofList acc.reverse, c.advance)
            | some n => .error (Problem.invalidCodePoint.at (strayPlace c.place n))
          else if a = '\\' then
            match escape c.advance with
            | .ok (b, c') => textFrom fuel (b :: acc) (stray.map (· + b.utf8Size)) c'
            | .error f => .error f
          else if isControl a then .error (Problem.controlCharacter.at c.peekPlace)
          else textFrom fuel (a :: acc) (stray.map (· + a.utf8Size)) c.advance
      | .stray _ :: _ => textFrom fuel acc (some (stray.getD 0 + 1)) c.advance

def text : Reader String := fun c => textFrom (c.rest.length + 1) [] none c

def skipEscape : Reader Unit := do
  let c ← get
  if c.atEnd then failHere .endInString
  else
    match c.peek? with
    | some 'u' => do
        eat
        let _ ← hex4
        pure ()
    | some a => if (letterEscape? a).isSome then eat else failPeek .invalidEscape
    | none => failPeek .invalidEscape

/-- Passes over the characters up to the closing quote. -/
def skipTextFrom : Nat → Cursor → Except Fault (Unit × Cursor)
  | 0, c => .error (Problem.endInString.at c.place)
  | fuel + 1, c =>
      match c.rest with
      | [] => .error (Problem.endInString.at c.place)
      | .char a :: _ =>
          if a = '"' then .ok ((), c.advance)
          else if a = '\\' then
            match skipEscape c.advance with
            | .ok (_, c') => skipTextFrom fuel c'
            | .error f => .error f
          else if isControl a then .error (Problem.controlCharacter.at c.place)
          else skipTextFrom fuel c.advance
      | .stray _ :: _ => skipTextFrom fuel c.advance

def skipText : Reader Unit := fun c => skipTextFrom (c.rest.length + 1) c

/-! ### Numbers -/

inductive Number where
  | whole (n : Int)
  | double (bits : UInt64)
deriving DecidableEq, Repr

/-- The largest whole number that a run of digits may reach before it stops being exact. -/
def largestDigits : Nat := Nat.pow 2 64 - 1

/-- The largest exponent that is told apart. -/
def largestExponent : Int := Int.pow 2 31 - 1

/-- The next digit, which stays in place. -/
def Cursor.digit? (c : Cursor) : Option Nat := c.peek?.bind Numeral.digit?

/-- Takes digits as long as the number stays exact.  The result tells whether it stopped before a
digit that would have made it too large. -/
def exactDigits : Nat → Nat → Cursor → (Nat × Bool) × Cursor
  | 0, n, c => ((n, false), c)
  | fuel + 1, n, c =>
      match c.digit? with
      | none => ((n, false), c)
      | some d =>
          if n * 10 + d ≤ largestDigits then exactDigits fuel (n * 10 + d) c.advance
          else ((n, true), c)

def countDigits : Nat → Nat → Cursor → Nat × Cursor
  | 0, n, c => (n, c)
  | fuel + 1, n, c =>
      match c.digit? with
      | none => (n, c)
      | some _ => countDigits fuel (n + 1) c.advance

/-- Takes the digits here, as long as the number stays exact. -/
def takeExact (n : Nat) : Reader (Nat × Bool) := fun c => .ok (exactDigits c.rest.length n c)

def takeCount : Reader Nat := fun c => .ok (countDigits c.rest.length 0 c)

/-- A power of ten as a double, for exponents up to 308. -/
def powerOfTen (e : Nat) : Float := Float.ofScientific 1 false e

/-- Multiplies by ten to a power, or divides for a negative one, in steps of at most 308.  There is
no result when it would be too large. -/
def scale : Nat → Float → Int → Option Float
  | 0, f, _ => some f
  | fuel + 1, f, e =>
      if e.natAbs ≤ 308 then
        if 0 ≤ e then
          let g := f * powerOfTen e.natAbs
          if g.isInf then none else some g
        else some (f / powerOfTen e.natAbs)
      else if f == 0.0 then some f
      else if 0 ≤ e then none
      else scale fuel (f / powerOfTen 308) (e + 308)

def double (positive : Bool) (digits : Nat) (e : Int) : Reader Number :=
  match scale (e.natAbs / 308 + 2) (Float.ofNat digits) e with
  | none => failHere .numberOutOfRange
  | some f => pure (.double (if positive then f else -f).toBits)

/-- Whether the next character starts an exponent. -/
def atExponent (c : Cursor) : Bool := c.peek? = some 'e' || c.peek? = some 'E'

/-- Takes the digits of an exponent; nothing is answered when it is too large to be told apart. -/
def exponentDigits : Nat → Nat → Cursor → Option Nat × Cursor
  | 0, n, c => (some n, c)
  | fuel + 1, n, c =>
      match c.digit? with
      | none => (some n, c)
      | some d =>
          if ((n * 10 + d : Nat) : Int) ≤ largestExponent then
            exponentDigits fuel (n * 10 + d) c.advance
          else (none, c.advance)

/-- Takes a sign, which is positive if there is none. -/
def exponentSign : Reader Bool := do
  match (← get).peek? with
  | some '+' => do
      eat
      pure true
  | some '-' => do
      eat
      pure false
  | _ => pure true

/-- An exponent that saturates at the width of 32 bits. -/
def clampExponent (e : Int) : Int := max (-Int.pow 2 31) (min largestExponent e)

/-- The rest of a number from its exponent letter. -/
def exponent (positive : Bool) (digits : Nat) (start : Int) : Reader Number := do
  eat
  let up ← exponentSign
  let c ← get
  if c.atEnd then failHere .endInValue
  else
    match c.digit? with
    | none => failPeek .invalidNumber
    | some d => do
        eat
        let e ← fun c => .ok (exponentDigits c.rest.length d c)
        match e with
        | some e => double positive digits (clampExponent (if up then start + e else start - e))
        | none =>
            if digits ≠ 0 ∧ up then failHere .numberOutOfRange
            else do
              let _ ← takeCount
              pure (.double (if positive then (0.0 : Float) else -0.0).toBits)

/-- The rest of a number from its point; digits that no longer fit are passed over. -/
def decimal (positive : Bool) (digits : Nat) (start : Int) : Reader Number := do
  eat
  let before ← get
  match before.digit? with
  | none => failPeekOrEnd .invalidNumber .endInValue
  | some _ => do
      let (n, full) ← takeExact digits
      let after ← get
      let e := start - (before.rest.length - after.rest.length : Nat)
      if full then do
        let _ ← takeCount
      let c ← get
      if atExponent c then exponent positive n e else double positive n e

/-- The rest of a number after a point, an exponent letter or nothing. -/
def numberTail (positive : Bool) (digits : Nat) (start : Int) (plain : Reader Number) :
    Reader Number := do
  let c ← get
  if c.peek? = some '.' then decimal positive digits start
  else if atExponent c then exponent positive digits start
  else plain

/-- The whole number with the given digits.  Minus zero and what is below 64 bits are doubles. -/
def wholeNumber (positive : Bool) (digits : Nat) : Number :=
  if positive then .whole digits
  else if 0 < digits ∧ digits ≤ Nat.pow 2 63 then .whole (-digits)
  else .double (-(Float.ofNat digits)).toBits

def number (positive : Bool) : Reader Number := do
  let c ← get
  if c.atEnd then failHere .endInValue
  else
    match c.digit? with
    | none => failPeek .invalidNumber
    | some 0 => do
        eat
        if (← get).digit?.isSome then failPeek .invalidNumber
        else numberTail positive 0 0 (pure (wholeNumber positive 0))
    | some _ => do
        let (n, full) ← takeExact 0
        if full then do
          let more ← takeCount
          numberTail positive n more (double positive n more)
        else numberTail positive n 0 (pure (wholeNumber positive n))

def skipExponent : Reader Unit := do
  eat
  let _ ← exponentSign
  if (← get).digit?.isSome then do
    let _ ← takeCount
  else failPeek .invalidNumber

def skipDecimal : Reader Unit := do
  eat
  if (← get).digit?.isSome then do
    let _ ← takeCount
    if atExponent (← get) then skipExponent
  else failPeek .invalidNumber

def skipNumberTail : Reader Unit := do
  let c ← get
  if c.peek? = some '.' then skipDecimal
  else if atExponent c then skipExponent
  else pure ()

def skipNumber : Reader Unit := do
  match (← get).digit? with
  | none => failPeek .invalidNumber
  | some 0 => do
      eat
      if (← get).digit?.isSome then failPeek .invalidNumber else skipNumberTail
  | some _ => do
      let _ ← takeCount
      skipNumberTail

end Json

end TableAccess
