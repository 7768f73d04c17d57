/-
**The written form of instants.**

An instant is written as its date, the letter `T`, hours, minutes and seconds with colons, and a
fraction of no, three, six or nine digits, the fewest that are exact; then the zone.  A leap second
shows as second 60.

The reader takes any zone offset and brings the time to universal time.  Blanks may stand before
each number, before separators and around the zone.

Main definitions:

* `Instant.writeLocal` — date and time of day without a zone;
* `Instant.writeZulu`, `Instant.writeOffset` — the two full forms, which differ in the zone;
* `Instant.read` — the reader.
-/
import TableAccess.Calendar.DateText
import TableAccess.Calendar.Instant

set_option relaxedAutoImplicit false
set_option autoImplicit false

namespace TableAccess

namespace Instant

/-! ### Writing -/

/-- The second of the minute that is shown, which is 60 in a leap second. -/
def shownSecond (t : Instant) : Nat :=
  if t.nano < 1000000000 then t.second % 60 else t.second % 60 + 1

def writeTime (t : Instant) : String :=
  Numeral.padded 2 (t.second / 3600) ++ ":" ++ Numeral.padded 2 (t.second / 60 % 60) ++ ":"
    ++ Numeral.padded 2 t.shownSecond

/-- The fraction with its point: no, three, six or nine digits. -/
def writeFraction (t : Instant) : String :=
  let n := t.nano % 1000000000
  if n = 0 then ""
  else if n % 1000000 = 0 then "." ++ Numeral.padded 3 (n / 1000000)
  else if n % 1000 = 0 then "." ++ Numeral.padded 6 (n / 1000)
  else "." ++ Numeral.padded 9 n

def writeSeconds (t : Instant) : String :=
  t.date.format DateText.isoPattern ++ " " ++ t.writeTime

def writeLocal (t : Instant) : String := t.date.write ++ "T" ++ t.writeTime ++ t.writeFraction

/-- The full form with the zone `Z`. -/
def writeZulu (t : Instant) : String := t.writeLocal ++ "Z"

/-- The full form with the zone written as an offset. -/
def writeOffset (t : Instant) : String := t.writeLocal ++ "+00:00"

end Instant

namespace DateText

/-! ### Reading the time of day -/

/-- The digits of a fraction: up to nine count, and those after them are passed over.  The result
is in nanoseconds. -/
def fraction : Scan Nat := do
  let before ← get
  let n ← number 9
  let after ← get
  set (after.dropWhile fun c => (Numeral.digit? c).isSome)
  pure (n * Nat.pow 10 (9 - (before.length - after.length)))

/-- Hours, minutes, seconds and an optional fraction, as second of the day and nanoseconds. -/
def timeOfDay : Scan (Nat × Nat) := do
  let h ← part 0 23
  blanks
  literal ':'
  let m ← part 0 59
  blanks
  literal ':'
  let s ← part 0 60
  let frac ← match ← get with
    | '.' :: cs => do
        set cs
        fraction
    | _ => pure 0
  blanks
  if s = 60 then pure ((h * 60 + m) * 60 + 59, 1000000000 + frac)
  else pure ((h * 60 + m) * 60 + s, frac)

/-! ### Reading the zone -/

/-- The first two characters, when the text still has two bytes. -/
def twoBytes? : List Char → Option (Char × Option Char × List Char)
  | [] => none
  | [c] => if c.utf8Size < 2 then none else some (c, none, [])
  | a :: b :: cs => some (a, some b, cs)

def pair (high : Nat) : Scan Nat := fun cs =>
  match twoBytes? cs with
  | none => .error .tooShort
  | some (a, b, rest) =>
      match Numeral.digit? a, b.bind Numeral.digit? with
      | some x, some y => if x * 10 + y ≤ high then .ok (x * 10 + y, rest) else .error .outOfRange
      | _, _ => .error .invalid

/-- Hours and minutes of an offset in seconds, with colons or blanks between them. -/
def offsetAmount : Scan Nat := do
  let h ← pair 99
  modify fun cs => cs.dropWhile fun c => c = ':' || Text.isBlank c
  let m ← pair 59
  pure ((h * 60 + m) * 60)

/-- The zone: `UTC` or `Z` in either case, or a signed offset. -/
def zone : Scan Int := do
  blanks
  match ← get with
  | cs =>
    match cs with
    | [] => Scan.fail .tooShort
    | c :: rest =>
        if Text.lowerAscii (cs.take 3) = ['u', 't', 'c'] then do
          set (cs.drop 3)
          pure 0
        else if c = 'Z' ∨ c = 'z' then do
          set rest
          pure 0
        else if c = '+' then do
          set rest
          let n ← offsetAmount
          pure n
        else if c = '-' ∨ c = Char.ofNat 0x2212 then do
          set rest
          let n ← offsetAmount
          pure (-n)
        else Scan.fail .invalid

def separator : Scan Unit := fun cs =>
  match cs with
  | [] => .error .tooShort
  | c :: rest => if c = 'T' ∨ c = 't' ∨ c = ' ' then .ok ((), rest) else .error .invalid

def moment : Scan ((Int × Nat × Nat) × (Nat × Nat) × Int) := do
  let d ← parts true
  separator
  let t ← timeOfDay
  let z ← zone
  pure (d, t, z)

end DateText

def Instant.read (s : String) : Except DateText.Fault Instant := do
  let ((p, t, z), rest) ← DateText.moment.run s.toList
  if !(Text.trimStart rest).isEmpty then throw .tooLong
  if z ≤ -86400 ∨ 86400 ≤ z then throw .outOfRange
  let d ← DateText.day p
  match (Instant.ofParts? d t.1 t.2).bind (·.shift? z) with
  | some i => pure i
  | none => throw .impossible

end TableAccess
