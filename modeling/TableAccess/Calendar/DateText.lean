/-
**The written form of dates.**

A date is written as year, month and day with hyphens between them: at least four digits for the
year, two for month and day.  A year beyond 9999 carries a plus sign and a year before 0 a minus
sign, so the sign is there exactly when it is needed to read the year back.  A date may also be
written after a pattern, which names its parts one after the other.

Readers are more lenient than the writer: blanks may stand before each number, a signed year has
any number of digits, and leading zeros may be left out.  The parts are read from the left, and the
first fault decides the answer.

Main definitions:

* `Date.write` — the written form;
* `Date.format` — the form that a pattern asks for;
* `DateText.Fault` — what can be wrong with the text of a date;
* `Date.readForm`, `Date.readLoose` — the two readers, without and with room for blanks between the
  parts.
-/
import TableAccess.Calendar.Date
import TableAccess.Text.Blank
import TableAccess.Text.Numeral

set_option relaxedAutoImplicit false
set_option autoImplicit false

namespace TableAccess

namespace DateText

/-! ### Writing -/

def writeYear (y : Int) : String :=
  if 0 ≤ y ∧ y ≤ 9999 then Numeral.padded 4 y.toNat
  else if y < 0 then "-" ++ Numeral.padded 4 y.natAbs
  else "+" ++ Numeral.padded 4 y.natAbs

end DateText

def Date.write (d : Date) : String :=
  DateText.writeYear d.year ++ "-" ++ Numeral.padded 2 d.month ++ "-" ++ Numeral.padded 2 d.day

namespace DateText

/-! ### Patterns -/

/-- One item of a pattern: a part of the date, or a character that stands for itself. -/
inductive Item where
  | year
  | month
  | day
  | literal (c : Char)
deriving DecidableEq, Repr

def isoPattern : List Item := [.year, .literal '-', .month, .literal '-', .day]

/-- A number with zeros before it up to a width; a sign is shown besides if it is asked for. -/
def showNumber (width : Nat) (signed : Bool) (n : Int) : String :=
  let sign := if signed then if n < 0 then "-" else "+" else ""
  sign ++ Numeral.padded width n.natAbs

/-- What an item shows of a date.  The sign of a year is asked for where four digits without one
could not be the whole year. -/
def Item.write (d : Date) : Item → String
  | .year => showNumber 4 (d.year < 0 || 9999 < d.year) d.year
  | .month => showNumber 2 false d.month
  | .day => showNumber 2 false d.day
  | .literal c => c.toString

end DateText

/-- A date in the form that a pattern asks for. -/
def Date.format (pattern : List DateText.Item) (d : Date) : String :=
  String.join (pattern.map (DateText.Item.write d))

namespace DateText

/-! ### Reading the parts -/

/-- What is wrong with the text of a date or time. -/
inductive Fault where
  | tooShort
  | invalid
  | outOfRange
  | tooLong
  | impossible
deriving DecidableEq, Repr

def Fault.message : Fault → String
  | .tooShort => "premature end of input"
  | .invalid => "input contains invalid characters"
  | .outOfRange => "input is out of range"
  | .tooLong => "trailing input"
  | .impossible => "no possible date and time matching input"

/-- A scanner takes characters from the left and leaves the rest. -/
abbrev Scan (α : Type) := StateT (List Char) (Except Fault) α

def Scan.fail {α : Type} (f : Fault) : Scan α := throw f

def blanks : Scan Unit := modify Text.trimStart

/-- The largest value that a number may reach while its digits are read. -/
def largest : Nat := Nat.pow 2 63 - 1

/-- Appends digits to a value until a character that is no digit, or until `room` digits were
taken. -/
def moreDigits : Nat → Nat → List Char → Except Fault (Nat × List Char)
  | 0, n, cs => .ok (n, cs)
  | _ + 1, n, [] => .ok (n, [])
  | room + 1, n, c :: cs =>
      match Numeral.digit? c with
      | none => .ok (n, c :: cs)
      | some d =>
          if n * 10 + d ≤ largest then moreDigits room (n * 10 + d) cs else .error .outOfRange

/-- An unsigned number of at least one digit and at most `room` digits. -/
def number (room : Nat) : Scan Nat := fun cs =>
  match cs with
  | [] => .error .tooShort
  | c :: _ => if (Numeral.digit? c).isSome then moreDigits room 0 cs else .error .invalid

/-- A number in one character class after optional blanks, of at most two digits, within bounds. -/
def part (low high : Nat) : Scan Nat := do
  blanks
  let n ← number 2
  if low ≤ n ∧ n ≤ high then pure n else Scan.fail .outOfRange

/-- Refuses a year that needs more than 32 bits before anything after it is read. -/
def boundedYear (y : Int) : Scan Int :=
  if -Int.pow 2 31 ≤ y ∧ y < Int.pow 2 31 then pure y else Scan.fail .outOfRange

/-- A year after optional blanks: up to four digits, or a sign and any number of digits. -/
def year : Scan Int := do
  blanks
  match ← get with
  | '-' :: cs => do
      set cs
      let n ← number cs.length
      boundedYear (-n)
  | '+' :: cs => do
      set cs
      let n ← number cs.length
      boundedYear n
  | _ => do
      let n ← number 4
      boundedYear n

def literal (c : Char) : Scan Unit := fun cs =>
  match cs with
  | [] => .error .tooShort
  | d :: rest => if d = c then .ok ((), rest) else .error .invalid

/-- Year, month and day with hyphens between them.  `gaps` tells whether blanks may stand before a
hyphen too. -/
def parts (gaps : Bool) : Scan (Int × Nat × Nat) := do
  let y ← year
  if gaps then blanks
  literal '-'
  let m ← part 1 12
  if gaps then blanks
  literal '-'
  let d ← part 1 31
  pure (y, m, d)

def day (p : Int × Nat × Nat) : Except Fault Date :=
  match Date.ofParts? p.1 p.2.1 p.2.2 with
  | some d => .ok d
  | none => .error .outOfRange

end DateText

/-! ### Reading dates -/

/-- Reads a date that fills the text, apart from blanks before each number. -/
def Date.readForm (s : String) : Except DateText.Fault Date := do
  let (p, rest) ← (DateText.parts false).run s.toList
  if rest.isEmpty then DateText.day p else throw .tooLong

/-- Reads a date that may have blanks before each number, before each hyphen and at its end. -/
def Date.readLoose (s : String) : Except DateText.Fault Date := do
  let (p, rest) ← (DateText.parts true).run s.toList
  if (Text.trimStart rest).isEmpty then DateText.day p else throw .tooLong

end TableAccess
