/-
**Instants.**

An instant is a moment of universal time to the nanosecond.  A leap second is the sixty-first
second of a minute: it is kept as the last second of that minute with a fraction of one second or
more.

Main definitions:

* `Instant` — date, second of the day and fraction;
* `Instant.precedes` — the order;
* `Instant.shift?` — a local time brought to universal time;
* `Instant.truncateMicros` — the instant as a database column of microseconds keeps it.
-/
import TableAccess.Calendar.Date

set_option relaxedAutoImplicit false
set_option autoImplicit false

namespace TableAccess

/-- Whether second of the day and fraction name a time of day. -/
def Calendar.IsTime (second nano : Nat) : Prop :=
  second < 86400 ∧ (nano < 1000000000 ∨ (second % 60 = 59 ∧ nano < 2000000000))

instance (second nano : Nat) : Decidable (Calendar.IsTime second nano) := by
  unfold Calendar.IsTime; infer_instance

@[ext] structure Instant where
  date : Date
  second : Nat
  nano : Nat
  isTime : Calendar.IsTime second nano
deriving DecidableEq

namespace Instant

/-- Midnight at the start of a day. -/
def startOf (d : Date) : Instant := ⟨d, 0, 0, by decide⟩

instance : Inhabited Instant := ⟨startOf default⟩

def ofParts? (date : Date) (second nano : Nat) : Option Instant :=
  if h : Calendar.IsTime second nano then some ⟨date, second, nano, h⟩ else none

/-- The first moment of 1970. -/
def year1970 : Instant := startOf ⟨1970, 1, 1, by decide⟩

/-! ### Order -/

def precedes (a b : Instant) : Bool :=
  a.date < b.date ||
    (a.date.rank = b.date.rank && (a.second < b.second || (a.second = b.second && a.nano < b.nano)))

/-! ### Moving -/

/-- The moment of universal time at which a clock, ahead by `offset` seconds (less than a day
either way), shows the given time. -/
def shift? (t : Instant) (offset : Int) : Option Instant :=
  let s := (t.second : Int) - offset
  let date :=
    if s < 0 then t.date.previous? else if 86400 ≤ s then t.date.next? else some t.date
  date.bind fun d => ofParts? d (s % 86400).toNat t.nano

/-- The number of nanoseconds from the first moment of 2000 when every day has 86400 seconds; a leap
second counts as the second after it. -/
def nanosFrom2000 (t : Instant) : Int :=
  ((t.date.dayNumber - Date.dayNumber ⟨2000, 1, 1, by decide⟩) * 86400 + t.second) * 1000000000
    + t.nano

/-- The instant a number of nanoseconds after the first moment of 2000. -/
def ofNanosFrom2000? (n : Int) : Option Instant :=
  let s := n / 1000000000
  (Date.ofDayNumber? (s / 86400 + Date.dayNumber ⟨2000, 1, 1, by decide⟩)).bind fun d =>
    ofParts? d (s % 86400).toNat (n % 1000000000).toNat

/-- The instant as a column of microseconds keeps it: the count from the first moment of 2000
without its sub-microsecond part, so that earlier instants move towards it. -/
def truncateMicros (t : Instant) : Instant :=
  ((ofNanosFrom2000? (t.nanosFrom2000.tdiv 1000 * 1000))).getD t

def addMillis? (t : Instant) (n : Nat) : Option Instant :=
  ofNanosFrom2000? (t.nanosFrom2000 + n * 1000000)

end Instant

end TableAccess
