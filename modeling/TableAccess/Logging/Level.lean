/-
**Levels of log lines.**

Main definitions:

* `Logging.Level` — how much a line matters, from errors to traces;
* `Logging.Limit` — the least important level that is written, if any is.
-/
import TableAccess.Text.Blank
import TableAccess.Text.Numeral

set_option relaxedAutoImplicit false
set_option autoImplicit false

namespace TableAccess

namespace Logging

/-- How much a line matters. -/
inductive Level where
  | error
  | warn
  | info
  | debug
  | trace
deriving DecidableEq, Repr

namespace Level

/-- The place of a level, the most important first. -/
def rank : Level → Nat
  | .error => 1
  | .warn => 2
  | .info => 3
  | .debug => 4
  | .trace => 5

def name : Level → String
  | .error => "ERROR"
  | .warn => "WARN"
  | .info => "INFO"
  | .debug => "DEBUG"
  | .trace => "TRACE"

end Level

/-- The least important level that is written, if any is. -/
abbrev Limit := Option Level

namespace Limit

def admits (l : Limit) (level : Level) : Bool :=
  match l with
  | some least => level.rank ≤ least.rank
  | none => false

def ofNumber? : Int → Option Limit
  | 0 => some none
  | 1 => some (some .error)
  | 2 => some (some .warn)
  | 3 => some (some .info)
  | 4 => some (some .debug)
  | 5 => some (some .trace)
  | _ => none

def ofName? (name : List Char) : Option Limit :=
  match String.ofList (Text.lowerAscii name) with
  | "" => some (some .error)
  | "off" => some none
  | "error" => some (some .error)
  | "warn" => some (some .warn)
  | "info" => some (some .info)
  | "debug" => some (some .debug)
  | "trace" => some (some .trace)
  | _ => none

/-- The limit of a number or a name. -/
def read? (cs : List Char) : Option Limit :=
  match Numeral.readChars Numeral.natural64 cs with
  | .ok n => (ofNumber? n).orElse fun _ => ofName? cs
  | .error _ => ofName? cs

end Limit

end Logging

end TableAccess
