/-
**Bringing the schema up to date.**

The schema of the database is built by scripts with ascending versions, and the database records
which of them were applied.  What it records must fit: no script may be half applied, every recorded
version must be known, and a recorded script must be the one that the program has.  Scripts that are
not recorded are applied in order.

Main definitions:

* `Schema.Migration`, `Schema.migrations` — the scripts with their versions;
* `Schema.Record`, `Schema.History` — what the database records;
* `Schema.upgrade` — the scripts that were applied, and the outcome.
-/
import TableAccess.Database.Row
import TableAccess.Schema.Script

set_option relaxedAutoImplicit false
set_option autoImplicit false

namespace TableAccess

namespace Schema

/-! ### Scripts -/

/-- A script with its version. -/
structure Migration where
  version : Int
  description : String
  script : String
deriving DecidableEq, Repr

/-- The scripts, in the order in which they are applied. -/
def migrations : List Migration :=
  [⟨20240101000001, "identity", Script.identity⟩,
    ⟨20240101000002, "user attributes access key", Script.userAttributesAccessKey⟩,
    ⟨20240101000003, "table permissions", Script.tablePermissions⟩,
    ⟨20240101000004, "audit log entries", Script.auditLogEntries⟩]

/-! ### Records -/

/-- What the database records of a script. -/
structure Record where
  version : Int
  /-- Whether the script is the one that the program has. -/
  isSame : Bool
  /-- Whether the script was applied to its end. -/
  isFinished : Bool
deriving DecidableEq, Repr

/-- What the database records. -/
abbrev History := List Record

namespace History

def find? (h : History) (version : Int) : Option Record := List.find? (fun r => r.version = version) h

/-- The least of some versions. -/
def least : List Int → Option Int
  | [] => none
  | v :: vs => some (vs.foldl min v)

/-- The first version that was not applied to its end. -/
def unfinished? (h : History) : Option Int :=
  least ((h.filter fun r => !r.isFinished).map Record.version)

/-- The first version that is not known. -/
def unknown? (h : History) (known : List Migration) : Option Int :=
  least ((h.filter fun r => known.all fun m => m.version ≠ r.version).map Record.version)

end History

/-! ### Faults -/

inductive Fault where
  | unfinished (version : Int)
  | unknown (version : Int)
  | changed (version : Int)
  | failed (version : Int) (fault : Database.Fault)
deriving DecidableEq, Repr

def Fault.message : Fault → String
  | .unfinished v =>
      "migration " ++ Numeral.write v
        ++ " is partially applied; fix and remove row from `_sqlx_migrations` table"
  | .unknown v =>
      "migration " ++ Numeral.write v
        ++ " was previously applied but is missing in the resolved migrations"
  | .changed v =>
      "migration " ++ Numeral.write v ++ " was previously applied but has been modified"
  | .failed v f => "while executing migration " ++ Numeral.write v ++ ": " ++ f.message

/-! ### Upgrades -/

/-- What an upgrade came to. -/
structure Upgrade where
  /-- The scripts that were applied, in order. -/
  applied : List Migration
  outcome : Except Fault Unit

/-- Applies the scripts that are not recorded, up to the first fault. -/
def applyAll (execute : Migration → Except Database.Fault Unit) (h : History) :
    List Migration → Upgrade
  | [] => ⟨[], .ok ()⟩
  | m :: ms =>
      match h.find? m.version with
      | some r => if r.isSame then applyAll execute h ms else ⟨[], .error (.changed m.version)⟩
      | none =>
          match execute m with
          | .error f => ⟨[], .error (.failed m.version f)⟩
          | .ok () =>
              let later := applyAll execute h ms
              ⟨m :: later.applied, later.outcome⟩

def upgrade (execute : Migration → Except Database.Fault Unit) (h : History)
    (known : List Migration) : Upgrade :=
  match h.unfinished? with
  | some v => ⟨[], .error (.unfinished v)⟩
  | none =>
      match h.unknown? known with
      | some v => ⟨[], .error (.unknown v)⟩
      | none => applyAll execute h known

end Schema

end TableAccess
