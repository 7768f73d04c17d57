/-
**Rows.**

A row is what the database answers: values under the names of columns.  A column is read as a type.
It may be missing; its value may be null where one is needed, and a value that is there may be of
another type.  None of these is ever taken for something else: only null is an absent value.

Main definitions:

* `Database.CellType`, `CellType.Value` — the types that columns are read as;
* `Database.Fault` — what can go wrong with the database, and its wording;
* `Database.Cell`, `Database.Row` — values and rows;
* `Row.required`, `Row.optional` — the value of a column, and one that may be null.
-/
import TableAccess.Calendar.Instant
import TableAccess.Id
import TableAccess.Json.Value
import TableAccess.Text.Quoted

set_option relaxedAutoImplicit false
set_option autoImplicit false

namespace TableAccess

namespace Database

/-! ### Types -/

/-- The types that columns are read as. -/
inductive CellType where
  | integer
  | boolean
  | text
  | texts
  | date
  | instant
  | json
deriving DecidableEq, Repr

namespace CellType

abbrev Value : CellType → Type
  | .integer => Int
  | .boolean => Bool
  | .text => String
  | .texts => List String
  | .date => Date
  | .instant => Instant
  | .json => Json

def sqlName : CellType → String
  | .integer => "INT8"
  | .boolean => "BOOL"
  | .text => "TEXT"
  | .texts => "TEXT[]"
  | .date => "DATE"
  | .instant => "TIMESTAMPTZ"
  | .json => "JSONB"

/-- The name that the driver has for a type. -/
def driverName : CellType → String
  | .integer => "i64"
  | .boolean => "bool"
  | .text => "alloc::string::String"
  | .texts => "alloc::vec::Vec<alloc::string::String>"
  | .date => "chrono::naive::date::NaiveDate"
  | .instant => "chrono::datetime::DateTime<chrono::offset::utc::Utc>"
  | .json => "serde_json::value::Value"

/-- The same, of a type with null. -/
def nullableDriverName (t : CellType) : String := "core::option::Option<" ++ t.driverName ++ ">"

end CellType

/-! ### Faults -/

/-- What can go wrong with the database.  A server refuses a command with a text and a code; where a
row is expected none may come; and a value may be null, or of another type than its column is read
as, with null or without. -/
inductive Fault where
  | server (text code : String)
  | poolClosed
  | noRow
  | missingColumn (name : String)
  | absentValue (name : String)
  | mismatchedTypes (name : String) (nullable : Bool) (expected found : CellType)
deriving DecidableEq, Repr

/-- What the driver says of a column that it cannot decode. -/
def undecoded (name reason : String) : String :=
  "error occurred while decoding column " ++ Quoted.quote name ++ ": " ++ reason

def Fault.message : Fault → String
  | .server text _ => "error returned from database: " ++ text
  | .poolClosed => "attempted to acquire a connection on a closed pool"
  | .noRow => "no rows returned by a query that expected to return at least one row"
  | .missingColumn name => "no column found for name: " ++ name
  | .absentValue name => undecoded name "unexpected null; try decoding as an `Option`"
  | .mismatchedTypes name nullable expected found =>
      undecoded name ("mismatched types; Rust type `"
        ++ (if nullable then expected.nullableDriverName else expected.driverName)
        ++ "` (as SQL type `" ++ expected.sqlName ++ "`) is not compatible with SQL type `"
        ++ found.sqlName ++ "`")

/-- Whether a fault says that a value that must be unique is there already. -/
def Fault.isUniqueViolation : Fault → Bool
  | .server _ code => code = "23505"
  | _ => false

/-- Whether a fault says that a row refers to one that is not there. -/
def Fault.isForeignKeyViolation : Fault → Bool
  | .server _ code => code = "23503"
  | _ => false

/-! ### Values -/

/-- A value of a row.  Of several texts some may be null. -/
inductive Cell where
  | null
  | integer (n : Int)
  | boolean (b : Bool)
  | text (s : String)
  | texts (ss : List (Option String))
  | date (d : Date)
  | instant (t : Instant)
  | json (v : Json)
deriving Inhabited

namespace Cell

/-- The type of a value; null has none. -/
def type? : Cell → Option CellType
  | .null => none
  | .integer _ => some .integer
  | .boolean _ => some .boolean
  | .text _ => some .text
  | .texts _ => some .texts
  | .date _ => some .date
  | .instant _ => some .instant
  | .json _ => some .json

/-- The value as one of a type. -/
def as? : (t : CellType) → Cell → Option t.Value
  | .integer, .integer n => some n
  | .boolean, .boolean b => some b
  | .text, .text s => some s
  | .texts, .texts ss => ss.mapM id
  | .date, .date d => some d
  | .instant, .instant t => some t
  | .json, .json v => some v
  | _, _ => none

/-- What is wrong with a value that is not one of a type: it is of another type, or null is in the
place of the value or of a part of it. -/
def misfit (name : String) (nullable : Bool) (t : CellType) (v : Cell) : Fault :=
  match v.type? with
  | none => .absentValue name
  | some found => if found = t then .absentValue name else .mismatchedTypes name nullable t found

def read (name : String) (nullable : Bool) (t : CellType) (v : Cell) : Except Fault t.Value :=
  match v.as? t with
  | some a => .ok a
  | none => .error (v.misfit name nullable t)

end Cell

/-! ### Rows -/

/-- The values of a row under the names of its columns. -/
abbrev Row := List (String × Cell)

namespace Row

def cell (r : Row) (name : String) : Except Fault Cell :=
  match r.find? fun c => c.1 = name with
  | some (_, v) => .ok v
  | none => .error (.missingColumn name)

/-- The value of a column that may be null. -/
def optional (t : CellType) (r : Row) (name : String) : Except Fault (Option t.Value) :=
  match r.cell name with
  | .error f => .error f
  | .ok .null => .ok none
  | .ok v => (v.read name true t).map some

/-- The value of a column that must not be null. -/
def required (t : CellType) (r : Row) (name : String) : Except Fault t.Value :=
  match r.cell name with
  | .error f => .error f
  | .ok v => v.read name false t

def integer (r : Row) (name : String) : Except Fault Int := r.required .integer name

def id {kind : Id.Kind} (r : Row) (name : String) : Except Fault (Id kind) :=
  (r.integer name).map fun n => ⟨n⟩

def id? {kind : Id.Kind} (r : Row) (name : String) : Except Fault (Option (Id kind)) :=
  (r.optional .integer name).map fun n => n.map fun n => ⟨n⟩

def boolean (r : Row) (name : String) : Except Fault Bool := r.required .boolean name

def boolean? (r : Row) (name : String) : Except Fault (Option Bool) := r.optional .boolean name

def text (r : Row) (name : String) : Except Fault String := r.required .text name

def text? (r : Row) (name : String) : Except Fault (Option String) := r.optional .text name

def texts (r : Row) (name : String) : Except Fault (List String) := r.required .texts name

def date (r : Row) (name : String) : Except Fault Date := r.required .date name

def instant (r : Row) (name : String) : Except Fault Instant := r.required .instant name

def instant? (r : Row) (name : String) : Except Fault (Option Instant) := r.optional .instant name

def json (r : Row) (name : String) : Except Fault Json := r.required .json name

end Row

end Database

end TableAccess
