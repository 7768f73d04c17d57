/-
**Log lines.**

A line has a level, the part of the program that it comes from, a message and fields.  It is written
as a row of words or as a JSON object.

Main definitions:

* `Logging.Line` — the lines;
* `Line.compact`, `Line.toJson` — their two forms, without the time.
-/
import TableAccess.Json.Value
import TableAccess.Logging.Level

set_option relaxedAutoImplicit false
set_option autoImplicit false

namespace TableAccess

namespace Logging

inductive FieldValue where
  | number (n : Nat)
  | text (s : String)
deriving DecidableEq, Repr

def FieldValue.word : FieldValue → String
  | .number n => Numeral.write n
  | .text s => s

def FieldValue.toJson : FieldValue → Json
  | .number n => .int n
  | .text s => .str s

/-- A line of the log. -/
structure Line where
  level : Level
  /-- The part of the program that the line comes from. -/
  target : String
  message : String
  fields : List (String × FieldValue)
deriving DecidableEq, Repr

namespace Line

/-- The line as a row of words. -/
def compact (l : Line) : String :=
  " ".intercalate
    (l.level.name :: l.message :: l.fields.map fun f => f.1 ++ "=" ++ f.2.word)

/-- The line as a JSON object. -/
def toJson (l : Line) : Json :=
  .obj
    [("level", .str l.level.name),
      ("fields", .obj (("message", .str l.message) :: l.fields.map fun f => (f.1, f.2.toJson))),
      ("target", .str l.target)]

/-- The names of what a line holds, its message among them. -/
def names (l : Line) : List String := "message" :: l.fields.map Prod.fst

end Line

end Logging

end TableAccess
