/-
**JSON values.**

A value is null, a truth value, a number, a text, a list or an object.  Whole numbers of 64 bits are
kept exactly, all other numbers as the bits of a double.  An object is a list of fields; an object
that was read has its fields sorted by name with no name twice, an object that is written shows its
fields in the order of the list.

Main definitions:

* `Json` — the values;
* `Json.get?` — the field of an object;
* `Json.insertField` — adds a field to sorted fields, replacing one of the same name;
* `Json.render` — the compact text.
-/
import TableAccess.Decimal.Shortest
import TableAccess.Text.Numeral

set_option relaxedAutoImplicit false
set_option autoImplicit false

namespace TableAccess

/-- A JSON value. -/
inductive Json where
  | null
  | bool (b : Bool)
  | int (n : Int)
  | float (bits : UInt64)
  | str (s : String)
  | arr (items : List Json)
  | obj (fields : List (String × Json))
deriving Inhabited, Repr, BEq

namespace Json

/-! ### Fields -/

def lookup (name : String) : List (String × Json) → Option Json
  | [] => none
  | (n, v) :: fields => if n = name then some v else lookup name fields

/-- The field of an object; other values have none. -/
def get? (v : Json) (name : String) : Option Json :=
  match v with
  | .obj fields => lookup name fields
  | _ => none

def text? : Json → Option String
  | .str s => some s
  | _ => none

def items? : Json → Option (List Json)
  | .arr items => some items
  | _ => none

/-- Puts a field among fields that are sorted by name; a field of the same name is replaced. -/
def insertField (name : String) (v : Json) : List (String × Json) → List (String × Json)
  | [] => [(name, v)]
  | (n, w) :: fields =>
      if name < n then (name, v) :: (n, w) :: fields
      else if name = n then (name, v) :: fields
      else (n, w) :: insertField name v fields

/-- The object with the given fields, sorted by name; of two fields of one name the later counts. -/
def ofFields (fields : List (String × Json)) : Json :=
  .obj (fields.foldl (fun acc f => insertField f.1 f.2 acc) [])

def ofOption {α : Type} (f : α → Json) : Option α → Json
  | none => .null
  | some a => f a

def ofText? (s : Option String) : Json := ofOption .str s

/-! ### The compact text -/

/-- The form of a character inside quotes: quote, backslash and control characters are escaped, the
common ones by a letter. -/
def escapeChar (c : Char) : List Char :=
  if c = '"' then ['\\', '"']
  else if c = '\\' then ['\\', '\\']
  else if c = '\n' then ['\\', 'n']
  else if c = '\r' then ['\\', 'r']
  else if c = '\t' then ['\\', 't']
  else if c = '\x08' then ['\\', 'b']
  else if c = '\x0c' then ['\\', 'f']
  else if c.toNat < 0x20 then ['\\', 'u'] ++ (Numeral.hexPadded 4 c.toNat).toList
  else [c]

/-- The characters of a quoted text. -/
def quoteChars (cs : List Char) : List Char := '"' :: cs.flatMap escapeChar ++ ['"']

def quote (s : String) : String := String.ofList (quoteChars s.toList)

mutual

def render : Json → String
  | .null => "null"
  | .bool true => "true"
  | .bool false => "false"
  | .int n => Numeral.write n
  | .float bits => Shortest.write bits
  | .str s => quote s
  | .arr [] => "[]"
  | .arr (v :: vs) => "[" ++ render v ++ renderItems vs
  | .obj [] => "\x7b\x7d"
  | .obj ((n, v) :: fs) => "\x7b" ++ quote n ++ ":" ++ render v ++ renderFields fs

/-- The items after the first, and the closing bracket. -/
def renderItems : List Json → String
  | [] => "]"
  | v :: vs => "," ++ render v ++ renderItems vs

/-- The fields after the first, and the closing brace. -/
def renderFields : List (String × Json) → String
  | [] => "\x7d"
  | (n, v) :: fs => "," ++ quote n ++ ":" ++ render v ++ renderFields fs

end

end Json

end TableAccess
