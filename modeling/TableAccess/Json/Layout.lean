/-
**Typed readers.**

A value of a known shape is read straight from its text, so that the first thing that does not fit
is reported at its place.  A record is described by a layout: its fields in order, the reader of
each, and what counts when one is absent.  A record may be written as an object, whose unknown
fields are passed over and whose known fields must not repeat, or as the list of its fields.

Main definitions:

* `Json.mismatch` — the fault of a value of another kind;
* `Json.integer`, `Json.boolean`, `Json.string`, `Json.nullable`, `Json.list`, `Json.parsed` — the
  readers of fields;
* `Json.Layout`, `Json.Layout.record` — records;
* `Json.variant` — one of several named values.
-/
import TableAccess.Json.Reader
import TableAccess.Text.Quoted

set_option relaxedAutoImplicit false
set_option autoImplicit false

namespace TableAccess

namespace Json

open Reader

/-! ### Values of another kind -/

/-- What a number is called in a fault. -/
def Number.found : Number → String
  | .whole n => "integer `" ++ Numeral.write n ++ "`"
  | .double bits => "floating point `" ++ Shortest.write bits ++ "`"

/-- What a value that is no list or object is called in a fault. -/
def foundScalar : Json → String
  | .null => "null"
  | .bool b => "boolean `" ++ (if b then "true" else "false") ++ "`"
  | .int n => (Number.whole n).found
  | .float bits => (Number.double bits).found
  | .str s => "string " ++ Quoted.quote s
  | .arr _ => "sequence"
  | .obj _ => "map"

/-- Stops because the value here is of another kind than expected.  A value that is no list or
object is taken first, so that its own faults come first. -/
def mismatch {α : Type} (expected : String) : Reader α := do
  match (← get).peek? with
  | none => failPeek .expectedValue
  | some a =>
      match scalar? a with
      | some r => do
          let v ← r
          failHere (.invalidType (foundScalar v) expected)
      | none =>
          if a = '[' then failHere (.invalidType "sequence" expected)
          else if a = '\x7b' then failHere (.invalidType "map" expected)
          else failPeek .expectedValue

/-- The first character of a value, after blanks; there must be a value. -/
def valueStart : Reader (Option Char) := do
  let next ← peekAfterBlanks
  if (← get).atEnd then failPeek .endInValue else pure next

/-! ### Fields -/

/-- An integer of 64 bits. -/
def integer : Reader Int := do
  let next ← valueStart
  let n ← match next with
    | none => mismatch "i64"
    | some a =>
        if a = '-' then do
          eat
          number false
        else if (Numeral.digit? a).isSome then number true
        else mismatch "i64"
  match n with
  | .whole n =>
      if Numeral.integer64.admits n then pure n
      else failHere (.invalidValue (Number.whole n).found "i64")
  | .double bits => failHere (.invalidType (Number.double bits).found "i64")

def boolean : Reader Bool := do
  let next ← valueStart
  if next = some 't' then do
    eat
    word ['r', 'u', 'e']
    pure true
  else if next = some 'f' then do
    eat
    word ['a', 'l', 's', 'e']
    pure false
  else mismatch "a boolean"

/-- A text, called as given in a fault. -/
def stringFor (expected : String) : Reader String := do
  let next ← valueStart
  if next = some '"' then do
    eat
    text
  else mismatch expected

def string : Reader String := stringFor "a string"

/-- A text that stands for something else. -/
def parsed {α : Type} (expected : String) (parse : String → Except String α) : Reader α := do
  let s ← stringFor expected
  match parse s with
  | .ok a => pure a
  | .error reason => failHere (.refused reason)

def nullable {α : Type} (item : Reader α) : Reader (Option α) := do
  let next ← peekAfterBlanks
  if next = some 'n' then do
    eat
    word ['u', 'l', 'l']
    pure none
  else do
    let a ← item
    pure (some a)

def list {α : Type} (item : Reader α) : Reader (List α) := do
  let next ← valueStart
  if next = some '[' then listOf item else mismatch "a sequence"

/-- Null alone. -/
def unit : Reader Unit := do
  let next ← valueStart
  if next = some 'n' then do
    eat
    word ['u', 'l', 'l']
  else mismatch "unit"

/-! ### Named values -/

def named? {α : Type} (known : List (String × α)) (name : String) : Option α :=
  (known.find? fun p => p.1 = name).map Prod.snd

/-- The name of one of several values. -/
def variantName {α : Type} (known : List (String × α)) : Reader α := do
  let s ← stringFor "variant identifier"
  match named? known s with
  | some a => pure a
  | none => failHere (.unknownVariant s (known.map Prod.fst))

/-- Stops unless a key starts here, after blanks. -/
def keyStart : Reader Unit := do
  let next ← peekAfterBlanks
  if next = some '"' then pure ()
  else if next = some '\x7d' then failPeek .expectedValue
  else failPeekOrEnd .keyNotText .endInObject

/-- One of several named values, written as its name or as an object that holds null under it. -/
def variant {α : Type} (known : List (String × α)) : Reader α := do
  let next ← valueStart
  if next = some '"' then variantName known
  else if next = some '\x7b' then do
    eat
    keyStart
    let a ← variantName known
    colon
    unit
    let next ← peekAfterBlanks
    if next = some '\x7d' then do
      eat
      pure a
    else if (← get).atEnd then failHere .endInObject
    else failHere .expectedValue
  else failPeek .expectedValue

/-! ### Records -/

/-- What counts when a field is absent.  An object may leave out all but the required fields, a list
only those with a default. -/
inductive Absence (α : Type) where
  | required
  | omittable (value : α)
  | defaulted (value : α)

/-- The fields of a record. -/
structure Layout (K : Type) where
  /-- What the record is called in a fault. -/
  title : String
  order : List K
  name : K → String
  Value : K → Type
  read : (k : K) → Reader (Value k)
  absent : (k : K) → Absence (Value k)

namespace Layout

variable {K : Type} [DecidableEq K] (L : Layout K)

/-- The fields that were read so far. -/
abbrev Filling := (k : K) → Option (L.Value k)

def Filling.empty : L.Filling := fun _ => none

variable {L} in
def Filling.put (f : L.Filling) (k : K) (v : L.Value k) : L.Filling := fun j =>
  if h : k = j then some (h ▸ v) else f j

def field? (name : String) : Option K := L.order.find? fun k => L.name k = name

/-- The value of a field after the whole record was read. -/
def resolve (f : L.Filling) (k : K) : Except Problem (L.Value k) :=
  match f k with
  | some v => .ok v
  | none =>
      match L.absent k with
      | .required => .error (.missingField (L.name k))
      | .omittable v => .ok v
      | .defaulted v => .ok v

/-- What a list of fields is called in a fault. -/
def elements : String :=
  L.title ++ " with " ++ String.ofList (Numeral.digits L.order.length) ++
    (if L.order.length = 1 then " element" else " elements")

/-- Where a fault of the record as a whole is reported: after its closing brace if that is next. -/
def objectPlace (c : Cursor) : Place :=
  let c := c.skipBlanks
  if c.peek? = some '\x7d' then c.advance.place else c.place

/-- The fields of an object, from its opening brace or from a key on. -/
def objectFields : Nat → Bool → L.Filling → Cursor → Except Fault (L.Filling × Cursor)
  | 0, _, _, c => .error (Problem.endInObject.at c.place)
  | fuel + 1, first, f, c =>
      match nextKey first c with
      | .error e => .error e
      | .ok (false, c) => .ok (f, c)
      | .ok (true, c) =>
          match key c with
          | .error e => .error e
          | .ok (name, c) =>
              match L.field? name with
              | none =>
                  match (do colon; ignored : Reader Unit) c with
                  | .error e => .error e
                  | .ok (_, c) => objectFields fuel false f c
              | some k =>
                  if (f k).isSome then .error ((Problem.duplicateField (L.name k)).at (objectPlace c))
                  else
                    match (do colon; L.read k : Reader (L.Value k)) c with
                    | .error e => .error e
                    | .ok (v, c) => objectFields fuel false (f.put k v) c

/-- The fields of a list, in order; `i` counts those before. -/
def listFields : List K → Nat → L.Filling → Cursor → Except Fault (L.Filling × Cursor)
  | [], _, f, c => .ok (f, c)
  | k :: ks, i, f, c =>
      match nextItem (i == 0) c with
      | .error e => .error e
      | .ok (false, c) =>
          match L.absent k with
          | .defaulted v => listFields ks (i + 1) (f.put k v) c
          | _ => .error ((Problem.invalidLength i L.elements).at c.advance.place)
      | .ok (true, c) =>
          match L.read k c with
          | .error e => .error e
          | .ok (v, c) => listFields ks (i + 1) (f.put k v) c

/-- A record in either form. -/
def record {α : Type} (build : ((k : K) → Except Problem (L.Value k)) → Except Problem α) :
    Reader α := do
  let next ← valueStart
  if next = some '\x7b' then do
    eat
    let f ← fun c => L.objectFields (c.rest.length + 1) true (Filling.empty L) c
    match build (L.resolve f) with
    | .error p => fun c => .error (p.at (objectPlace c))
    | .ok a => do
        objectEnd
        pure a
  else if next = some '[' then do
    eat
    let f ← fun c => L.listFields L.order 0 (Filling.empty L) c
    match build (L.resolve f) with
    | .error p => failHere p
    | .ok a => do
        listEnd
        pure a
  else mismatch L.title

end Layout

end Json

end TableAccess
