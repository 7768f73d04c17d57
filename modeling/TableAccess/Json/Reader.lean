/-
**Reading JSON values.**

A value is read from the left.  Lists and objects may be nested 127 deep.  Of two fields of one name
the later counts.  A value that nobody asked for is passed over without those limits; the two
walks agree on every text that the first accepts.

Main definitions:

* `Json.nextItem`, `Json.nextKey`, `Json.colon` — what separates items and fields;
* `Json.listOf` — a list whose items one reader takes;
* `Json.value`, `Json.parse` — a value, and a whole text holding one;
* `Json.skipValue` — passing over a value.
-/
import TableAccess.Json.Scalar
import TableAccess.Json.Value

set_option relaxedAutoImplicit false
set_option autoImplicit false

namespace TableAccess

namespace Json

open Utf8 (Piece)
open Reader

/-! ### Separators -/

/-- Moves to the next item of a list and tells whether there is one; a closing bracket stays in
place. -/
def nextItem (first : Bool) : Reader Bool := do
  let next ← peekAfterBlanks
  let c ← get
  if c.atEnd then failPeek .endInList
  else if next = some ']' then pure false
  else if first then pure true
  else if next = some ',' then do
    eat
    let next ← peekAfterBlanks
    let c ← get
    if c.atEnd then failPeek .endInValue
    else if next = some ']' then failPeek .trailingComma
    else pure true
  else failPeek .expectedListEnd

/-- Moves to the key of the next field of an object and tells whether there is one; a closing brace
stays in place. -/
def nextKey (first : Bool) : Reader Bool := do
  let next ← peekAfterBlanks
  let c ← get
  if c.atEnd then failPeek .endInObject
  else if next = some '\x7d' then pure false
  else if first then
    if next = some '"' then pure true else failPeek .keyNotText
  else if next = some ',' then do
    eat
    let next ← peekAfterBlanks
    let c ← get
    if c.atEnd then failPeek .endInValue
    else if next = some '"' then pure true
    else if next = some '\x7d' then failPeek .trailingComma
    else failPeek .keyNotText
  else failPeek .expectedObjectEnd

def colon : Reader Unit := do
  if (← peekAfterBlanks) = some ':' then eat
  else failPeekOrEnd .expectedColon .endInObject

/-- A key, from its opening quote. -/
def key : Reader String := do
  eat
  text

def listEnd : Reader Unit := do
  let next ← peekAfterBlanks
  if next = some ']' then eat
  else if next = some ',' then do
    eat
    if (← peekAfterBlanks) = some ']' then failPeek .trailingComma
    else failPeek .trailingCharacters
  else failPeekOrEnd .trailingCharacters .endInList

def objectEnd : Reader Unit := do
  let next ← peekAfterBlanks
  if next = some '\x7d' then eat
  else if next = some ',' then failPeek .trailingComma
  else failPeekOrEnd .trailingCharacters .endInObject

/-! ### Lists -/

/-- The items of a list from the one with number `i`; `acc` holds those before, last first. -/
def itemsFrom {α : Type} (item : Reader α) :
    Nat → Nat → List α → Cursor → Except Fault (List α × Cursor)
  | 0, _, _, c => .error (Problem.endInList.at c.place)
  | fuel + 1, i, acc, c =>
      match nextItem (i == 0) c with
      | .error f => .error f
      | .ok (false, c) => .ok (acc.reverse, c)
      | .ok (true, c) =>
          match inside (.index i) item c with
          | .error f => .error f
          | .ok (a, c) => itemsFrom item fuel (i + 1) (a :: acc) c

/-- The items of a list, from its opening bracket to its closing one. -/
def listOf {α : Type} (item : Reader α) : Reader (List α) := do
  eat
  let as ← fun c => itemsFrom item (c.rest.length + 1) 0 [] c
  listEnd
  pure as

/-! ### Values -/

/-- The fields of an object; `acc` holds those before, sorted by name. -/
def fieldsFrom (item : Reader Json) :
    Nat → Bool → List (String × Json) → Cursor → Except Fault (List (String × Json) × Cursor)
  | 0, _, _, c => .error (Problem.endInObject.at c.place)
  | fuel + 1, first, acc, c =>
      match inside .unnamed (nextKey first) c with
      | .error f => .error f
      | .ok (false, c) => .ok (acc, c)
      | .ok (true, c) =>
          match inside .unnamed key c with
          | .error f => .error f
          | .ok (name, c) =>
              match (do colon; inside (.field name) item : Reader Json) c with
              | .error f => .error f
              | .ok (v, c) => fieldsFrom item fuel false (insertField name v acc) c

/-- The fields of an object, from its opening brace to its closing one. -/
def objectOf (item : Reader Json) : Reader (List (String × Json)) := do
  eat
  let fs ← fun c => fieldsFrom item (c.rest.length + 1) true [] c
  objectEnd
  pure fs

def Number.toJson : Number → Json
  | .whole n => .int n
  | .double bits => .float bits

/-- A value that is neither a list nor an object, if its first character starts one. -/
def scalar? (first : Char) : Option (Reader Json) :=
  if first = 'n' then some do
    eat
    word ['u', 'l', 'l']
    pure .null
  else if first = 't' then some do
    eat
    word ['r', 'u', 'e']
    pure (.bool true)
  else if first = 'f' then some do
    eat
    word ['a', 'l', 's', 'e']
    pure (.bool false)
  else if first = '-' then some do
    eat
    let n ← number false
    pure n.toJson
  else if (Numeral.digit? first).isSome then some do
    let n ← number true
    pure n.toJson
  else if first = '"' then some do
    eat
    let s ← text
    pure (.str s)
  else none

/-- A value whose lists and objects are nested less deep than the given number. -/
def value : Nat → Reader Json
  | 0 => failPeek .tooDeep
  | depth + 1 => do
      let next ← peekAfterBlanks
      match next with
      | none => failPeekOrEnd .expectedValue .endInValue
      | some a =>
          match scalar? a with
          | some r => r
          | none =>
              if a = '[' then
                if depth = 0 then failPeek .tooDeep
                else do
                  let items ← listOf (value depth)
                  pure (.arr items)
              else if a = '\x7b' then
                if depth = 0 then failPeek .tooDeep
                else do
                  let fields ← objectOf (value depth)
                  pure (.obj fields)
              else failPeek .expectedValue

def depthLimit : Nat := 128

def anyValue : Reader Json := value depthLimit

/-- The value that a text holds. -/
def parse (text : List Piece) : Except Fault Json := anyValue.run text

/-! ### Passing over a value -/

def skipItems (item : Reader Unit) : Nat → Bool → Cursor → Except Fault (Unit × Cursor)
  | 0, _, c => .error (Problem.endInList.at c.place)
  | fuel + 1, first, c =>
      let c := c.skipBlanks
      if c.atEnd then .error (Problem.endInList.at c.peekPlace)
      else if c.peek? = some ']' then .ok ((), c.advance)
      else if first then
        match item c with
        | .error f => .error f
        | .ok (_, c) => skipItems item fuel false c
      else if c.peek? = some ',' then
        match item c.advance with
        | .error f => .error f
        | .ok (_, c) => skipItems item fuel false c
      else .error (Problem.expectedListEnd.at c.peekPlace)

def skipField (item : Reader Unit) : Reader Unit := do
  if (← peekAfterBlanks) = some '"' then do
    eat
    skipText
    colon
    item
  else failPeekOrEnd .keyNotText .endInObject

def skipFields (item : Reader Unit) : Nat → Bool → Cursor → Except Fault (Unit × Cursor)
  | 0, _, c => .error (Problem.endInObject.at c.place)
  | fuel + 1, first, c =>
      let c := c.skipBlanks
      if c.atEnd then .error (Problem.endInObject.at c.peekPlace)
      else if c.peek? = some '\x7d' then .ok ((), c.advance)
      else if first then
        match skipField item c with
        | .error f => .error f
        | .ok (_, c) => skipFields item fuel false c
      else if c.peek? = some ',' then
        match skipField item c.advance with
        | .error f => .error f
        | .ok (_, c) => skipFields item fuel false c
      else .error (Problem.expectedObjectEnd.at c.peekPlace)

def skipScalar? (first : Char) : Option (Reader Unit) :=
  if first = 'n' then some do
    eat
    word ['u', 'l', 'l']
  else if first = 't' then some do
    eat
    word ['r', 'u', 'e']
  else if first = 'f' then some do
    eat
    word ['a', 'l', 's', 'e']
  else if first = '-' then some do
    eat
    skipNumber
  else if (Numeral.digit? first).isSome then some skipNumber
  else if first = '"' then some do
    eat
    skipText
  else none

/-- Passes over a value nested less deep than the given number. -/
def skipValue : Nat → Reader Unit
  | 0 => failPeek .endInValue
  | depth + 1 => do
      let next ← peekAfterBlanks
      match next with
      | none => failPeekOrEnd .expectedValue .endInValue
      | some a =>
          match skipScalar? a with
          | some r => r
          | none =>
              if a = '[' then do
                eat
                fun c => skipItems (skipValue depth) (c.rest.length + 1) true c
              else if a = '\x7b' then do
                eat
                fun c => skipFields (skipValue depth) (c.rest.length + 1) true c
              else failPeek .expectedValue

/-- Passes over a value of any depth; each level takes a bracket from the text. -/
def ignored : Reader Unit := fun c => skipValue (c.rest.length + 1) c

end Json

end TableAccess
