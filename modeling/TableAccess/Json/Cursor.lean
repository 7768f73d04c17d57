/-
**Reading a text from the left.**

A cursor is what is left of a text together with the place reached.  A reader takes something from
the cursor or stops at a fault.  Faults are reported at one of two places: where the cursor stands,
or one byte further when the next character was looked at and found wrong.

Main definitions:

* `Json.Cursor`, `Json.Cursor.peekPlace` — the cursor and the second of the two places;
* `Json.Reader` — readers;
* `Json.Reader.blanks`, `Json.Reader.word` — the blanks of the format, and its three words.
-/
import TableAccess.Json.Fault
import TableAccess.Text.Utf8

set_option relaxedAutoImplicit false
set_option autoImplicit false

namespace TableAccess

namespace Json

open Utf8 (Piece)

/-! ### Places -/

def Place.nextByte (p : Place) : Place := ⟨p.line, p.column + 1⟩

def Place.nextLine (p : Place) : Place := ⟨p.line + 1, 0⟩

def Place.after (p : Place) (x : Piece) : Place :=
  if x.isChar '\n' then p.nextLine else ⟨p.line, p.column + x.size⟩

/-- The place after the given number of bytes of a text, or at its end. -/
def Place.afterBytes (p : Place) : Nat → List Piece → Place
  | 0, _ => p
  | _, [] => p
  | n + 1, x :: xs =>
      if x.size ≤ n + 1 then (p.after x).afterBytes (n + 1 - x.size) xs
      else ⟨p.line, p.column + (n + 1)⟩
termination_by _ xs => xs.length

def Place.atEnd (p : Place) (xs : List Piece) : Place := xs.foldl Place.after p

/-! ### Cursors -/

/-- What is left of a text, and the place reached. -/
structure Cursor where
  rest : List Piece
  place : Place

def Cursor.start (text : List Piece) : Cursor := ⟨text, ⟨1, 0⟩⟩

/-- The place one byte further, if the text does not end here. -/
def Cursor.peekPlace (c : Cursor) : Place :=
  match c.rest with
  | [] => c.place
  | x :: _ => if x.isChar '\n' then c.place.nextLine else c.place.nextByte

/-- The next character, if there is one and its bytes are well formed. -/
def Cursor.peek? (c : Cursor) : Option Char :=
  match c.rest with
  | .char a :: _ => some a
  | _ => none

/-- Whether the text ends here. -/
def Cursor.atEnd (c : Cursor) : Bool := c.rest.isEmpty

def Cursor.advance (c : Cursor) : Cursor :=
  match c.rest with
  | [] => c
  | x :: xs => ⟨xs, c.place.after x⟩

/-- Whether a piece is one of the four blanks of the format. -/
def isJsonBlank : Piece → Bool
  | .char c => c = ' ' || c = '\n' || c = '\t' || c = '\r'
  | .stray _ => false

/-- What is left after leading blanks, and the place there. -/
def afterBlanks : List Piece → Place → List Piece × Place
  | [], p => ([], p)
  | x :: xs, p => if isJsonBlank x then afterBlanks xs (p.after x) else (x :: xs, p)

def Cursor.skipBlanks (c : Cursor) : Cursor :=
  match afterBlanks c.rest c.place with
  | (rest, place) => ⟨rest, place⟩

/-! ### Readers -/

/-- A reader takes a value from the cursor, or stops at a fault. -/
abbrev Reader (α : Type) := StateT Cursor (Except Fault) α

namespace Reader

variable {α : Type}

def failHere (p : Problem) : Reader α := fun c => .error (p.at c.place)

/-- Stops one byte further, the next character having been looked at. -/
def failPeek (p : Problem) : Reader α := fun c => .error (p.at c.peekPlace)

/-- Stops at the next character if there is one, and otherwise because the text ends. -/
def failPeekOrEnd (p atEnd : Problem) : Reader α := fun c =>
  .error ((if c.atEnd then atEnd else p).at c.peekPlace)

def blanks : Reader Unit := modify Cursor.skipBlanks

/-- The next character after blanks, which stays in place. -/
def peekAfterBlanks : Reader (Option Char) := do
  blanks
  return (← get).peek?

def eat : Reader Unit := modify Cursor.advance

/-- Marks the faults of a reader with one more step of the way to them. -/
def inside (s : Segment) (r : Reader α) : Reader α := fun c =>
  match r c with
  | .ok x => .ok x
  | .error f => .error (f.inside s)

/-- Takes the given characters, as the rest of a word whose first letter was taken. -/
def word : List Char → Reader Unit
  | [] => pure ()
  | a :: as => do
      let c ← get
      if c.atEnd then failHere .endInValue
      else if c.peek? = some a then do
        eat
        word as
      else failPeek .expectedIdent

/-- Runs a reader on a whole text: only blanks may follow. -/
def run (r : Reader α) (text : List Piece) : Except Fault α :=
  match r (Cursor.start text) with
  | .error f => .error f
  | .ok (a, c) =>
      let c := c.skipBlanks
      if c.atEnd then .ok a else .error (Problem.trailingCharacters.at c.peekPlace)

end Reader

end Json

end TableAccess
