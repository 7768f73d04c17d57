/-
**Assignments in a file.**

A file next to the program may hold assignments for the environment, one a line: a name, an equals
sign and a value, perhaps after the word `export`.  A value may be quoted, and then may run over
several lines; a hash sign after a blank begins a comment.  A dollar sign stands before the name of
a value that is put in its place, except between single quotes.

Reading stops at the first line that is no assignment; what came before it counts.

Main definitions:

* `EnvFile.logicalLines` — lines, with those joined that a quote holds together;
* `EnvFile.readValue?` — the value that is written;
* `EnvFile.load` — the environment completed by a file.
-/
import TableAccess.Startup.Environment
import TableAccess.Text.Alphanumeric
import TableAccess.Text.Blank

set_option relaxedAutoImplicit false
set_option autoImplicit false

namespace TableAccess

namespace EnvFile

/-! ### Lines -/

/-- The lines of a file, each with the line feed that ends it. -/
def physicalLines : List Char → List (List Char)
  | [] => []
  | c :: cs =>
      if c = '\n' then [c] :: physicalLines cs
      else
        match physicalLines cs with
        | [] => [[c]]
        | l :: ls => (c :: l) :: ls

/-- Where in a line one stands.  A comment may begin after a blank. -/
inductive Place where
  | plain
  | afterBlank
  | escape
  | single
  | singleEscape
  | double
  | doubleEscape
deriving DecidableEq, Repr

def Place.afterPlain (c : Char) : Place :=
  if c = '\\' then .escape
  else if c = '"' then .double
  else if c = '\'' then .single
  else .plain

def Place.next (p : Place) (c : Char) : Place :=
  match p with
  | .plain =>
      if Text.isBlank c && c ≠ '\n' && c ≠ '\r' then .afterBlank else Place.afterPlain c
  | .afterBlank => Place.afterPlain c
  | .escape => .plain
  | .single => if c = '\\' then .singleEscape else if c = '\'' then .plain else .single
  | .singleEscape => .single
  | .double => if c = '\\' then .doubleEscape else if c = '"' then .plain else .double
  | .doubleEscape => .double

/-- How a line ends: with a comment, before which some characters stand, or at a place. -/
inductive Ending where
  | comment (before : List Char)
  | open (place : Place)

/-- How the characters of a line end it. -/
def scan : Place → List Char → Ending
  | p, [] => .open p
  | p, c :: cs =>
      if p = .afterBlank ∧ c = '#' then .comment []
      else
        match scan (p.next c) cs with
        | .comment before => .comment (c :: before)
        | .open q => .open q

/-- A line without the line feed that ends it, and without a carriage return before that. -/
def chomp (cs : List Char) : List Char :=
  match cs.reverse with
  | '\n' :: '\r' :: r => r.reverse
  | '\n' :: r => r.reverse
  | _ => cs

/-- A logical line, unless the file ends before it does. -/
inductive Line where
  | complete (text : List Char)
  | unfinished
deriving DecidableEq, Repr

/-- Joins the lines that are held together, after those that wait for their end. -/
def joinLines : List Char → Place → List (List Char) → List Line
  | _, .plain, [] => []
  | _, _, [] => [.unfinished]
  | held, p, l :: ls =>
      let text := held ++ l
      if (Text.trimStart text).head? = some '#' then joinLines [] .plain ls
      else
        match scan p l with
        | .comment before => .complete (held ++ before) :: joinLines [] .plain ls
        | .open .plain => .complete (chomp text) :: joinLines [] .plain ls
        | .open q => joinLines text q ls

def logicalLines (cs : List Char) : List Line := joinLines [] .plain (physicalLines cs)

/-! ### Values -/

/-- Where in a value one stands.  Escapes and names after a dollar sign may be within double quotes;
after the end of the value only blanks and a comment may come. -/
inductive Mode where
  | bare
  | double
  | single
  | escape (quoted : Bool)
  | name (quoted : Bool) (soFar : List Char)
  | braced (quoted : Bool) (soFar : List Char)
  | ended
deriving DecidableEq, Repr

def Mode.text (quoted : Bool) : Mode := if quoted then .double else .bare

/-- What a backslash and a character stand for. -/
def unescape? (c : Char) : Option Char :=
  if c = 'n' then some '\n'
  else if c = '\\' ∨ c = '\'' ∨ c = '"' ∨ c = '$' ∨ c = ' ' then some c
  else none

/-- The characters of the value of a name. -/
def substitute (e : Environment) (name : List Char) : List Char :=
  ((e.get? (String.ofList name)).getD "").toList

def prepend (front : List Char) : Option (List Char) → Option (List Char) := Option.map (front ++ ·)

/-- The value that some characters stand for. -/
def readMode (e : Environment) : Mode → List Char → Option (List Char)
  | .bare, [] => some []
  | .ended, [] => some []
  | .escape false, [] => some []
  | .name false n, [] => some (substitute e n)
  | _, [] => none
  | .ended, c :: cs =>
      if c = ' ' ∨ c = '\t' then readMode e .ended cs
      else if c = '#' then some []
      else none
  | .escape quoted, c :: cs =>
      match unescape? c with
      | some d => prepend [d] (readMode e (.text quoted) cs)
      | none => none
  | .single, c :: cs =>
      if c = '\'' then readMode e .bare cs else prepend [c] (readMode e .single cs)
  | .name quoted n, c :: cs =>
      if Text.isAlphanumeric c then readMode e (.name quoted (n ++ [c])) cs
      else if c = '\x7b' ∧ n = [] then readMode e (.braced quoted []) cs
      else if c = '$' then prepend (substitute e n) (readMode e (.name quoted []) cs)
      else prepend (substitute e n ++ [c]) (readMode e (.text quoted) cs)
  | .braced quoted n, c :: cs =>
      if c = '\x7d' then prepend (substitute e n) (readMode e (.text quoted) cs)
      else readMode e (.braced quoted (n ++ [c])) cs
  | .double, c :: cs =>
      if c = '$' then readMode e (.name true []) cs
      else if c = '"' then readMode e .bare cs
      else if c = '\\' then readMode e (.escape true) cs
      else prepend [c] (readMode e .double cs)
  | .bare, c :: cs =>
      if c = '$' then readMode e (.name false []) cs
      else if c = '\'' then readMode e .single cs
      else if c = '"' then readMode e .double cs
      else if c = '\\' then readMode e (.escape false) cs
      else if c = ' ' ∨ c = '\t' then readMode e .ended cs
      else prepend [c] (readMode e .bare cs)

/-- The value that is written, if it is well formed. -/
def readValue? (e : Environment) (cs : List Char) : Option String :=
  (readMode e .bare cs).map String.ofList

/-! ### Assignments -/

/-- What a line says. -/
inductive Reading where
  | nothing
  | assigns (name value : String)
  | malformed
deriving DecidableEq, Repr

def beginsName (c : Char) : Bool := c.isAlpha || c = '_'

def continuesName (c : Char) : Bool := c.isAlphanum || c = '_' || c = '.'

/-- The name at the front, and what comes after it and after blanks. -/
def takeName? (cs : List Char) : Option (String × List Char) :=
  match cs with
  | c :: _ =>
      if beginsName c then
        some (String.ofList (cs.takeWhile continuesName),
          Text.trimStart (cs.dropWhile continuesName))
      else none
  | [] => none

/-- Whether nothing or a comment comes. -/
def isBare (cs : List Char) : Bool := cs.isEmpty || cs.head? = some '#'

/-- The assignment of what is written after the equals sign. -/
def assign (e : Environment) (name : String) (written : List Char) : Reading :=
  let cs := Text.trimStart written
  if isBare cs then .assigns name ""
  else
    match readValue? e cs with
    | some v => .assigns name v
    | none => .malformed

/-- The assignment to a name, whose equals sign must come next. -/
def assignTo (e : Environment) : Option (String × List Char) → Reading
  | some (name, '=' :: written) => assign e name written
  | _ => .malformed

/-- What a line says.  The word `export` may stand before a name, or be one. -/
def readLine (e : Environment) (line : List Char) : Reading :=
  let cs := Text.trimChars line
  if isBare cs then .nothing
  else
    match takeName? cs with
    | some ("export", rest) =>
        match rest with
        | '=' :: written => assign e "export" written
        | rest => assignTo e (takeName? rest)
    | named => assignTo e named

/-! ### Files -/

/-- The environment completed by the assignments of lines, up to the first that is malformed. -/
def loadLines : Environment → List Line → Environment
  | e, [] => e
  | e, .unfinished :: _ => e
  | e, .complete text :: ls =>
      match readLine e text with
      | .nothing => loadLines e ls
      | .assigns name value => loadLines (e.fill name value) ls
      | .malformed => e

/-- The text of a file without the mark of its byte order. -/
def withoutMark (cs : List Char) : List Char :=
  match cs with
  | c :: r => if c.toNat = 0xfeff then r else cs
  | [] => []

/-- The environment completed by a file. -/
def load (e : Environment) (file : String) : Environment :=
  loadLines e (logicalLines (withoutMark file.toList))

end EnvFile

end TableAccess
