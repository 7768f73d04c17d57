/-
**Single parts of a search pattern.**

A part is a character, a class with a letter for its name, or a place between characters.  Which
parts can be used hangs on the mode: a text is seen either as characters or as bytes, case counts or
does not, blanks between parts count or do not.  Nothing is known about characters beyond ASCII, so
where a text is seen as characters no part can ask what kind they are of; where it is seen as bytes
no part may match a piece of a character.

Main definitions:

* `Pattern.Mode` — the modes;
* `Pattern.Part`, `Part.standsAlone`, `Part.standsInBrackets` — the parts and where they can be
  used;
* `Pattern.escape?` — the part after a backslash.
-/
import TableAccess.Text.Blank
import TableAccess.Text.Numeral

set_option relaxedAutoImplicit false
set_option autoImplicit false

namespace TableAccess

namespace Logging

namespace Pattern

/-! ### Modes -/

/-- The mode in which a part of a pattern is read. -/
structure Mode where
  ignoresCase : Bool
  /-- A text is seen as characters; otherwise it is seen as bytes. -/
  byCharacter : Bool
  /-- Blanks and comments between parts are passed over. -/
  spaced : Bool
deriving DecidableEq, Repr

namespace Mode

/-- The mode at the beginning of a pattern. -/
def usual : Mode := ⟨false, true, false⟩

/-- The mode after the switch with a letter is set; some switches do not matter here. -/
def set? (m : Mode) (letter : Char) (on : Bool) : Option Mode :=
  if letter = 'i' then some { m with ignoresCase := on }
  else if letter = 'u' then some { m with byCharacter := on }
  else if letter = 'x' then some { m with spaced := on }
  else if letter = 'm' || letter = 's' || letter = 'U' || letter = 'R' then some m
  else none

end Mode

/-- What is left after blanks and comments.  The flag tells that a comment was entered, which ends
with its line. -/
def passBlanks : Bool → List Char → List Char
  | _, [] => []
  | true, c :: cs => passBlanks (c ≠ '\n') cs
  | false, c :: cs =>
      if Text.isBlank c then passBlanks false cs
      else if c = '#' then passBlanks true cs
      else c :: cs

/-- What is left after the blanks and comments that the mode passes over. -/
def Mode.skip (m : Mode) (cs : List Char) : List Char :=
  if m.spaced then passBlanks false cs else cs

/-! ### Parts -/

/-- A part of a pattern.  A character may have been written as a byte by two hexadecimal digits, a
class with a letter for its name may stand for what is outside it, and a place between characters
may be one where a word begins or ends. -/
inductive Part where
  | char (c : Char) (byte : Bool)
  | any
  | named (outside : Bool)
  | place (ofWord : Bool)
deriving DecidableEq, Repr

namespace Part

def standsAlone (m : Mode) : Part → Bool
  | .char c byte => if m.byCharacter then !m.ignoresCase else !(byte && 0x7f < c.toNat)
  | .any => m.byCharacter
  | .named outside => !m.byCharacter && !outside
  | .place ofWord => !(ofWord && m.byCharacter)

def standsInBrackets (m : Mode) : Part → Bool
  | .char c _ => if m.byCharacter then !m.ignoresCase else c.toNat < 0x80
  | .named outside => !m.byCharacter && !outside
  | .any => false
  | .place _ => false

end Part

/-! ### Escapes -/

/-- The number with the given count of hexadecimal digits, appended to a number. -/
def hexDigits (m : Mode) : Nat → Nat → List Char → Option (Nat × List Char)
  | 0, n, cs => some (n, cs)
  | _ + 1, _, [] => none
  | count + 1, n, c :: cs =>
      match Numeral.hexDigit? c with
      | some d => hexDigits m count (n * 16 + d) (m.skip cs)
      | none => none

/-- The character with a number of the given count of hexadecimal digits. -/
def numbered? (m : Mode) (count : Nat) (cs : List Char) : Option (Part × List Char) :=
  match hexDigits m count 0 (m.skip cs) with
  | some (n, rest) =>
      if n.isValidChar then some (.char (Char.ofNat n) (count = 2), rest) else none
  | none => none

/-- The part that a letter after a backslash stands for. -/
def lettered? (letter : Char) : Option Part :=
  if letter = 'a' then some (.char '\x07' false)
  else if letter = 'f' then some (.char '\x0c' false)
  else if letter = 't' then some (.char '\t' false)
  else if letter = 'n' then some (.char '\n' false)
  else if letter = 'r' then some (.char '\r' false)
  else if letter = 'v' then some (.char '\x0b' false)
  else if letter = 'd' || letter = 's' || letter = 'w' then some (.named false)
  else if letter = 'D' || letter = 'S' || letter = 'W' then some (.named true)
  else if letter = 'A' || letter = 'z' then some (.place false)
  else if letter = 'b' || letter = 'B' || letter = '<' || letter = '>' then some (.place true)
  else none

/-- The part after a backslash, and what is left.  A sign of ASCII stands for itself. -/
def escape? (m : Mode) : List Char → Option (Part × List Char)
  | [] => none
  | c :: cs =>
      if c = 'x' then numbered? m 2 cs
      else if c = 'u' then numbered? m 4 cs
      else if c = 'U' then numbered? m 8 cs
      else
        match lettered? c with
        | some p => some (p, cs)
        | none =>
            if c.toNat < 0x80 && !c.isAlphanum then some (.char c false, cs) else none

end Pattern

end Logging

end TableAccess
