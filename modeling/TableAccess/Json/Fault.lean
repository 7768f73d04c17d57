/-
**What can be wrong with a JSON text.**

A text is refused at its first fault, which is either one of form (a bracket is missing, a number
has no digits) or one of meaning (a field is missing, a text stands where a number belongs).  A
fault knows its place, as line and bytes read of that line, and the way to it through fields and
positions.

Main definitions:

* `Json.Problem` — the causes;
* `Json.Fault` — a cause, where it was met, and the way there;
* `Json.Fault.message`, `Json.Fault.messageWithPath` — the wordings.
-/
import TableAccess.Text.Numeral

set_option relaxedAutoImplicit false
set_option autoImplicit false

namespace TableAccess

namespace Json

/-- A place in a text: the line, counted from 1, and the number of bytes of it that were read. -/
structure Place where
  line : Nat
  column : Nat
deriving DecidableEq, Repr, Inhabited

/-- The causes for which a text is refused.  A value that was read may still be refused by the type
that it stands for. -/
inductive Problem where
  | endInList
  | endInObject
  | endInString
  | endInValue
  | expectedColon
  | expectedListEnd
  | expectedObjectEnd
  | expectedIdent
  | expectedValue
  | invalidEscape
  | invalidNumber
  | numberOutOfRange
  | invalidCodePoint
  | controlCharacter
  | keyNotText
  | loneSurrogate
  | trailingComma
  | trailingCharacters
  | endOfHexEscape
  | tooDeep
  | invalidType (found expected : String)
  | invalidValue (found expected : String)
  | invalidLength (found : Nat) (expected : String)
  | missingField (name : String)
  | duplicateField (name : String)
  | unknownVariant (found : String) (known : List String)
  | refused (reason : String)
deriving DecidableEq, Repr, Inhabited

/-- The list of variants that a wording names. -/
def oneOf : List String → String
  | [] => "there are no variants"
  | [a] => "expected `" ++ a ++ "`"
  | [a, b] => "expected `" ++ a ++ "` or `" ++ b ++ "`"
  | as => "expected one of " ++ ", ".intercalate (as.map fun a => "`" ++ a ++ "`")

def Problem.message : Problem → String
  | .endInList => "EOF while parsing a list"
  | .endInObject => "EOF while parsing an object"
  | .endInString => "EOF while parsing a string"
  | .endInValue => "EOF while parsing a value"
  | .expectedColon => "expected `:`"
  | .expectedListEnd => "expected `,` or `]`"
  | .expectedObjectEnd => "expected `,` or `\x7d`"
  | .expectedIdent => "expected ident"
  | .expectedValue => "expected value"
  | .invalidEscape => "invalid escape"
  | .invalidNumber => "invalid number"
  | .numberOutOfRange => "number out of range"
  | .invalidCodePoint => "invalid unicode code point"
  | .controlCharacter => "control character (\\u0000-\\u001F) found while parsing a string"
  | .keyNotText => "key must be a string"
  | .loneSurrogate => "lone leading surrogate in hex escape"
  | .trailingComma => "trailing comma"
  | .trailingCharacters => "trailing characters"
  | .endOfHexEscape => "unexpected end of hex escape"
  | .tooDeep => "recursion limit exceeded"
  | .invalidType found expected => "invalid type: " ++ found ++ ", expected " ++ expected
  | .invalidValue found expected => "invalid value: " ++ found ++ ", expected " ++ expected
  | .invalidLength found expected =>
      "invalid length " ++ String.ofList (Numeral.digits found) ++ ", expected " ++ expected
  | .missingField name => "missing field `" ++ name ++ "`"
  | .duplicateField name => "duplicate field `" ++ name ++ "`"
  | .unknownVariant found known => "unknown variant `" ++ found ++ "`, " ++ oneOf known
  | .refused reason => reason

/-- One step of the way into a value.  A field whose name was not read has none. -/
inductive Segment where
  | field (name : String)
  | index (i : Nat)
  | unnamed
deriving DecidableEq, Repr

/-- A fault of a text. -/
structure Fault where
  problem : Problem
  place : Place
  path : List Segment
deriving DecidableEq, Repr

/-- A fault without a way to it. -/
def Problem.at (p : Problem) (place : Place) : Fault := ⟨p, place, []⟩

/-- The fault as seen from outside one more field or position. -/
def Fault.inside (s : Segment) (f : Fault) : Fault := { f with path := s :: f.path }

/-- The wording of a fault with its place. -/
def Fault.message (f : Fault) : String :=
  f.problem.message ++ " at line " ++ String.ofList (Numeral.digits f.place.line) ++ " column "
    ++ String.ofList (Numeral.digits f.place.column)

def Segment.text : Segment → String
  | .field n => n
  | .index i => "[" ++ String.ofList (Numeral.digits i) ++ "]"
  | .unnamed => "?"

def Segment.isIndex : Segment → Bool
  | .index _ => true
  | _ => false

/-- The way into a value: names with points between them, positions in brackets. -/
def pathText : List Segment → String
  | [] => ""
  | s :: rest => rest.foldl (fun t s => t ++ (if s.isIndex then "" else ".") ++ s.text) s.text

/-- The wording of a fault with the way to it in front, if any step of the way is known. -/
def Fault.messageWithPath (f : Fault) : String :=
  if f.path.all (· = .unnamed) then f.message else pathText f.path ++ ": " ++ f.message

end Json

end TableAccess
