/-
**Percent encoding.**

In the address of a request a byte may be written as a percent sign and two hexadecimal digits.
A percent sign that is not followed by two such digits stands for itself.

Main definitions:

* `Percent.decodeBytes` — the bytes of a percent-encoded text;
* `Percent.decode?` — its text, when the bytes are well-formed UTF-8;
* `Percent.formPairs` — the names and values of a form: pairs between ampersands, with a plus sign
  for a space.
-/
import TableAccess.Text.Blank
import TableAccess.Text.Numeral
import TableAccess.Text.Utf8

set_option relaxedAutoImplicit false
set_option autoImplicit false

namespace TableAccess

namespace Percent

/-- The bytes of a percent-encoded text. -/
def decodeBytes : List Char → List UInt8
  | [] => []
  | '%' :: a :: b :: cs =>
      match Numeral.hexDigit? a, Numeral.hexDigit? b with
      | some x, some y => UInt8.ofNat (x * 16 + y) :: decodeBytes cs
      | _, _ => 0x25 :: decodeBytes (a :: b :: cs)
  | c :: cs => Utf8.encode (String.singleton c) ++ decodeBytes cs
termination_by cs => cs.length

/-- The text of a percent-encoded text, when its bytes are well-formed UTF-8. -/
def decode? (cs : List Char) : Option String := Utf8.decode? (decodeBytes cs)

/-- A name or value of a form. -/
def formText (cs : List Char) : String :=
  Utf8.decodeLossy (decodeBytes (cs.map fun c => if c = '+' then ' ' else c))

/-- The pairs of a form, in order; empty pieces between ampersands are passed over, and a name
without an equals sign has the empty value. -/
def formPairs (cs : List Char) : List (String × String) :=
  ((Text.splitOn '&' cs).filter (fun p => !p.isEmpty)).map fun p =>
    match Text.cut '=' p with
    | (name, value) => (formText name, formText (value.getD []))

end Percent

end TableAccess
