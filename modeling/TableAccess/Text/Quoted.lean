/-
**Quoted texts.**

A text inside a diagnostic message stands between double quotes, with everything that would not
show escaped: the quote and the backslash, control characters, blanks other than the space, marks
that join the character before them, and code points that are not assigned.

Main definitions:

* `Quoted.isHidden` — the characters that are written by their code point;
* `Quoted.quote` — the quoted form of a text.
-/
import TableAccess.Text.Numeral
import TableAccess.Text.Visibility

set_option relaxedAutoImplicit false
set_option autoImplicit false

namespace TableAccess

namespace Quoted

/-- Whether a character is written by its code point. -/
def isHidden (c : Char) : Bool := Text.isUnshown c || Text.isJoining c

/-! ### Quoting -/

/-- The form of one character between quotes. -/
def escape (c : Char) : String :=
  if c = '"' then "\\\""
  else if c = '\\' then "\\\\"
  else if c = '\n' then "\\n"
  else if c = '\r' then "\\r"
  else if c = '\t' then "\\t"
  else if c.toNat = 0 then "\\0"
  else if isHidden c then "\\u\x7b" ++ Numeral.hex c.toNat ++ "\x7d"
  else String.singleton c

def quote (s : String) : String :=
  s.toList.foldl (fun acc c => acc ++ escape c) "\"" ++ "\""

end Quoted

end TableAccess
