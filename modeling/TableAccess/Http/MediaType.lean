/-
**Media types.**

The type of a body is named by two words with a slash between them and by parameters after
semicolons.  A plus sign in the second word sets apart a suffix that names the format.

Main definitions:

* `Http.MediaType.read?` — the words of a well-formed media type, in lower case;
* `Http.MediaType.isJson` — whether it names JSON.
-/
import TableAccess.Text.Blank

set_option relaxedAutoImplicit false
set_option autoImplicit false

namespace TableAccess

namespace Http

namespace MediaType

def isToken (c : Char) : Bool := c.isAlphanum || "!#$%&'*+-.^_`|~".toList.contains c

def isQuotable (c : Char) : Bool := 31 < c.toNat && c.toNat ≠ 127

/-- Where the reading of parameters stands: before or in a name, after its equals sign, in a value,
or after the quote that opens a value, between its quotes or after the one that closes it. -/
inductive Spot where
  | start
  | name
  | equals
  | value
  | opened
  | quoted
  | closed

/-- Whether some characters complete the parameters. -/
def parametersFrom : Spot → List Char → Bool
  | .start, [] => true
  | .start, c :: cs =>
      if c = ' ' then parametersFrom .start cs else isToken c && parametersFrom .name cs
  | .name, [] => false
  | .name, c :: cs =>
      if c = '=' then parametersFrom .equals cs else isToken c && parametersFrom .name cs
  | .equals, [] => true
  | .equals, c :: cs =>
      if c = '"' then parametersFrom .opened cs else isToken c && parametersFrom .value cs
  | .value, [] => true
  | .value, c :: cs =>
      if c = ';' then parametersFrom .start cs else isToken c && parametersFrom .value cs
  | .opened, [] => false
  | .opened, c :: cs => isQuotable c && parametersFrom .quoted cs
  | .quoted, [] => false
  | .quoted, c :: cs =>
      if c = '"' then parametersFrom .closed cs else isQuotable c && parametersFrom .quoted cs
  | .closed, [] => true
  | .closed, c :: cs =>
      if c = ';' then parametersFrom .start cs else c = ' ' && parametersFrom .closed cs

/-- The second word up to its last plus sign, if it has one after its first character, and what
follows that sign. -/
def splitSuffix (word : List Char) : List Char × Option (List Char) :=
  let tail := (word.reverse.takeWhile (· ≠ '+')).reverse
  let before := word.length - tail.length
  if before < 2 then (word, none) else (word.take (before - 1), some tail)

/-- The first word, the second word without its suffix, and the suffix. -/
def read? (s : String) : Option (List Char × List Char × Option (List Char)) :=
  match Text.cut '/' (Text.lowerAscii s.toList) with
  | (_, none) => none
  | (type, some rest) =>
      match Text.cut ';' rest with
      | (sub, parameters) =>
          if type.isEmpty || !type.all isToken || !sub.all isToken then none
          else
            match parameters with
            | none => some (type, splitSuffix sub)
            | some ps =>
                if !sub.isEmpty && parametersFrom .start ps then some (type, splitSuffix sub)
                else none

/-- Whether a media type names JSON, by its second word or by its suffix. -/
def isJson (s : String) : Bool :=
  match read? s with
  | some (type, sub, suffix) =>
      type = "application".toList && (sub = "json".toList || suffix = some "json".toList)
  | none => false

end MediaType

end Http

end TableAccess
