/-
**Access keys.**

An access key is the token that a principal presents.  A token that an administrator supplies is
taken without the blanks around it; it must not be empty and has at most 36 characters, which is
the width of a generated one.

Main definitions:

* `AccessKey`, `AccessKey.ofText` — keys, and the check of a supplied token;
* `AccessKey.ofRandom` — the key made from random bits;
* `AccessKey.masked` — a key with all but its last four characters hidden;
* `AccessKeyRecord` — a stored key with its owner and its dates.
-/
import TableAccess.AppError
import TableAccess.Calendar.Instant
import TableAccess.Id
import TableAccess.Text.Blank

set_option relaxedAutoImplicit false
set_option autoImplicit false

namespace TableAccess

/-- The token that a principal presents. -/
@[ext] structure AccessKey where
  token : String
deriving DecidableEq, Inhabited, Repr

namespace AccessKey

def maxLength : Nat := 36

/-- Why a supplied token is refused. -/
inductive Refusal where
  | empty
  | tooLong
deriving DecidableEq, Repr

def Refusal.error : Refusal → AppError
  | .empty => ⟨.validation, "access key must not be empty"⟩
  | .tooLong => ⟨.validation, "access key must not exceed 36 characters"⟩

/-- The key of a supplied token, or why it is refused. -/
def ofText? (s : String) : Except Refusal AccessKey :=
  let cs := Text.trimChars s.toList
  if cs.isEmpty then .error .empty
  else if maxLength < cs.length then .error .tooLong
  else .ok ⟨String.ofList cs⟩

def ofText (s : String) : Outcome AccessKey := (ofText? s).mapError Refusal.error

/-! ### Generated keys -/

/-- The hexadecimal digits of 128 bits, with the four bits that tell a random identifier and the two
that tell its layout put in place. -/
def randomDigits (bits : Nat) : List Char :=
  let low := bits % Nat.pow 2 62 + Nat.pow 2 63
  let middle := bits / Nat.pow 2 62 % Nat.pow 2 12 + 4 * Nat.pow 2 12
  let high := bits / Nat.pow 2 74 % Nat.pow 2 48
  (Numeral.hexPadded 12 high).toList ++ (Numeral.hexPadded 4 middle).toList
    ++ (Numeral.hexPadded 16 low).toList

/-- The key made from random bits, its digits in groups of 8, 4, 4, 4 and 12. -/
def ofRandom (bits : Nat) : AccessKey :=
  let ds := randomDigits bits
  ⟨String.ofList (ds.take 8 ++ '-' :: (ds.drop 8).take 4 ++ '-' :: (ds.drop 12).take 4
    ++ '-' :: (ds.drop 16).take 4 ++ '-' :: ds.drop 20)⟩

/-! ### Hiding a key -/

def lastChars (n : Nat) (s : String) : String :=
  String.ofList (s.toList.drop (s.toList.length - n))

/-- A key with all but its last four characters hidden. -/
def masked (k : AccessKey) : String := "****" ++ lastChars 4 k.token

/-- A key in diagnostic output, where its token does not appear. -/
def concealed (_ : AccessKey) : String := "AccessKey(..)"

end AccessKey

@[ext] structure AccessKeyRecord where
  userId : UserId
  accessKey : AccessKey
  createdAt : Instant
  changedAt : Instant
  changedBy : Option UserId
deriving DecidableEq, Inhabited

end TableAccess
