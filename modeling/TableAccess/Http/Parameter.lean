/-
**Parameters of a request.**

A resource may be named by a word of the path, and a list may be narrowed by a form after the
question mark.  What cannot be read is refused with a text that names the parameter.

Main definitions:

* `Http.Parameter.text`, `Http.Parameter.identifier` — a word of the path;
* `Http.GrantForm`, `Http.AuditForm` — the forms of the two lists.
-/
import TableAccess.Http.Message
import TableAccess.Text.Numeral
import TableAccess.Text.Percent

set_option relaxedAutoImplicit false
set_option autoImplicit false

namespace TableAccess

namespace Http

namespace Parameter

/-! ### Words of the path -/

/-- A word of the path that cannot be read. -/
def badWord (reason : String) : Response := .ofText 400 ("Invalid URL: " ++ reason)

def text (name : String) (word : List Char) : Except Response String :=
  match Percent.decode? word with
  | some s => .ok s
  | none => .error (badWord ("Invalid UTF-8 in `" ++ name ++ "`"))

def identifier (name : String) (word : List Char) : Except Response Int :=
  match text name word with
  | .error r => .error r
  | .ok s =>
      match Numeral.read Numeral.integer64 s with
      | .ok n => .ok n
      | .error _ => .error (badWord ("Cannot parse `" ++ s ++ "` to a `i64`"))

/-! ### Forms -/

def badForm (reason : String) : Response :=
  .ofText 400 ("Failed to deserialize query string: " ++ reason)

/-- Reads the value of a field; a field must not come twice. -/
def field {α : Type} (name : String) (read : String → Except String α) (current : Option α)
    (value : String) : Except Response (Option α) :=
  if current.isSome then .error (badForm ("duplicate field `" ++ name ++ "`"))
  else
    match read value with
    | .ok a => .ok (some a)
    | .error reason => .error (badForm (name ++ ": " ++ reason))

def numeral (b : Numeral.Bounds) (s : String) : Except String Int :=
  (Numeral.read b s).mapError Numeral.Fault.message

def count (s : String) : Except String Nat := (numeral Numeral.natural64 s).map Int.toNat

def truth (s : String) : Except String Bool :=
  if s = "true" then .ok true
  else if s = "false" then .ok false
  else .error "provided string was not `true` or `false`"

def anyText (s : String) : Except String String := .ok s

end Parameter

open Parameter

/-- The form that narrows the list of grants. -/
structure GrantForm where
  userId : Option Int
  activeOnly : Option Bool
  limit : Option Nat
  offset : Option Nat
deriving DecidableEq, Repr

namespace GrantForm

/-- The form with one more pair; unknown names are passed over. -/
def add (f : GrantForm) (name value : String) : Except Response GrantForm :=
  if name = "user_id" then do
    let v ← field name (numeral Numeral.integer64) f.userId value
    pure { f with userId := v }
  else if name = "active_only" then do
    let v ← field name truth f.activeOnly value
    pure { f with activeOnly := v }
  else if name = "limit" then do
    let v ← field name count f.limit value
    pure { f with limit := v }
  else if name = "offset" then do
    let v ← field name count f.offset value
    pure { f with offset := v }
  else pure f

/-- The form after the question mark. -/
def read (query : List Char) : Except Response GrantForm :=
  (Percent.formPairs query).foldlM (fun f p => f.add p.1 p.2) ⟨none, none, none, none⟩

end GrantForm

/-- The form that narrows the list of audit entries. -/
structure AuditForm where
  limit : Option Nat
  offset : Option Nat
  action : Option String
  actorId : Option Int
deriving DecidableEq, Repr

namespace AuditForm

/-- The form with one more pair; unknown names are passed over. -/
def add (f : AuditForm) (name value : String) : Except Response AuditForm :=
  if name = "limit" then do
    let v ← field name count f.limit value
    pure { f with limit := v }
  else if name = "offset" then do
    let v ← field name count f.offset value
    pure { f with offset := v }
  else if name = "action" then do
    let v ← field name anyText f.action value
    pure { f with action := v }
  else if name = "actor_id" then do
    let v ← field name (numeral Numeral.integer64) f.actorId value
    pure { f with actorId := v }
  else pure f

/-- The form after the question mark. -/
def read (query : List Char) : Except Response AuditForm :=
  (Percent.formPairs query).foldlM (fun f p => f.add p.1 p.2) ⟨none, none, none, none⟩

end AuditForm

end Http

end TableAccess
