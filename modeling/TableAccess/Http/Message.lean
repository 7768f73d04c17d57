/-
**Requests and responses.**

Main definitions:

* `Http.Method`, `Http.Message` — a request;
* `Http.Body`, `Http.Response` — a response;
* `Http.Response.ofError`, `Http.Response.ofOutcome` — the response to an operation.
-/
import TableAccess.AppError
import TableAccess.Json.Value
import TableAccess.Text.Blank

set_option relaxedAutoImplicit false
set_option autoImplicit false

namespace TableAccess

namespace Http

/-! ### Requests -/

/-- The methods that are told apart. -/
inductive Method where
  | get
  | head
  | post
  | put
  | delete
  | options
  | other (name : String)
deriving DecidableEq, Repr

def Method.name : Method → String
  | .get => "GET"
  | .head => "HEAD"
  | .post => "POST"
  | .put => "PUT"
  | .delete => "DELETE"
  | .options => "OPTIONS"
  | .other n => n

def Method.ofName (n : String) : Method :=
  if n = "GET" then .get
  else if n = "HEAD" then .head
  else if n = "POST" then .post
  else if n = "PUT" then .put
  else if n = "DELETE" then .delete
  else if n = "OPTIONS" then .options
  else .other n

structure Message where
  method : Method
  /-- The path as it was sent, still encoded. -/
  path : List Char
  /-- What follows the question mark, still encoded. -/
  query : List Char
  headers : List (String × String)
  body : List UInt8

/-- What comes after the scheme and the authority of an absolute address. -/
def afterAuthority? (cs : List Char) : Option (List Char) :=
  match cs.dropWhile fun c => c.isAlphanum || c = '+' || c = '-' || c = '.' with
  | ':' :: '/' :: '/' :: rest => some (rest.dropWhile fun c => c ≠ '/' && c ≠ '?')
  | _ => none

/-- The path and the query of an address without a hash sign. -/
def pathAndQuery (cs : List Char) : List Char × List Char :=
  match Text.cut '?' cs with
  | (path, query) => (path, query.getD [])

/-- The path and the query of an address, which is a path itself or absolute.  The path of an
absolute address is never empty; an authority alone has no path. -/
def splitTarget (target : String) : List Char × List Char :=
  match (Text.cut '#' target.toList).1 with
  | '/' :: cs => pathAndQuery ('/' :: cs)
  | ['*'] => (['*'], [])
  | cs =>
      match afterAuthority? cs with
      | none => ([], [])
      | some rest =>
          match pathAndQuery rest with
          | ([], query) => (['/'], query)
          | parts => parts

/-- Whether a character may stand in the visible text of a header field. -/
def isVisible (c : Char) : Bool := (0x20 ≤ c.toNat && c.toNat < 0x7f) || c = '\t'

/-- The first header field with a name (in lower case), if all of its text is visible. -/
def Message.header? (m : Message) (name : String) : Option String :=
  match m.headers.find? fun h => Text.lowerAscii h.1.toList = name.toList with
  | some (_, v) => if v.toList.all isVisible then some v else none
  | none => none

/-! ### Responses -/

/-- The body of a response. -/
inductive Body where
  | empty
  | text (s : String)
  | json (v : Json)
deriving Inhabited

structure Response where
  status : Nat
  headers : List (String × String)
  body : Body
deriving Inhabited

namespace Response

def bare (status : Nat) : Response := ⟨status, [], .empty⟩

def ofText (status : Nat) (s : String) : Response :=
  ⟨status, [("content-type", "text/plain; charset=utf-8")], .text s⟩

def ofJson (status : Nat) (v : Json) : Response :=
  ⟨status, [("content-type", "application/json")], .json v⟩

/-- The status that goes with a kind of error. -/
def statusOf : ErrorKind → Nat
  | .validation => 400
  | .notFound => 404
  | .conflict => 409
  | .invalidStateTransition => 409
  | .deleteOfActiveGrant => 409
  | .nothingChanged => 422
  | .unauthorized => 401
  | .forbidden => 403
  | .internal => 500

/-- The response to a failed operation. -/
def ofError (e : AppError) : Response :=
  ofJson (statusOf e.kind) (.obj [("message", .str e.message)])

def ofOutcome {α : Type} (status : Nat) (view : α → Json) : Outcome α → Response
  | .ok a => ofJson status (view a)
  | .error e => ofError e

def ofDone : Outcome Unit → Response
  | .ok () => bare 204
  | .error e => ofError e

def withHeader (r : Response) (name value : String) : Response :=
  { r with headers := r.headers ++ [(name, value)] }

/-- The response to a request that asks for the header fields only. -/
def withoutBody (r : Response) : Response := { r with body := .empty }

end Response

end Http

end TableAccess
