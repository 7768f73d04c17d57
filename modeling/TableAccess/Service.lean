/-
**Services.**

A service is an operation of the application.  It talks to a store, reads the clock and draws new
keys, one call after the other, and ends with a value or with an error.

Main definitions:

* `Call`, `Call.Reply` — what an operation may call for;
* `Service` — operations, as dialogues that may fail;
* `Service.request`, `Service.now`, `Service.newKey`, `Service.elapsed` — the single calls;
* `requireAdmin` — the check that comes before every administrative operation.
-/
import TableAccess.Dialogue
import TableAccess.Port

set_option relaxedAutoImplicit false
set_option autoImplicit false

namespace TableAccess

/-- What an operation may call for: the store, the time of the application's clock, a new key, or
the milliseconds that it has taken. -/
inductive Call where
  | store (request : Request)
  | now
  | newKey
  | elapsed

abbrev Call.Reply : Call → Type
  | .store r => r.Answer
  | .now => Instant
  | .newKey => AccessKey
  | .elapsed => Nat

/-- Calls that end with a value. -/
abbrev Calls (α : Type) := Dialogue Call Call.Reply α

/-- An operation that may fail. -/
abbrev Service (α : Type) := ExceptT AppError (Dialogue Call Call.Reply) α

namespace Service

def request (r : Request) : Service r.Value := ExceptT.mk (Dialogue.query (Call.store r))

def now : Service Instant := ExceptT.lift (Dialogue.query Call.now)

def newKey : Service AccessKey := ExceptT.lift (Dialogue.query Call.newKey)

def refuse {α : Type} (e : AppError) : Service α := throw e

/-- Goes on with the value of an outcome, or ends with its error. -/
def ofOutcome {α : Type} (o : Outcome α) : Service α := ExceptT.mk (pure o)

/-- Goes on with the value that is there, or ends with an error. -/
def orRefuse {α : Type} (e : AppError) : Option α → Service α
  | some a => pure a
  | none => refuse e

end Service

/-! ### Administration -/

def notAdmin (p : Principal) : AppError :=
  ⟨.forbidden, "Permission denied: " ++ p.describe ++ " is not Admin"⟩

/-- Fails unless the principal is an active administrator. -/
def requireAdmin (actor : Principal) : Service Unit :=
  if actor.active && actor.isAdmin then pure () else Service.refuse (notAdmin actor)

/-! ### Principals -/

def userNotFound (u : UserId) : AppError := ⟨.notFound, "user " ++ u.write ++ " not found"⟩

/-- The principal with an identifier, which must exist. -/
def requirePrincipal (u : UserId) : Service Principal := do
  let p ← Service.request (.findPrincipal u)
  Service.orRefuse (userNotFound u) p

/-- The name of a user for people. -/
def nameOf (u : UserId) : Service String := do
  let p ← Service.request (.findPrincipal u)
  pure ((p : Option Principal).elim u.unknownName Principal.displayName)

end TableAccess
