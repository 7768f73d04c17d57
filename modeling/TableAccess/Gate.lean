/-
**The gate.**

A request is let through when its token belongs to an active principal, and, where administration
is asked for, to one with the administrative role.  The token is looked up once.  A request that is
turned away carries what the audit log has to show; the gate itself writes nothing there.

Main definitions:

* `GateRequest` — the token and the request it came with;
* `GateRejection`, `GateError` — why a request is turned away;
* `Gate.authenticate` — the check.
-/
import TableAccess.Service

set_option relaxedAutoImplicit false
set_option autoImplicit false

namespace TableAccess

/-- What is presented to the gate. -/
structure GateRequest where
  accessKey : Option String
  /-- The request as the audit log shows it. -/
  payload : Json
deriving Inhabited

/-- The request with the token that its payload names. -/
def GateRequest.ofPayload (payload : Json) : GateRequest :=
  ⟨(payload.get? "access_key").bind Json.text?, payload⟩

/-- The kinds of rejections: nobody has the token that is presented, its owner may not
authenticate, or is no administrator. -/
inductive GateRejection.Kind where
  | invalidCredential
  | inactivePrincipal
  | permissionDenied
deriving DecidableEq, Repr, Inhabited

/-- A request that is turned away. -/
structure GateRejection where
  kind : GateRejection.Kind
  message : String
  offendingRequest : Json
  userId : Option UserId
deriving Inhabited

/-- What the audit log shows of a rejection. -/
def GateRejection.auditPayload (r : GateRejection) : Json :=
  Json.ofFields [("error_message", .str r.message), ("offending_request", r.offendingRequest)]

/-- Why a request does not pass: it is rejected, or the store could not be asked. -/
inductive GateError where
  | rejected (rejection : GateRejection)
  | store (error : AppError)
deriving Inhabited

def GateError.message : GateError → String
  | .rejected r => r.message
  | .store e => e.message

/-- A failure at the gate as an error of the application. -/
def GateError.toAppError : GateError → AppError
  | .rejected r =>
      match r.kind with
      | .invalidCredential => ⟨.unauthorized, r.message⟩
      | .inactivePrincipal => ⟨.unauthorized, r.message⟩
      | .permissionDenied => ⟨.forbidden, r.message⟩
  | .store e => e

namespace Gate

/-! ### Rejections -/

def noToken (request : Json) : GateRejection :=
  ⟨.invalidCredential, "Invalid access_key: None", request, none⟩

def unknownToken (request : Json) (token : String) : GateRejection :=
  ⟨.invalidCredential, "Invalid access_key: " ++ token, request, none⟩

def inactiveOwner (request : Json) (owner : UserId) (p : Principal) : GateRejection :=
  ⟨.inactivePrincipal, "Invalid user: " ++ p.describe ++ " is inactive", request, some owner⟩

def missingOwner (request : Json) (owner : UserId) : GateRejection :=
  ⟨.inactivePrincipal, "Invalid user: id " ++ owner.write ++ " does not exist", request, some owner⟩

def notAdministrator (request : Json) (owner : UserId) (p : Principal) : GateRejection :=
  ⟨.permissionDenied, "Permission denied: " ++ p.describe ++ " is not Admin", request, some owner⟩

/-! ### The check -/

def judgeKey (request : Json) (administration : Bool) (k : KeyedPrincipal) :
    Except GateRejection Principal :=
  match k.principal with
  | none => .error (missingOwner request k.record.userId)
  | some p =>
      if !p.active then .error (inactiveOwner request k.record.userId p)
      else if administration && !p.isAdmin then
        .error (notAdministrator request k.record.userId p)
      else .ok p

def judge (request : Json) (administration : Bool) (token : String) :
    Outcome (Option KeyedPrincipal) → Except GateError Principal
  | .error e => .error (.store e)
  | .ok none => .error (.rejected (unknownToken request token))
  | .ok (some k) => (judgeKey request administration k).mapError .rejected

/-- The principal behind a request, if the request passes. -/
def authenticate (r : GateRequest) (administration : Bool) : Calls (Except GateError Principal) :=
  match r.accessKey.filter (fun t => !t.isEmpty) with
  | none => pure (.error (.rejected (noToken r.payload)))
  | some token => do
      let answer ← Dialogue.query (Call.store (.resolveKey token))
      pure (judge r.payload administration token answer)

end Gate

end TableAccess
