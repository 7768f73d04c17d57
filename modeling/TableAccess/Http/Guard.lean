/-
**The gate over HTTP.**

A guarded request carries its token in the field `access_key` of its JSON body or, if that has none,
after the word `Bearer` in the header field `authorization`.  A request that the gate turns away
leaves an event in the audit log; a request that cannot be read, or a store that cannot be asked,
leaves none.

Main definitions:

* `Http.Guard.bearerToken?`, `Http.Guard.gateRequest` — what is presented to the gate;
* `Http.Guard.check` — the principal behind a request, or the response that refuses it.
-/
import TableAccess.Gate
import TableAccess.Http.Payload
import TableAccess.Http.Route
import TableAccess.Journal

set_option relaxedAutoImplicit false
set_option autoImplicit false

namespace TableAccess

namespace Http

namespace Guard

/-- The token in the header field `authorization`. -/
def bearerToken? (m : Message) : Option String :=
  (((m.header? "authorization").bind fun v =>
    Text.dropPrefix? "Bearer ".toList v.toList).map fun cs =>
      String.ofList (Text.trimChars cs)).filter fun s => !s.isEmpty

def bodyTooLarge : AppError :=
  ⟨.validation, "failed to read request body: length limit exceeded"⟩

def gateRequest (m : Message) : Outcome GateRequest :=
  if Payload.maxGuarded < m.body.length then .error bodyTooLarge
  else
    match Payload.value m.body with
    | .error e => .error e
    | .ok v =>
        let r := GateRequest.ofPayload v
        .ok { r with accessKey := r.accessKey.or (bearerToken? m) }

def rejectionEvent (r : GateRejection) : AuditEvent :=
  { action := .accessKeyRejected
    actorId := r.userId
    durationMs := 0
    payload := r.auditPayload
    error := some r.message }

/-- The response to a failure at the gate.  A rejection is recorded; whether that succeeds does not
change the response. -/
def refuse (e : GateError) : Calls Response := do
  match e with
  | .rejected r => do
      let _ ← (Journal.append (rejectionEvent r)).run
      pure (.ofError e.toAppError)
  | .store _ => pure (.ofError e.toAppError)

/-- The principal behind a request, or the response that refuses it. -/
def check (administration : Bool) (m : Message) : Calls (Except Response Principal) := do
  match gateRequest m with
  | .error e => pure (.error (.ofError e))
  | .ok r => do
      let verdict ← Gate.authenticate r administration
      match verdict with
      | .ok p => pure (.ok p)
      | .error e => do
          let response ← refuse e
          pure (.error response)

end Guard

end Http

end TableAccess
