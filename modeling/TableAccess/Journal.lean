/-
**The journal.**

An audited operation leaves exactly one event, whether it succeeds or fails.  Adding the event may
fail too; that never changes the answer of the operation.

Main definitions:

* `Journal.Extra` — what a successful operation adds to its event;
* `Journal.payload` — the payload of an event;
* `Journal.append` — adds an event;
* `Journal.audited` — an operation together with its event.
-/
import TableAccess.Service

set_option relaxedAutoImplicit false
set_option autoImplicit false

namespace TableAccess

namespace Journal

/-- What a successful operation adds to its event. -/
structure Extra where
  /-- What was done, in words. -/
  logMsg : Option String
  /-- A problem that did not stop the operation. -/
  errMsg : Option String
  /-- Who did it, when only the operation itself finds out. -/
  userId : Option UserId
deriving DecidableEq, Repr, Inhabited

def Extra.message (s : String) : Extra := ⟨some s, none, none⟩

/-- The request, what was done, and the problem met, as far as they are known. -/
def payload (records : Json) (logMsg errMsg : Option String) : Json :=
  Json.ofFields ([("records", records)] ++ (logMsg.map fun s => ("log_msg", Json.str s)).toList
    ++ (errMsg.map fun s => ("err_msg", Json.str s)).toList)

def append (e : AuditEvent) : Service Unit := Service.request (.appendEvent e)

def event {α : Type} (action : AuditAction) (actor : Option UserId) (records : Json)
    (durationMs : Nat) : Outcome (α × Extra) → AuditEvent
  | .ok (_, extra) =>
      { action
        actorId := actor.or extra.userId
        durationMs
        payload := payload records extra.logMsg extra.errMsg
        error := none }
  | .error e =>
      { action
        actorId := actor
        durationMs
        payload := payload records none none
        error := some e.message }

/-- Runs an operation and adds its event.  The answer is the operation's own. -/
def audited {α : Type} (action : AuditAction) (actor : Option UserId) (records : Json)
    (operation : Service (α × Extra)) : Service α := ExceptT.mk do
  let outcome ← operation.run
  let durationMs ← Dialogue.query Call.elapsed
  let _ ← (append (event action actor records durationMs outcome)).run
  pure (outcome.map Prod.fst)

end Journal

end TableAccess
