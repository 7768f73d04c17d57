/-
**Bodies of requests.**

The body of a guarded request is JSON.  The gate reads it as a value, to find the token and to show
the request in the audit log; the operation behind the gate reads the same bytes as a record.  A
blank body stands for a record without fields in both readings.

Main definitions:

* `Http.Payload.value` — the body as a value;
* `Http.IssueBody`, `Http.RotateBody`, `Http.CreateGrantBody`, `Http.UpdateGrantBody` — the records;
* `Http.Payload.record` — the body as a record.
-/
import TableAccess.Http.Message
import TableAccess.Json.Layout

set_option relaxedAutoImplicit false
set_option autoImplicit false

namespace TableAccess

namespace Http

open Json (Reader Layout)
open Utf8 (Piece)

namespace Payload

/-! ### Blank bodies -/

/-- Whether a byte is a blank of ASCII. -/
def isBlankByte (b : UInt8) : Bool := b = 0x20 || b = 0x09 || b = 0x0a || b = 0x0c || b = 0x0d

/-- Whether a body is blank. -/
def isBlank (body : List UInt8) : Bool := body.all isBlankByte

/-- The largest body that the gate reads. -/
def maxGuarded : Nat := 1024 * 1024

/-! ### The body as a value -/

/-- The body as a value. -/
def value (body : List UInt8) : Outcome Json :=
  if isBlank body then .ok (.obj [])
  else
    match Json.parse (Utf8.pieces body) with
    | .ok v => .ok v
    | .error f => .error ⟨.validation, "request body must be JSON: " ++ f.message⟩

/-! ### The body as a record -/

/-- The record without fields. -/
def emptyRecord : List Piece := [.char '\x7b', .char '\x7d']

/-- The body as a record, which has a name in the refusal. -/
def record {α : Type} (r : Reader α) (label : String) (body : List UInt8) : Outcome α :=
  match r.run (if isBlank body then emptyRecord else Utf8.pieces body) with
  | .ok a => .ok a
  | .error f => .error ⟨.validation, "invalid " ++ label ++ " payload: " ++ f.message⟩

end Payload

/-! ### Issuing a key -/

/-- What an administrator sends to issue a key. -/
structure IssueBody where
  userId : Int
  newAccessKey : Option String
deriving DecidableEq, Repr

namespace IssueBody

inductive Field where
  | userId
  | newAccessKey
deriving DecidableEq

def layout : Layout Field where
  title := "struct IssueAccessKeyRequest"
  order := [.userId, .newAccessKey]
  name
    | .userId => "user_id"
    | .newAccessKey => "new_access_key"
  Value
    | .userId => Int
    | .newAccessKey => Option String
  read
    | .userId => Json.integer
    | .newAccessKey => Json.nullable Json.string
  absent
    | .userId => .required
    | .newAccessKey => .omittable none

def reader : Reader IssueBody :=
  layout.record fun get => do
    let userId ← get .userId
    let newAccessKey ← get .newAccessKey
    pure ⟨userId, newAccessKey⟩

def read (body : List UInt8) : Outcome IssueBody := Payload.record reader "access key issue" body

end IssueBody

/-! ### Rotating a key -/

/-- What an administrator sends to rotate a key. -/
structure RotateBody where
  newAccessKey : Option String
deriving DecidableEq, Repr

namespace RotateBody

inductive Field where
  | newAccessKey
deriving DecidableEq

def layout : Layout Field where
  title := "struct RotateAccessKeyRequest"
  order := [.newAccessKey]
  name
    | .newAccessKey => "new_access_key"
  Value
    | .newAccessKey => Option String
  read
    | .newAccessKey => Json.nullable Json.string
  absent
    | .newAccessKey => .defaulted none

def reader : Reader RotateBody :=
  layout.record fun get => do
    let newAccessKey ← get .newAccessKey
    pure ⟨newAccessKey⟩

def read (body : List UInt8) : Outcome RotateBody :=
  Payload.record reader "access key rotation" body

end RotateBody

/-! ### Creating a grant -/

/-- What an administrator sends to create a grant; the dates are still texts. -/
structure CreateGrantBody where
  userId : Int
  capabilityIds : List Int
  applyDate : Option String
  expireDate : Option String
deriving DecidableEq, Repr

namespace CreateGrantBody

inductive Field where
  | userId
  | capabilityIds
  | applyDate
  | expireDate
deriving DecidableEq

def layout : Layout Field where
  title := "struct CreatePermissionGrantRequest"
  order := [.userId, .capabilityIds, .applyDate, .expireDate]
  name
    | .userId => "user_id"
    | .capabilityIds => "capability_ids"
    | .applyDate => "apply_date"
    | .expireDate => "expire_date"
  Value
    | .userId => Int
    | .capabilityIds => List Int
    | .applyDate => Option String
    | .expireDate => Option String
  read
    | .userId => Json.integer
    | .capabilityIds => Json.list Json.integer
    | .applyDate => Json.nullable Json.string
    | .expireDate => Json.nullable Json.string
  absent
    | .userId => .required
    | .capabilityIds => .required
    | .applyDate => .omittable none
    | .expireDate => .omittable none

def reader : Reader CreateGrantBody :=
  layout.record fun get => do
    let userId ← get .userId
    let capabilityIds ← get .capabilityIds
    let applyDate ← get .applyDate
    let expireDate ← get .expireDate
    pure ⟨userId, capabilityIds, applyDate, expireDate⟩

def read (body : List UInt8) : Outcome CreateGrantBody :=
  Payload.record reader "permission grant" body

end CreateGrantBody

/-! ### Updating a grant -/

/-- What an administrator sends to update a grant. -/
structure UpdateGrantBody where
  forceRevoke : Bool
deriving DecidableEq, Repr

namespace UpdateGrantBody

inductive Field where
  | forceRevoke
deriving DecidableEq

def layout : Layout Field where
  title := "struct UpdatePermissionGrantRequest"
  order := [.forceRevoke]
  name
    | .forceRevoke => "force_revoke"
  Value
    | .forceRevoke => Bool
  read
    | .forceRevoke => Json.boolean
  absent
    | .forceRevoke => .defaulted false

def reader : Reader UpdateGrantBody :=
  layout.record fun get => do
    let forceRevoke ← get .forceRevoke
    pure ⟨forceRevoke⟩

def read (body : List UInt8) : Outcome UpdateGrantBody :=
  Payload.record reader "permission grant update" body

end UpdateGrantBody

end Http

end TableAccess
