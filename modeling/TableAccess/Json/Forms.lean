/-
**JSON forms of the domain.**

Each value of the domain has one written form, a record with its fields in a fixed order, and is
read back by the reader of the same fields.

Main definitions:

* `Id.toJson`, `Capability.toJson`, `Grant.toJson`, `Principal.toJson`, … — the written forms;
* `Id.reader`, `Capability.reader`, `Grant.reader`, `Principal.reader`, … — the readers.
-/
import TableAccess.AccessKey
import TableAccess.Audit
import TableAccess.Grant
import TableAccess.Json.Layout
import TableAccess.Principal

set_option relaxedAutoImplicit false
set_option autoImplicit false

namespace TableAccess

open Json (Reader Layout Problem)

/-! ### Identifiers, keys and names -/

def Id.toJson {kind : Id.Kind} (i : Id kind) : Json := .int i.value

def Id.reader {kind : Id.Kind} : Reader (Id kind) := do
  let n ← Json.integer
  pure ⟨n⟩

def AccessKey.toJson (k : AccessKey) : Json := .str k.token

/-- Reads a key; its token is not checked. -/
def AccessKey.reader : Reader AccessKey := do
  let s ← Json.string
  pure ⟨s⟩

def GrantStatus.named : List (String × GrantStatus) :=
  [("Active", .active), ("ForceRevoked", .forceRevoked), ("Expired", .expired)]

def GrantStatus.name : GrantStatus → String
  | .active => "Active"
  | .forceRevoked => "ForceRevoked"
  | .expired => "Expired"

def GrantStatus.toJson (s : GrantStatus) : Json := .str s.name

def GrantStatus.reader : Reader GrantStatus := Json.variant GrantStatus.named

def AuditAction.toJson (a : AuditAction) : Json := .str a.name

def AuditAction.reader : Reader AuditAction := Json.variant AuditAction.named

/-- The action that a JSON value names.  The value is at hand, so a fault has no place. -/
def AuditAction.ofJson? (v : Json) : Except Problem AuditAction :=
  let named (s : String) : Except Problem AuditAction :=
    match Json.named? AuditAction.named s with
    | some a => .ok a
    | none => .error (.unknownVariant s (AuditAction.named.map Prod.fst))
  match v with
  | .str s => named s
  | .obj [(s, w)] => do
      let a ← named s
      match w with
      | .null => pure a
      | w => throw (.invalidType (Json.foundScalar w) "unit")
  | .obj _ => .error (.invalidValue "map" "map with a single key")
  | w => .error (.invalidType (Json.foundScalar w) "string or map")

/-! ### Dates -/

def Date.toJson (d : Date) : Json := .str d.write

def Date.reader : Reader Date :=
  Json.parsed "a formatted date string" fun s => (Date.readLoose s).mapError DateText.Fault.message

/-- An instant is written as its text with the zone `Z`. -/
def Instant.toJson (t : Instant) : Json := .str t.writeZulu

def Instant.reader : Reader Instant :=
  Json.parsed "an RFC 3339 formatted date and time string" fun s =>
    (Instant.read s).mapError DateText.Fault.message

/-! ### Capabilities -/

inductive Capability.Field where
  | id
  | permissionName
  | resourceName
deriving DecidableEq

def Capability.layout : Layout Capability.Field where
  title := "struct Capability"
  order := [.id, .permissionName, .resourceName]
  name
    | .id => "id"
    | .permissionName => "permission_name"
    | .resourceName => "resource_name"
  Value
    | .id => CapabilityId
    | .permissionName => String
    | .resourceName => String
  read
    | .id => Id.reader
    | .permissionName => Json.string
    | .resourceName => Json.string
  absent
    | .id => .required
    | .permissionName => .required
    | .resourceName => .required

def Capability.toJson (c : Capability) : Json :=
  .obj [("id", c.id.toJson), ("permission_name", .str c.permissionName),
    ("resource_name", .str c.resourceName)]

def Capability.reader : Reader Capability :=
  Capability.layout.record fun get => do
    let id ← get .id
    let permissionName ← get .permissionName
    let resourceName ← get .resourceName
    pure ⟨id, permissionName, resourceName⟩

/-! ### Grants -/

inductive Grant.Field where
  | id
  | userId
  | applyDate
  | expireDate
  | forceTerminateAt
  | isActive
  | capabilities
deriving DecidableEq

def Grant.layout : Layout Grant.Field where
  title := "struct PermissionGrant"
  order := [.id, .userId, .applyDate, .expireDate, .forceTerminateAt, .isActive, .capabilities]
  name
    | .id => "id"
    | .userId => "user_id"
    | .applyDate => "apply_date"
    | .expireDate => "expire_date"
    | .forceTerminateAt => "force_terminate_at"
    | .isActive => "is_active"
    | .capabilities => "capabilities"
  Value
    | .id => GrantId
    | .userId => UserId
    | .applyDate => Date
    | .expireDate => Date
    | .forceTerminateAt => Option Instant
    | .isActive => Bool
    | .capabilities => List Capability
  read
    | .id => Id.reader
    | .userId => Id.reader
    | .applyDate => Date.reader
    | .expireDate => Date.reader
    | .forceTerminateAt => Json.nullable Instant.reader
    | .isActive => Json.boolean
    | .capabilities => Json.list Capability.reader
  absent
    | .id => .required
    | .userId => .required
    | .applyDate => .required
    | .expireDate => .required
    | .forceTerminateAt => .omittable none
    | .isActive => .required
    | .capabilities => .required

def Grant.toJson (g : Grant) : Json :=
  .obj [("id", g.id.toJson), ("user_id", g.userId.toJson), ("apply_date", g.applyDate.toJson),
    ("expire_date", g.expireDate.toJson),
    ("force_terminate_at", Json.ofOption Instant.toJson g.forceTerminateAt),
    ("is_active", .bool g.isActive), ("capabilities", .arr (g.capabilities.map Capability.toJson))]

def Grant.reader : Reader Grant :=
  Grant.layout.record fun get => do
    let id ← get .id
    let userId ← get .userId
    let applyDate ← get .applyDate
    let expireDate ← get .expireDate
    let forceTerminateAt ← get .forceTerminateAt
    let isActive ← get .isActive
    let capabilities ← get .capabilities
    pure ⟨id, userId, applyDate, expireDate, forceTerminateAt, isActive, capabilities⟩

/-! ### Principals -/

inductive Principal.Field where
  | id
  | username
  | firstName
  | lastName
  | email
  | active
  | roles
deriving DecidableEq

def Principal.layout : Layout Principal.Field where
  title := "struct Principal"
  order := [.id, .username, .firstName, .lastName, .email, .active, .roles]
  name
    | .id => "id"
    | .username => "username"
    | .firstName => "first_name"
    | .lastName => "last_name"
    | .email => "email"
    | .active => "active"
    | .roles => "roles"
  Value
    | .id => UserId
    | .username => String
    | .firstName => String
    | .lastName => String
    | .email => Option String
    | .active => Bool
    | .roles => List String
  read
    | .id => Id.reader
    | .username => Json.string
    | .firstName => Json.string
    | .lastName => Json.string
    | .email => Json.nullable Json.string
    | .active => Json.boolean
    | .roles => Json.list Json.string
  absent
    | .id => .required
    | .username => .required
    | .firstName => .required
    | .lastName => .required
    | .email => .omittable none
    | .active => .required
    | .roles => .required

def Principal.toJson (p : Principal) : Json :=
  .obj [("id", p.id.toJson), ("username", .str p.username), ("first_name", .str p.firstName),
    ("last_name", .str p.lastName), ("email", Json.ofText? p.email), ("active", .bool p.active),
    ("roles", .arr (p.roles.toList.map Json.str))]

def Principal.reader : Reader Principal :=
  Principal.layout.record fun get => do
    let id ← get .id
    let username ← get .username
    let firstName ← get .firstName
    let lastName ← get .lastName
    let email ← get .email
    let active ← get .active
    let roles ← get .roles
    pure ⟨id, username, firstName, lastName, email, active, .ofList roles⟩

end TableAccess
