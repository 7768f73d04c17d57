/-
**Grants.**

A grant gives a principal some capabilities until a date.  It starts active.  After its expiry date
it counts as expired, whether or not that has been recorded; an administrator may also revoke it at
once.  Neither state is ever left.

Main definitions:

* `Grant.Draft`, `Grant.Draft.make` — a new grant before it is stored, and the check of its parts;
* `Grant`, `Grant.status` — a stored grant, and its state on a date;
* `Grant.forceRevoke`, `Grant.markExpired` — the two ways out of the active state.
-/
import TableAccess.AppError
import TableAccess.Calendar.InstantText
import TableAccess.Capability
import TableAccess.Collection.Ascending

set_option relaxedAutoImplicit false
set_option autoImplicit false

namespace TableAccess

/-- The number of days a grant lasts unless something else is set: half a year, rounded up. -/
def defaultLifetimeDays : Nat := 183

/-! ### States -/

inductive GrantStatus where
  | active
  | forceRevoked
  | expired
deriving DecidableEq, Repr, Inhabited

/-- The state as administrators see it. -/
def GrantStatus.label : GrantStatus → String
  | .active => "Active"
  | .forceRevoked => "Force Revoked"
  | .expired => "Expired"

@[ext] structure Grant where
  id : GrantId
  userId : UserId
  applyDate : Date
  expireDate : Date
  forceTerminateAt : Option Instant
  isActive : Bool
  capabilities : List Capability
deriving DecidableEq, Inhabited

namespace Grant

/-! ### Drafts -/

/-- A new grant before it is stored. -/
@[ext] structure Draft where
  userId : UserId
  applyDate : Date
  expireDate : Date
  capabilityIds : Ascending CapabilityId
deriving DecidableEq

inductive Draft.Refusal where
  | noCapability
  | beyondCalendar (lifetimeDays : Nat)
  | expiresBeforeStart (expireDate applyDate : Date)
deriving DecidableEq

def Draft.Refusal.error : Draft.Refusal → AppError
  | .noCapability => ⟨.validation, "a permission grant requires at least one capability"⟩
  | .beyondCalendar n =>
      ⟨.validation, "grant lifetime of " ++ Numeral.write n ++ " days overflows the calendar"⟩
  | .expiresBeforeStart e a =>
      ⟨.validation, "expire_date " ++ e.write ++ " must not precede apply_date " ++ a.write⟩

/-- The expiry date of a draft: the one asked for, or the end of the lifetime. -/
def Draft.expiry (applyDate : Date) (expireDate : Option Date) (lifetimeDays : Nat) :
    Except Draft.Refusal Date :=
  match expireDate with
  | some e => .ok e
  | none =>
      match applyDate.addDays? lifetimeDays with
      | some e => .ok e
      | none => .error (.beyondCalendar lifetimeDays)

/-- A draft of the given parts.  The first of these that fails decides: there is a capability, the
calendar reaches to the expiry date, and that date is not before the first day. -/
def Draft.make (userId : UserId) (applyDate : Date) (expireDate : Option Date)
    (capabilityIds : List CapabilityId) (lifetimeDays : Nat) : Except Draft.Refusal Draft :=
  if capabilityIds.isEmpty then .error .noCapability
  else
    match Draft.expiry applyDate expireDate lifetimeDays with
    | .error r => .error r
    | .ok e =>
        if e < applyDate then .error (.expiresBeforeStart e applyDate)
        else .ok ⟨userId, applyDate, e, .ofList capabilityIds⟩

/-! ### The state of a grant -/

def status (g : Grant) (today : Date) : GrantStatus :=
  if g.forceTerminateAt.isSome then .forceRevoked
  else if g.isActive && today ≤ g.expireDate then .active
  else .expired

/-- The expiry date, or the moment of the revocation marked as such. -/
def expireOrTerminateText (g : Grant) : String :=
  match g.forceTerminateAt with
  | some t => t.writeSeconds ++ " (forced)"
  | none => g.expireDate.format DateText.isoPattern

def capabilitySummary (g : Grant) : String := ", ".intercalate (g.capabilities.map Capability.label)

/-! ### Changing the state -/

/-- A grant that is not active cannot be changed. -/
def notMutable : AppError :=
  ⟨.invalidStateTransition, "modification on expired/force terminated permission is not allowed"⟩

/-- A grant that is recorded as active cannot be deleted. -/
def notDeletable : AppError :=
  ⟨.deleteOfActiveGrant, "delete active permission is prohibited; revoke before delete"⟩

def ensureMutable (g : Grant) (now : Instant) : Outcome Unit :=
  if g.status now.date = .active then .ok () else .error notMutable

def forceRevoke (g : Grant) (now : Instant) : Outcome Grant :=
  match g.ensureMutable now with
  | .error e => .error e
  | .ok () => .ok { g with isActive := false, forceTerminateAt := some now }

/-- Whether the expiry of a grant has still to be recorded. -/
def isLapsed (g : Grant) (today : Date) : Bool :=
  g.isActive && g.forceTerminateAt.isNone && g.expireDate < today

/-- Records the expiry of a grant, if it has still to be recorded. -/
def markExpired (g : Grant) (today : Date) : Grant :=
  if g.isLapsed today then { g with isActive := false } else g

/-- Fails while the grant is recorded as active. -/
def ensureDeletable (g : Grant) : Outcome Unit :=
  if g.isActive then .error notDeletable else .ok ()

end Grant

end TableAccess
