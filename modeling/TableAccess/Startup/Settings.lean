/-
**Settings.**

Everything that can be set is read from the environment once, at the start.  Some values replace
one that cannot be used by a usual one; the others must be usable, or the program does not start.

Main definitions:

* `LogFormat`, `Settings` — what can be set;
* `Settings.load` — the settings of an environment;
* `Settings.socketAddress` — where requests will be served.
-/
import TableAccess.AppError
import TableAccess.Grant
import TableAccess.Network.IpAddress
import TableAccess.Startup.Environment

set_option relaxedAutoImplicit false
set_option autoImplicit false

namespace TableAccess

inductive LogFormat where
  | compact
  | json
deriving DecidableEq, Repr

/-- What can be set. -/
structure Settings where
  /-- Whether the program only brings the database up to date. -/
  migrateOnly : Bool
  databaseUrl : String
  maxConnections : Nat
  /-- The web site whose pages may use the answers. -/
  frontendUrl : String
  host : String
  port : UInt16
  /-- The domain of mail addresses that are made up. -/
  fallbackDomain : String
  /-- The days that a grant lasts unless its end is given. -/
  lifetimeDays : Nat
  logFormat : LogFormat
deriving DecidableEq, Repr

namespace Settings

/-! ### Single values -/

def required (e : Environment) (name : String) : Outcome String :=
  match e.get? name with
  | some v => .ok v
  | none => .error ⟨.validation, name ++ " is required"⟩

/-- The number of connections: at least one, ten unless a usable number is given. -/
def readMaxConnections (value : Option String) : Nat :=
  match value.map (Numeral.read Numeral.natural32) with
  | some (.ok n) => if 0 < n then n.toNat else 10
  | _ => 10

/-- The port: 3001 unless a usable number is given. -/
def readPort (value : Option String) : UInt16 :=
  match value.map (Numeral.read Numeral.natural16) with
  | some (.ok n) => UInt16.ofNat n.toNat
  | _ => 3001

/-- The domain of made-up addresses, which is not blank. -/
def readFallbackDomain (value : Option String) : String :=
  match value.map Text.trim with
  | some v => if v.isEmpty then "example.com" else v
  | none => "example.com"

/-- The days that a grant lasts: a number that must be positive, or the usual one. -/
def readLifetimeDays : Option String → Outcome Nat
  | none => .ok defaultLifetimeDays
  | some v =>
      match Numeral.read Numeral.natural64 (Text.trim v) with
      | .error f => .error ⟨.validation, "invalid DEFAULT_GRANT_LIFETIME_DAYS: " ++ f.message⟩
      | .ok n =>
          if n = 0 then .error ⟨.validation, "DEFAULT_GRANT_LIFETIME_DAYS must be at least 1"⟩
          else .ok n.toNat

/-- The form of log lines, whatever its case. -/
def readLogFormat (value : Option String) : Outcome LogFormat :=
  let v := String.ofList (Text.lowerAscii (Text.trim (value.getD "")).toList)
  if v = "" ∨ v = "compact" then .ok .compact
  else if v = "json" then .ok .json
  else .error ⟨.validation, "LOG_FORMAT must be either 'compact' or 'json', got '" ++ v ++ "'"⟩

/-! ### All values -/

/-- The settings of a program that was called with some arguments in an environment. -/
def load (arguments : List String) (e : Environment) : Outcome Settings := do
  let databaseUrl ← required e "DATABASE_URL"
  let lifetimeDays ← readLifetimeDays (e.get? "DEFAULT_GRANT_LIFETIME_DAYS")
  let logFormat ← readLogFormat (e.get? "LOG_FORMAT")
  pure
    { migrateOnly := arguments.head? = some "migrate"
      databaseUrl
      maxConnections := readMaxConnections (e.get? "DATABASE_MAX_CONNECTIONS")
      frontendUrl := (e.get? "FRONTEND_URL").getD "http://localhost:3000"
      host := (e.get? "API_HOST").getD "127.0.0.1"
      port := readPort (e.get? "API_PORT")
      fallbackDomain := readFallbackDomain (e.get? "SSO_FALLBACK_EMAIL_DOMAIN")
      lifetimeDays
      logFormat }

/-- Where requests will be served. -/
def socketAddress (s : Settings) : Outcome SocketAddress :=
  match IpAddress.read? s.host with
  | some address => .ok ⟨address, s.port⟩
  | none => .error ⟨.internal, "invalid API_HOST '" ++ s.host ++ "': invalid IP address syntax"⟩

end Settings

end TableAccess
