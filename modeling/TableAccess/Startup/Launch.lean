/-
**The start of the program.**

The program completes its environment by a file, reads its settings, brings the database up to date
and then either ends or begins to serve.  Each step can fail, and the first failure ends the start.

Main definitions:

* `Machine` — the machine on which the program is started;
* `Start` — what it is started with;
* `launch` — what is logged, which scripts are applied, and the outcome;
* `Report.diagnostic`, `Report.exitCode` — what is left when the program ends.
-/
import TableAccess.Database.Server
import TableAccess.Http.Router
import TableAccess.Logging.Filter
import TableAccess.Startup.EnvFile
import TableAccess.Startup.Settings

set_option relaxedAutoImplicit false
set_option autoImplicit false

namespace TableAccess

/-! ### Surroundings -/

/-- The machine on which the program is started. -/
structure Machine where
  server : Database.Server
  /-- Takes an address for serving; the reason when it cannot be taken. -/
  bind : SocketAddress → Except String Unit

/-- What the program is started with. -/
structure Start where
  arguments : List String
  environment : Environment
  /-- The text of the file that completes the environment, if there is one. -/
  envFile : Option String

def Start.completed (s : Start) : Environment :=
  match s.envFile with
  | some text => EnvFile.load s.environment text
  | none => s.environment

/-! ### Log lines -/

namespace LogLine

/-- A setting of the address of the database has no name that is known. -/
def ignored (name value : String) : Logging.Line :=
  { level := .warn
    target := "sqlx_postgres::options::parse"
    message := "ignoring unrecognized connect parameter"
    fields := [("key", .text name), ("value", .text value)] }

/-- The schema is up to date. -/
def upToDate (s : Settings) : Logging.Line :=
  { level := .debug
    target := "tablegate_api::api_services::database"
    message := "tablegate schema is up to date"
    fields := [("max_connections", .number s.maxConnections)] }

/-- Nothing else was asked for. -/
def migrated : Logging.Line :=
  { level := .info
    target := "tablegate_api"
    message := "database migrations applied successfully"
    fields := [] }

/-- Requests are served. -/
def listening (s : Settings) (a : SocketAddress) : Logging.Line :=
  { level := .info
    target := "tablegate_api"
    message := "tablegate-api listening"
    fields := [("address", .text a.write), ("grant_lifetime_days", .number s.lifetimeDays)] }

end LogLine

/-! ### Starting -/

/-- What a start came to. -/
structure Report where
  lines : List Logging.Line
  format : LogFormat
  /-- The scripts that were applied, in order. -/
  applied : List Schema.Migration
  outcome : Outcome Unit

def bindError (reason : String) : AppError := ⟨.internal, "failed to bind listener: " ++ reason⟩

/-- Takes the address and begins to serve; the line that says so. -/
def beginServing (m : Machine) (s : Settings) : Outcome Logging.Line := do
  let _ ← Http.Router.make ⟨s.lifetimeDays, s.fallbackDomain⟩ s.frontendUrl
  let address ← s.socketAddress
  (m.bind address).mapError bindError
  pure (LogLine.listening s address)

/-- What the program does once its database is up to date; the lines and the outcome. -/
def proceed (m : Machine) (s : Settings) : List Logging.Line × Outcome Unit :=
  if s.migrateOnly then ([LogLine.upToDate s, LogLine.migrated], .ok ())
  else
    match beginServing m s with
    | .ok line => ([LogLine.upToDate s, line], .ok ())
    | .error e => ([LogLine.upToDate s], .error e)

/-- The lines about the address of the database. -/
def addressLines (prepared : Database.Server.Preparation) : List Logging.Line :=
  prepared.ignored.map fun p => LogLine.ignored p.1 p.2

def run (m : Machine) (filter : Logging.Filter) (s : Settings) : Report :=
  let prepared := m.server.prepare s.databaseUrl
  let (lines, outcome) :=
    match prepared.outcome with
    | .error e => ([], .error e)
    | .ok () => proceed m s
  { lines := (addressLines prepared ++ lines).filter filter.admits
    format := s.logFormat
    applied := prepared.applied
    outcome }

def launch (m : Machine) (start : Start) : Report :=
  let e := start.completed
  match Settings.load start.arguments e with
  | .error err => ⟨[], .compact, [], .error err⟩
  | .ok s => run m (Logging.Filter.ofSetting (e.get? "RUST_LOG")) s

/-! ### The end -/

namespace Report

/-- What is written about a failure. -/
def diagnostic (r : Report) : String :=
  match r.outcome with
  | .ok () => ""
  | .error e => "Error: " ++ e.kind.name ++ "(" ++ Quoted.quote e.detail ++ ")\n"

def exitCode (r : Report) : Nat :=
  match r.outcome with
  | .ok () => 0
  | .error _ => 1

/-- A line in the form that was set. -/
def write (r : Report) (l : Logging.Line) : String :=
  match r.format with
  | .compact => l.compact
  | .json => l.toJson.render

end Report

end TableAccess
