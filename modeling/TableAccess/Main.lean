/-
**The program.**

The program is started with the arguments, the environment and the file `.env` that it finds.  It
has no way to a database server of its own, so every start ends at the latest where one is needed.

Main definitions:

* `main` — writes the log lines and the diagnostic of a start, and gives its exit code.
-/
import TableAccess.Startup.Launch

set_option relaxedAutoImplicit false
set_option autoImplicit false

namespace TableAccess

namespace Main

/-- The names that the program looks for in its environment. -/
def names : List String :=
  ["DATABASE_URL", "DATABASE_MAX_CONNECTIONS", "FRONTEND_URL", "API_HOST", "API_PORT",
    "SSO_FALLBACK_EMAIL_DOMAIN", "DEFAULT_GRANT_LIFETIME_DAYS", "LOG_FORMAT", "RUST_LOG"]

/-- A machine without a database server. -/
def machine : Machine where
  server :=
    { socket := ""
      refusal := none
      history := []
      execute := fun _ => .ok () }
  bind := fun _ => .ok ()

def environment : IO Environment := do
  let values ← names.mapM fun name => do
    let value ← IO.getEnv name
    pure (value.map fun v => (name, v))
  pure (values.filterMap id)

/-- The text of the file that completes the environment, if it can be read. -/
def envFile : IO (Option String) := do
  try
    let text ← IO.FS.readFile ".env"
    pure (some text)
  catch _ => pure none

end Main

end TableAccess

def main (arguments : List String) : IO UInt32 := do
  let environment ← TableAccess.Main.environment
  let envFile ← TableAccess.Main.envFile
  let report := TableAccess.launch TableAccess.Main.machine { arguments, environment, envFile }
  for line in report.lines do
    IO.println (report.write line)
  IO.eprint report.diagnostic
  pure report.exitCode.toUInt32
