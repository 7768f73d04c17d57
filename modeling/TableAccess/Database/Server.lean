/-
**A server and the way to it.**

A server listens at a socket on its machine.  It may refuse every connection, and it offers no
protected connections.  Someone who finds the server busy or starting up tries again for a while and
then gives up, as someone does who finds no server on the network.

Main definitions:

* `Database.ConnectFault` — why no connection was made, and its wording;
* `Database.Server`, `Server.connectTo` — a server, and whether it is reached;
* `Server.prepare` — a connection, and a schema that is up to date.
-/
import TableAccess.AppError
import TableAccess.Database.Address
import TableAccess.Schema.Migration

set_option relaxedAutoImplicit false
set_option autoImplicit false

namespace TableAccess

namespace Database

/-- Why no connection was made. -/
inductive ConnectFault where
  | address (fault : AddressFault)
  | nulInPath
  | pathTooLong
  | noSocket
  | unprotected
  | refused (fault : Fault)
  | timedOut
deriving DecidableEq, Repr

def ConnectFault.message : ConnectFault → String
  | .address f => "error with configuration: " ++ f.message
  | .nulInPath =>
      "error communicating with database: paths must not contain interior null bytes"
  | .pathTooLong => "error communicating with database: path must be shorter than SUN_LEN"
  | .noSocket => "error communicating with database: No such file or directory (os error 2)"
  | .unprotected =>
      "error occurred while attempting to establish a TLS connection: "
        ++ "server does not support TLS"
  | .refused f => f.message
  | .timedOut => "pool timed out while waiting for an open connection"

/-- Whether a fault passes by itself: too many connections, or a server that is starting up. -/
def Fault.isPassing : Fault → Bool
  | .server _ code => code = "53300" || code = "57P03"
  | _ => false

/-- A server. -/
structure Server where
  socket : String
  /-- Why it refuses connections, if it does. -/
  refusal : Option Fault
  /-- What it records of its schema. -/
  history : Schema.History
  /-- What happens to a script. -/
  execute : Schema.Migration → Except Fault Unit

namespace Server

/-- The number of bytes that the file of a socket may have in its name. -/
def maxSocketPath : Nat := 107

/-- Whether the server is reached at an address. -/
def connectTo (s : Server) (a : Address) : Except ConnectFault Unit :=
  match a.socketPath? with
  | none => .error .timedOut
  | some path =>
      if path.toList.contains '\x00' then .error .nulInPath
      else if maxSocketPath < path.utf8ByteSize then .error .pathTooLong
      else if path ≠ s.socket then .error .noSocket
      else if a.protection = .always then .error .unprotected
      else
        match s.refusal with
        | none => .ok ()
        | some f => if f.isPassing then .error .timedOut else .error (.refused f)

/-- What an attempt to use the server comes to. -/
structure Preparation where
  /-- The settings of the address that were passed over, in order. -/
  ignored : List (String × String)
  /-- The scripts that were applied, in order. -/
  applied : List Schema.Migration
  outcome : Outcome Unit

def connectError (f : ConnectFault) : AppError :=
  ⟨.internal, "failed to connect to database: " ++ f.message⟩

def upgradeError (f : Schema.Fault) : AppError :=
  ⟨.internal, "failed to run migrations: " ++ f.message⟩

/-- Brings the schema up to date on a connection that was made or not. -/
def upgrade (s : Server) : Except ConnectFault Unit → List Schema.Migration × Outcome Unit
  | .error f => ([], .error (connectError f))
  | .ok () =>
      let u := Schema.upgrade s.execute s.history Schema.migrations
      (u.applied, u.outcome.mapError upgradeError)

/-- Connects to the server at the address that a URL stands for and brings its schema up to date. -/
def prepare (s : Server) (url : String) : Preparation :=
  let reading := Address.read url
  let (applied, outcome) := s.upgrade ((reading.address.mapError .address) >>= s.connectTo)
  { ignored := reading.ignored, applied, outcome }

end Server

end Database

end TableAccess
