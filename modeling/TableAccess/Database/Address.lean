/-
**Where the database is.**

The address of the database is a URL whose path is the name of the database and whose query is a
form with further settings, which override what came before.  Of all this only the way to the server
is kept here; the rest is checked and left to the server.  Settings without a known name are passed
over and remembered.

Main definitions:

* `Database.AddressFault` — what can be wrong with an address, and its wording;
* `Database.Address`, `Address.read` — the addresses, and their reading;
* `Address.socketPath?` — the socket of a server on this machine.
-/
import TableAccess.Network.Url
import TableAccess.Text.Quoted

set_option relaxedAutoImplicit false
set_option autoImplicit false

namespace TableAccess

namespace Database

/-! ### Faults -/

/-- What can be wrong with an address.  Bytes that are no text are told by their place and their
number, unless the text ends too early. -/
inductive AddressFault where
  | url (fault : UrlFault)
  | notText (place : Nat) (bytes : Option Nat)
  | badNumber (fault : Numeral.Fault)
  | badIpAddress
  | badProtection (value : String)
deriving DecidableEq, Repr

def AddressFault.message : AddressFault → String
  | .url f => f.message
  | .notText place (some n) =>
      "invalid utf-8 sequence of " ++ Numeral.write n ++ " bytes from index " ++ Numeral.write place
  | .notText place none => "incomplete utf-8 byte sequence from index " ++ Numeral.write place
  | .badNumber f => f.message
  | .badIpAddress => "invalid IP address syntax"
  | .badProtection value =>
      "error with configuration: unknown value " ++ Quoted.quote value ++ " for `ssl_mode`"

/-! ### Addresses -/

/-- Whether the connection is protected: never, where the server offers it, or always. -/
inductive Protection where
  | never
  | offered
  | always
deriving DecidableEq, Repr

/-- The way to a server. -/
structure Address where
  /-- The directory of a socket on this machine. -/
  directory : Option String
  host : String
  port : Nat
  protection : Protection
deriving DecidableEq, Repr

namespace Address

def usual : Address := ⟨none, "localhost", 5432, .offered⟩

def socketPath? (a : Address) : Option String :=
  let file := fun d => d ++ "/.s.PGSQL." ++ Numeral.write a.port
  match a.directory with
  | some d => some (file d)
  | none => if a.host.startsWith "/" then some (file a.host) else none

/-! ### Encoded parts -/

def lengthOf (b : UInt8) : Nat :=
  if b < 0xc2 then 1 else if b < 0xe0 then 2 else if b < 0xf0 then 3 else if b < 0xf5 then 4 else 1

/-- Fails unless bytes are a text; the first of them is at a place. -/
def checkBytes : Nat → Nat → List UInt8 → Except AddressFault Unit
  | 0, _, _ => .ok ()
  | fuel + 1, place, bytes =>
      match Utf8.step bytes with
      | .done => .ok ()
      | .char c rest => checkBytes fuel (place + c.utf8Size) rest
      | .broken run rest =>
          let needed := ((run.head?).map lengthOf).getD 1
          .error (.notText place
            (if rest.isEmpty && run.length < needed then none else some run.length))

/-- Fails unless an encoded part is a text. -/
def checkText (cs : List Char) : Except AddressFault Unit :=
  let bytes := Percent.decodeBytes cs
  checkBytes bytes.length 0 bytes

def textOf (cs : List Char) : String := Utf8.decodeLossy (Percent.decodeBytes cs)

/-! ### Settings -/

def readProtection (value : String) : Except AddressFault Protection :=
  match String.ofList (Text.lowerAscii value.toList) with
  | "disable" => .ok .never
  | "allow" => .ok .never
  | "prefer" => .ok .offered
  | "require" => .ok .always
  | "verify-ca" => .ok .always
  | "verify-full" => .ok .always
  | _ => .error (.badProtection value)

def readNumber (b : Numeral.Bounds) (value : String) : Except AddressFault Nat :=
  match Numeral.read b value with
  | .ok n => .ok n.toNat
  | .error f => .error (.badNumber f)

/-- The names of settings that do not concern the way to the server. -/
def otherSettings : List String :=
  ["sslrootcert", "ssl-root-cert", "ssl-ca", "sslcert", "ssl-cert", "sslkey", "ssl-key", "dbname",
    "user", "password", "application_name", "options"]

def isOtherSetting (name : String) : Bool :=
  otherSettings.contains name || name.startsWith "options["

/-- The address with a setting, if its name is known. -/
def set? (a : Address) (name value : String) : Except AddressFault (Option Address) :=
  if name = "sslmode" ∨ name = "ssl-mode" then do
    let protection ← readProtection value
    pure (some { a with protection })
  else if name = "statement-cache-capacity" then do
    let _ ← readNumber Numeral.natural64 value
    pure (some a)
  else if name = "host" then
    if value.startsWith "/" then .ok (some { a with directory := some value })
    else .ok (some { a with host := value })
  else if name = "hostaddr" then
    match IpAddress.read? value with
    | some _ => .ok (some { a with host := value })
    | none => .error .badIpAddress
  else if name = "port" then do
    let port ← readNumber Numeral.natural16 value
    pure (some { a with port })
  else if isOtherSetting name then .ok (some a)
  else .ok none

/-! ### Reading -/

/-- The address with the host of a URL; a name that begins with a slash is a directory. -/
def withHost (a : Address) : Option Host → Except AddressFault Address
  | none => .ok a
  | some (.address ip) => .ok { a with host := ip.write }
  | some (.name cs) =>
      if (Percent.decodeBytes cs).head? = some 0x2f then do
        checkText cs
        pure { a with directory := some (textOf cs) }
      else .ok { a with host := String.ofList cs }

/-- The address that the parts of a URL before its query stand for. -/
def ofParts (url : Url) : Except AddressFault Address := do
  let a ← usual.withHost url.host
  checkText url.user
  checkText url.password
  checkText (url.path.dropWhile (· = '/'))
  pure { a with port := url.port.getD a.port }

structure Reading where
  /-- The settings that were passed over because no such name is known, in order. -/
  ignored : List (String × String)
  address : Except AddressFault Address

/-- Adds settings one after the other up to the first fault. -/
def setAll : Address → List (String × String) → Reading
  | a, [] => ⟨[], .ok a⟩
  | a, (name, value) :: rest =>
      match a.set? name value with
      | .error f => ⟨[], .error f⟩
      | .ok (some a) => setAll a rest
      | .ok none =>
          let r := setAll a rest
          { r with ignored := (name, value) :: r.ignored }

def read (text : String) : Reading :=
  match Url.read text with
  | .error f => ⟨[], .error (.url f)⟩
  | .ok url =>
      match ofParts url with
      | .error f => ⟨[], .error f⟩
      | .ok a => setAll a (Percent.formPairs url.query)

end Address

end Database

end TableAccess
