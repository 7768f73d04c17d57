/-
**URLs.**

A URL is a scheme and, after a colon, an authority with user, host and port, a path, and a query.
Some schemes are known: those of the internet always have a host, and a file has one at most.  For
them a backslash is a slash.  The path is a row of segments; those that stand for the place itself
or the one above are resolved.

Main definitions:

* `UrlFault` — what can be wrong with a URL, and its wording;
* `Url`, `Url.read` — the parts of a URL, and their reading;
* `Url.resolve` — the segments of a path.
-/
import TableAccess.Network.Host

set_option relaxedAutoImplicit false
set_option autoImplicit false

namespace TableAccess

/-- What can be wrong with a URL. -/
inductive UrlFault where
  | noScheme
  | host (fault : HostFault)
  | badPort
deriving DecidableEq, Repr

def UrlFault.message : UrlFault → String
  | .noScheme => "relative URL without a base"
  | .host f => f.message
  | .badPort => "invalid port number"

/-- The parts of a URL.  They are kept encoded. -/
structure Url where
  user : List Char
  password : List Char
  host : Option Host
  /-- The port, unless it is the usual one of the scheme. -/
  port : Option Nat
  path : List Char
  query : List Char
deriving DecidableEq, Repr

namespace Url

/-! ### Schemes -/

/-- What is known of a scheme: it leads to a host on the internet, at a usual port, or to a file. -/
inductive Scheme where
  | internet (port : Nat)
  | file
  | other
deriving DecidableEq, Repr

namespace Scheme

def ofName (name : List Char) : Scheme :=
  match String.ofList (Text.lowerAscii name) with
  | "http" => .internet 80
  | "https" => .internet 443
  | "ws" => .internet 80
  | "wss" => .internet 443
  | "ftp" => .internet 21
  | "file" => .file
  | _ => .other

def isSlash (s : Scheme) (c : Char) : Bool := c = '/' || (c = '\\' && s ≠ .other)

def endsAuthority (s : Scheme) (c : Char) : Bool := s.isSlash c || c = '?' || c = '#'

end Scheme

/-- Whether a character is passed over at both ends. -/
def isMargin (c : Char) : Bool := c.toNat ≤ 0x20

/-- The characters of a URL, without margins and line breaks. -/
def clean (s : String) : List Char :=
  let cs := ((s.toList.dropWhile isMargin).reverse.dropWhile isMargin).reverse
  cs.filter fun c => c ≠ '\t' && c ≠ '\n' && c ≠ '\r'

/-- Whether a character may stand in a scheme. -/
def inScheme (c : Char) : Bool := c.isAlphanum || c = '+' || c = '-' || c = '.'

/-- The scheme and what comes after its colon. -/
def scheme? (cs : List Char) : Option (Scheme × List Char) :=
  match cs.head?, cs.dropWhile inScheme with
  | some c, ':' :: rest => if c.isAlpha then some (.ofName (cs.takeWhile inScheme), rest) else none
  | _, _ => none

/-! ### Paths -/

/-- A segment in which the encoded full stops are written out. -/
def stops : List Char → List Char
  | '%' :: '2' :: c :: cs =>
      if c = 'e' || c = 'E' then '.' :: stops cs else '%' :: '2' :: c :: stops cs
  | c :: cs => c :: stops cs
  | [] => []

/-- Whether a segment names a drive, above which there is nothing. -/
def isDrive : List Char → Bool
  | [a, b] => a.isAlpha && (b = ':' || b = '|')
  | _ => false

/-- The segments, last first, without the last one. -/
def above : List (List Char) → List (List Char)
  | [] => []
  | s :: done => if isDrive s then s :: done else done

/-- The segments of a path with those resolved that stand for the place itself or the one above.
`done` holds the segments before, last first; where such a segment ends the path, an empty one is
left in its place. -/
def resolve : List (List Char) → List (List Char) → List (List Char)
  | done, [] => done.reverse
  | done, s :: rest =>
      let close := fun (done : List (List Char)) => if rest.isEmpty then [] :: done else done
      if stops s = ['.', '.'] then resolve (close (above done)) rest
      else if stops s = ['.'] then resolve (close done) rest
      else resolve (s :: done) rest

def segments (s : Scheme) : List Char → List (List Char)
  | [] => [[]]
  | c :: cs =>
      if s.isSlash c then [] :: segments s cs
      else match segments s cs with
        | [] => [[c]]
        | p :: ps => (c :: p) :: ps

def pathOf (ps : List (List Char)) : List Char := ps.flatMap fun p => '/' :: p

/-- The path with its segments resolved; the slash before the first segment may be left out.  Known
schemes always have a path, and that of a file does not begin with an empty segment. -/
def readPath (s : Scheme) (cs : List Char) : List Char :=
  match cs with
  | [] => if s = .other then [] else ['/']
  | c :: rest =>
      let ps := resolve [] (segments s (if s.isSlash c then rest else cs))
      if s = .file then '/' :: (pathOf ps).dropWhile (· = '/') else pathOf ps

/-- What comes before a query, and the query, up to a hash sign. -/
def splitQuery (cs : List Char) : List Char × List Char :=
  match Text.cut '?' (cs.takeWhile (· ≠ '#')) with
  | (before, query) => (before, query.getD [])

/-! ### Authorities -/

/-- The characters before the last occurrence of a character, if it occurs, and those after it. -/
def cutLast (sep : Char) (cs : List Char) : Option (List Char) × List Char :=
  match Text.cut sep cs.reverse with
  | (after, before) => (before.map List.reverse, after.reverse)

/-- The user and the password before an at sign. -/
def readUser (cs : List Char) : List Char × List Char :=
  match Text.cut ':' cs with
  | (user, password) => (user, password.getD [])

/-- The host, with its brackets if it has any, and what comes after it. -/
def splitHost : Bool → List Char → List Char × List Char
  | _, [] => ([], [])
  | inBrackets, c :: cs =>
      if c = ':' && !inBrackets then ([], c :: cs)
      else
        match splitHost (c = '[' || (inBrackets && c ≠ ']')) cs with
        | (host, rest) => (c :: host, rest)

def readHost (s : Scheme) (cs : List Char) (hasPort : Bool) : Except HostFault Host :=
  match s with
  | .other => if cs.isEmpty && hasPort then .error .empty else Host.ofName cs
  | _ => if cs.isEmpty then .error .empty else Host.ofDomain cs

/-- The port in digits, of which there may be none. -/
def readPort (s : Scheme) (cs : List Char) : Except UrlFault (Option Nat) :=
  if cs.isEmpty then .ok none
  else if Numeral.areDigits cs then
    let n := IpAddress.decimalValue cs
    if 65535 < n then .error .badPort
    else .ok (if s = .internet n then none else some n)
  else .error .badPort

/-- A URL after the slashes before its authority.  The place of the user may be empty unless nothing
else is in the authority. -/
def readAuthority (s : Scheme) (cs : List Char) : Except UrlFault Url := do
  let authority := cs.takeWhile fun c => !s.endsAuthority c
  let after := cs.dropWhile fun c => !s.endsAuthority c
  let (before, site) := cutLast '@' authority
  let (user, password) := readUser (before.getD [])
  if before = some [] ∧ site = [] ∧ after ≠ [] then .error (.host .empty)
  else
    let (written, tail) := splitHost false site
    let host ← (readHost s written !tail.isEmpty).mapError .host
    let port ← readPort s ((tail.drop 1).takeWhile (· ≠ '\\'))
    if host.isEmpty && !(user.isEmpty && password.isEmpty) then .error (.host .empty)
    else
      let (path, query) := splitQuery ((tail.drop 1).dropWhile (· ≠ '\\') ++ after)
      pure
        { user, password, port, query
          host := if host.isEmpty then none else some host
          path := readPath s path }

/-! ### Whole URLs -/

/-- A URL without an authority; a path that does not begin with a slash is kept as it is. -/
def withoutAuthority (s : Scheme) (cs : List Char) : Url :=
  let (path, query) := splitQuery cs
  let path :=
    match path with
    | '/' :: _ => readPath s path
    | _ => if s = .other then path else readPath s path
  { user := [], password := [], host := none, port := none, path, query }

/-- The host of a file; this machine has no name. -/
def fileHost (cs : List Char) : Except HostFault (Option Host) :=
  if cs.isEmpty || isDrive cs then .ok none
  else do
    let host ← Host.ofDomain cs
    pure (if host = .name "localhost".toList then none else some host)

/-- The URL of a file.  After two slashes comes its host, unless that is a drive. -/
def readFile (cs : List Char) : Except HostFault Url :=
  match cs with
  | a :: b :: rest =>
      if Scheme.file.isSlash a && Scheme.file.isSlash b then do
        let written := rest.takeWhile fun c => !Scheme.file.endsAuthority c
        let host ← fileHost written
        let after := if isDrive written then rest else rest.drop written.length
        pure { withoutAuthority .file after with host }
      else .ok (withoutAuthority .file cs)
  | cs => .ok (withoutAuthority .file cs)

def read (text : String) : Except UrlFault Url :=
  match scheme? (clean text) with
  | none => .error .noScheme
  | some (.internet port, cs) =>
      readAuthority (.internet port) (cs.dropWhile (Scheme.internet port).isSlash)
  | some (.file, cs) => (readFile cs).mapError .host
  | some (.other, cs) =>
      match cs with
      | '/' :: '/' :: rest => readAuthority .other rest
      | cs => .ok (withoutAuthority .other cs)

end Url

end TableAccess
