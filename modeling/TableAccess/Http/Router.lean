/-
**The router.**

A request is passed to the operation of its resource and method.  Guarded resources are checked
first, whatever the method.  Pages of one web site may use the answers: every response names that
site, and a browser that asks beforehand is answered without looking further.

Main definitions:

* `Http.Router`, `Http.Router.make` — a router for a web site;
* `Http.Router.dispatch` — the response of the resource;
* `Http.Router.respond` — the whole response.
-/
import TableAccess.Http.Endpoint
import TableAccess.Http.Guard

set_option relaxedAutoImplicit false
set_option autoImplicit false

namespace TableAccess

namespace Http

structure Router where
  settings : Settings
  /-- The web site whose pages may use the answers. -/
  origin : String
deriving DecidableEq, Repr

namespace Router

/-! ### The web site -/

/-- Whether a character may stand in a header field. -/
def fitsHeader (c : Char) : Bool := (0x20 ≤ c.toNat && c.toNat ≠ 0x7f) || c = '\t'

def badOrigin : AppError := ⟨.internal, "invalid FRONTEND_URL: failed to parse header value"⟩

def make (settings : Settings) (origin : String) : Outcome Router :=
  if origin.toList.all fitsHeader then .ok ⟨settings, origin⟩ else .error badOrigin

/-- Names the web site, and what an answer depends on. -/
def withOrigin (origin : String) (r : Response) : Response :=
  (r.withHeader "access-control-allow-origin" origin).withHeader "vary"
    "origin, access-control-request-method, access-control-request-headers"

/-- The answer to a browser that asks beforehand. -/
def preflight : Response :=
  ((Response.bare 200).withHeader "access-control-allow-methods"
    "GET,POST,PUT,DELETE,OPTIONS").withHeader "access-control-allow-headers"
    "authorization,content-type"

/-! ### Resources -/

/-- The operation of a resource, if it has the method. -/
def perform (s : Settings) (actor : Option Principal) (r : Route) (m : Message) :
    Calls Response :=
  if !r.methods.contains m.method then pure (.bare 405)
  else
    match actor with
    | some p => Endpoint.guarded s p r m
    | none => Endpoint.unguarded s r m

/-- The response of a resource, its gate coming first. -/
def guardAndPerform (s : Settings) (r : Route) (m : Message) : Calls Response :=
  match r.access with
  | .anyone => perform s none r m
  | access => do
      let checked ← Guard.check (access = .administrator) m
      match checked with
      | .ok p => perform s (some p) r m
      | .error response => pure response

/-- Announces the methods of a resource that does not have the one asked for. -/
def withAllow (r : Route) (m : Message) (response : Response) : Response :=
  if r.methods.contains m.method then response else response.withHeader "allow" r.allow

def dispatch (s : Settings) (m : Message) : Calls Response :=
  match Route.ofPath? m.path with
  | none => pure (if m.method = .options then preflight else .bare 404)
  | some r => do
      let response ← if m.method = .options then pure preflight else guardAndPerform s r m
      pure (withAllow r m response)

def respond (router : Router) (m : Message) : Calls Response := do
  let response ← dispatch router.settings m
  let response := if m.method = .head then response.withoutBody else response
  pure (withOrigin router.origin response)

end Router

end Http

end TableAccess
