/-
**Operations at work.**

An operation runs in a world: a store, the clock of the application, the clock of the machine, and a
supply of random bits for new keys.  In front of the store there may be a script that answers some
requests in its place, or makes them fail.

Main definitions:

* `Cue`, `Script` — answers that come before the store's;
* `World`, `World.reply` — the world, and its reply to a call;
* `World.run` — an operation in a world.
-/
import TableAccess.Service
import TableAccess.Store

set_option relaxedAutoImplicit false
set_option autoImplicit false

namespace TableAccess

/-! ### Scripts -/

/-- One prepared answer: to ask the store after all, to fail without asking it, or to answer in its
place. -/
inductive Cue (α : Type) where
  | pass
  | fail (error : AppError)
  | give (value : α)

/-- The prepared answers of every port, to be used in order. -/
abbrev Script := (p : Port) → List (Cue p.Value)

namespace Script

def empty : Script := fun _ => []

def set (s : Script) (p : Port) (cues : List (Cue p.Value)) : Script := fun q =>
  if h : p = q then h ▸ cues else s q

/-- Uses up the next prepared answer of a port. -/
def advance (s : Script) (p : Port) : Script := fun q => if p = q then (s q).drop 1 else s q

end Script

/-! ### Worlds -/

/-- Where an operation runs. -/
structure World where
  store : Store
  script : Script
  clock : Instant
  /-- The machine's clock, by which the store dates what it keeps. -/
  wall : Instant
  /-- How many random numbers were drawn so far. -/
  drawn : Nat
  /-- The random number that is drawn after a count of others. -/
  random : Nat → Nat

namespace World

/-- The reply to a request, the script coming before the store. -/
def answer (w : World) (r : Request) : r.Answer × World :=
  let w' := { w with script := w.script.advance r.port }
  match w.script r.port with
  | .fail e :: _ => (.error e, w')
  | .give v :: _ => (.ok v, w')
  | _ =>
      match w.store.answer w.wall r with
      | (a, store) => (a, { w' with store })

/-- The reply to a call.  Operations take no measurable time. -/
def reply : Dialogue.Handler Call Call.Reply World := fun c w =>
  match c with
  | .store r => w.answer r
  | .now => (w.clock, w)
  | .newKey => (AccessKey.ofRandom (w.random w.drawn), { w with drawn := w.drawn + 1 })
  | .elapsed => (0, w)

def call {α : Type} (w : World) (d : Calls α) : α × World := d.run reply w

def run {α : Type} (w : World) (op : Service α) : Outcome α × World := w.call op.run

end World

end TableAccess
