/-
**A database that plays prepared replies.**

The replies are laid out beforehand, one for each statement that will come, and everything that is
asked is written down in order.  A statement for which nothing was prepared succeeds and finds no
rows.

Main definitions:

* `Database.Prepared`, `Database.Playback` — the replies, and the database that plays them;
* `Playback.reply` — the reply to a command;
* `Database.Site`, `Site.reply` — where an operation runs on such a database.
-/
import TableAccess.Database.Answer
import TableAccess.Service

set_option relaxedAutoImplicit false
set_option autoImplicit false

namespace TableAccess

namespace Database

/-! ### Prepared replies -/

/-- A prepared reply: to a statement, during which the pool may be closed, or the failure of the
beginning or the end of a transaction. -/
inductive Prepared where
  | statement (reply : Except Fault Result) (closesPool : Bool)
  | begin (fault : Fault)
  | commit (fault : Fault)

def Result.nothing : Result := ⟨[], 0⟩

def Result.ofRows (rows : List Row) : Result := ⟨rows, rows.length⟩

/-- A database with prepared replies. -/
structure Playback where
  isOpen : Bool
  prepared : List Prepared
  asked : List Command

namespace Playback

/-- A database that was asked nothing yet. -/
def ready : Playback := ⟨true, [], []⟩

/-- Lays out other replies, and forgets what was asked. -/
def prepare (p : Playback) (prepared : List Prepared) : Playback := { p with prepared, asked := [] }

def close (p : Playback) : Playback := { p with isOpen := false }

def note (p : Playback) (c : Command) : Playback := { p with asked := p.asked ++ [c] }

def replyToStatement (p : Playback) : Except Fault Result × Playback :=
  match p.prepared with
  | .statement reply closesPool :: rest =>
      (reply, { p with prepared := rest, isOpen := p.isOpen && !closesPool })
  | _ => (.ok .nothing, p)

def replyToBegin (p : Playback) : Except Fault Unit × Playback :=
  match p.prepared with
  | .begin f :: rest => (.error f, { p with prepared := rest })
  | _ => (.ok (), p)

def replyToCommit (p : Playback) : Except Fault Unit × Playback :=
  match p.prepared with
  | .commit f :: rest => (.error f, { p with prepared := rest })
  | _ => (.ok (), p)

def reply : Dialogue.Handler Command Command.Reply Playback := fun c p =>
  match c with
  | .acquire => (if p.isOpen then .ok () else .error .poolClosed, p)
  | .execute s => (p.note (.execute s)).replyToStatement
  | .begin => (p.note .begin).replyToBegin
  | .commit => (p.note .commit).replyToCommit
  | .rollback => ((), p.note .rollback)

end Playback

/-! ### Operations -/

/-- Where an operation runs on a database with prepared replies. -/
structure Site where
  playback : Playback
  clock : Instant
  /-- How many random numbers were drawn so far. -/
  drawn : Nat
  /-- The random number that is drawn after a count of others. -/
  random : Nat → Nat

namespace Site

def answer (w : Site) (r : Request) : r.Answer × Site :=
  match (Database.answer r).run Playback.reply w.playback with
  | (a, playback) => (a, { w with playback })

/-- The reply to a call.  Operations take no measurable time. -/
def reply : Dialogue.Handler Call Call.Reply Site := fun c w =>
  match c with
  | .store r => w.answer r
  | .now => (w.clock, w)
  | .newKey => (AccessKey.ofRandom (w.random w.drawn), { w with drawn := w.drawn + 1 })
  | .elapsed => (0, w)

def call {α : Type} (w : Site) (d : Calls α) : α × Site := d.run reply w

def run {α : Type} (w : Site) (op : Service α) : Outcome α × Site := w.call op.run

end Site

end Database

end TableAccess
