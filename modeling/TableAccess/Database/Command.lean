/-
**Commands to the database.**

A statement that stands alone is sent on a connection that is taken from the pool for it.  Several
statements can be sent on one connection between the beginning of a transaction and its end; they
count together or not at all.

Main definitions:

* `Database.Command`, `Command.Reply` — the commands, and what is replied;
* `Database.Attempt` — commands that may fail;
* `Attempt.single`, `Attempt.transaction` — a statement alone, and several together.
-/
import TableAccess.Database.Row
import TableAccess.Database.Statement
import TableAccess.Dialogue

set_option relaxedAutoImplicit false
set_option autoImplicit false

namespace TableAccess

namespace Database

/-- What the database answers to a statement. -/
structure Result where
  rows : List Row
  /-- How many rows the statement changed. -/
  affected : Nat

inductive Command where
  | acquire
  | execute (statement : Statement)
  | begin
  | commit
  | rollback

/-- What is replied to a command. -/
abbrev Command.Reply : Command → Type
  | .acquire => Except Fault Unit
  | .execute _ => Except Fault Result
  | .begin => Except Fault Unit
  | .commit => Except Fault Unit
  | .rollback => Unit

/-- Commands that end with a value. -/
abbrev Exchange (α : Type) := Dialogue Command Command.Reply α

/-- Commands that may fail. -/
abbrev Attempt (α : Type) := ExceptT AppError (Dialogue Command Command.Reply) α

namespace Attempt

/-- The error of a fault while something was attempted. -/
def failed (attempt : String) (f : Fault) : AppError :=
  ⟨.internal, "failed to " ++ attempt ++ ": " ++ f.message⟩

def ofOutcome {α : Type} (o : Outcome α) : Attempt α := ExceptT.mk (pure o)

def send (s : Statement) : Exchange (Except Fault Result) := Dialogue.query (Command.execute s)

/-- Takes a connection and sends one statement on it. -/
def sendAlone (s : Statement) : Exchange (Except Fault Result) := do
  let taken ← Dialogue.query Command.acquire
  match (taken : Except Fault Unit) with
  | .error f => pure (.error f)
  | .ok () => send s

/-- Sends a statement alone and reads its result. -/
def single {α : Type} (error : Fault → AppError) (s : Statement)
    (read : Result → Except Fault α) : Attempt α := ExceptT.mk do
  let reply ← sendAlone s
  pure ((reply >>= read).mapError error)

/-- Sends a statement on the connection at hand and reads its result. -/
def within {α : Type} (error : Fault → AppError) (s : Statement)
    (read : Result → Except Fault α) : Attempt α := ExceptT.mk do
  let reply ← send s
  pure ((reply >>= read).mapError error)

def connect (error : Fault → AppError) : Attempt Unit := ExceptT.mk do
  let taken ← Dialogue.query Command.acquire
  pure ((taken : Except Fault Unit).mapError error)

/-- Gives up a transaction after an error. -/
def giveUp {α : Type} (e : AppError) : Exchange (Outcome α) := do
  let _ ← Dialogue.query Command.rollback
  pure (.error e)

/-- Sends statements between the beginning and the end of a transaction.  When one of them fails, or
the end itself, the transaction is given up. -/
def transaction {α : Type} (steps : Attempt α) : Attempt α := ExceptT.mk do
  let taken ← Dialogue.query Command.acquire
  match (taken : Except Fault Unit) with
  | .error f => pure (.error (failed "begin transaction" f))
  | .ok () => do
      let begun ← Dialogue.query Command.begin
      match (begun : Except Fault Unit) with
      | .error f => pure (.error (failed "begin transaction" f))
      | .ok () => do
          let outcome ← steps.run
          match outcome with
          | .error e => giveUp e
          | .ok a => do
              let ended ← Dialogue.query Command.commit
              match (ended : Except Fault Unit) with
              | .error f => giveUp (failed "commit transaction" f)
              | .ok () => pure (.ok a)

/-! ### Results -/

def everyRow {α : Type} (read : Row → Except Fault α) (r : Result) : Except Fault (List α) :=
  r.rows.mapM read

def firstRow {α : Type} (read : Row → Except Fault α) (r : Result) : Except Fault (Option α) :=
  match r.rows with
  | [] => .ok none
  | row :: _ => (read row).map some

def oneRow {α : Type} (read : Row → Except Fault α) (r : Result) : Except Fault α :=
  match r.rows with
  | [] => .error .noRow
  | row :: _ => read row

def changed (r : Result) : Except Fault Nat := .ok r.affected

/-- Nothing of the result is needed. -/
def ignored (_ : Result) : Except Fault Unit := .ok ()

end Attempt

end Database

end TableAccess
