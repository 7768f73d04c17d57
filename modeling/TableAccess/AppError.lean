/-
**Refusals.**

An operation that does not succeed answers with an error: its kind, by which callers decide what to
do, and a detail for people to read.

Main definitions:

* `ErrorKind`, `AppError` — the kinds, and the errors;
* `AppError.message` — the full wording, the detail after the name of the kind.
-/

set_option relaxedAutoImplicit false
set_option autoImplicit false

namespace TableAccess

/-- The kinds of errors. -/
inductive ErrorKind where
  | validation
  | notFound
  | conflict
  | unauthorized
  | forbidden
  | invalidStateTransition
  | nothingChanged
  | deleteOfActiveGrant
  | internal
deriving DecidableEq, Repr, Inhabited

/-- What a kind is called in front of the detail. -/
def ErrorKind.label : ErrorKind → String
  | .validation => "validation error"
  | .notFound => "not found"
  | .conflict => "conflict"
  | .unauthorized => "unauthorized"
  | .forbidden => "forbidden"
  | .invalidStateTransition => "invalid state transition"
  | .nothingChanged => "nothing changed"
  | .deleteOfActiveGrant => "delete of active grant"
  | .internal => "internal error"

def ErrorKind.name : ErrorKind → String
  | .validation => "Validation"
  | .notFound => "NotFound"
  | .conflict => "Conflict"
  | .unauthorized => "Unauthorized"
  | .forbidden => "Forbidden"
  | .invalidStateTransition => "InvalidStateTransition"
  | .nothingChanged => "NothingChanged"
  | .deleteOfActiveGrant => "DeleteOfActiveGrant"
  | .internal => "Internal"

def ErrorKind.all : List ErrorKind :=
  [.validation, .notFound, .conflict, .unauthorized, .forbidden, .invalidStateTransition,
    .nothingChanged, .deleteOfActiveGrant, .internal]

def ErrorKind.ofName? (name : String) : Option ErrorKind :=
  ErrorKind.all.find? fun k => k.name = name

@[ext] structure AppError where
  kind : ErrorKind
  detail : String
deriving DecidableEq, Repr, Inhabited

/-- The full wording of an error. -/
def AppError.message (e : AppError) : String := e.kind.label ++ ": " ++ e.detail

/-- The answer of something that may fail. -/
abbrev Outcome (α : Type) := Except AppError α

/-- A sequence that ends with a value had one at its first step. -/
theorem Except.of_bind_eq_ok {ε α β : Type} {x : Except ε α} {k : α → Except ε β} {b : β}
    (h : x >>= k = .ok b) : ∃ a, x = .ok a ∧ k a = .ok b := by
  cases x with
  | error e => cases h
  | ok a => exact ⟨a, rfl, h⟩

end TableAccess
