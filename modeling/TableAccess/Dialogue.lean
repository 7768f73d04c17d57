/-
**Dialogues.**

A dialogue is a run of questions whose answers decide how it goes on, and which ends with a value.
It says what is asked and in which order, and leaves open who answers: a store, a script, or a
database.

Main definitions:

* `Dialogue` — the dialogues over questions `Q` with replies `A q`; they form a monad;
* `Dialogue.run` — a dialogue with someone who answers from a state;
* `Dialogue.expand` — a dialogue in which each question is answered by a dialogue of its own.

Main statements:

* the laws of a monad, and `Dialogue.run_bind`.
-/

set_option relaxedAutoImplicit false
set_option autoImplicit false

namespace TableAccess

/-- A run of questions that ends with a value. -/
inductive Dialogue (Q : Type) (A : Q → Type) (α : Type) where
  | done (a : α)
  | ask (q : Q) (next : A q → Dialogue Q A α)

namespace Dialogue

variable {Q : Type} {A : Q → Type} {α β γ σ : Type}

/-! ### Sequences -/

/-- Goes on with the value at the end of a dialogue. -/
def bind : Dialogue Q A α → (α → Dialogue Q A β) → Dialogue Q A β
  | .done a, f => f a
  | .ask q next, f => .ask q fun r => bind (next r) f

instance : Monad (Dialogue Q A) where
  pure := .done
  bind := bind

/-- Asks one question. -/
def query (q : Q) : Dialogue Q A (A q) := .ask q .done

@[simp] theorem pure_eq (a : α) : (pure a : Dialogue Q A α) = .done a := rfl

@[simp] theorem done_bind (a : α) (f : α → Dialogue Q A β) :
    (.done a : Dialogue Q A α) >>= f = f a := rfl

@[simp] theorem ask_bind (q : Q) (next : A q → Dialogue Q A α) (f : α → Dialogue Q A β) :
    (.ask q next : Dialogue Q A α) >>= f = .ask q fun r => next r >>= f := rfl

theorem bind_done (d : Dialogue Q A α) : d >>= .done = d := by
  induction d with
  | done a => rfl
  | ask q next ih => simp [ih]

theorem bind_bind (d : Dialogue Q A α) (f : α → Dialogue Q A β) (g : β → Dialogue Q A γ) :
    (d >>= f) >>= g = d >>= fun a => f a >>= g := by
  induction d with
  | done a => rfl
  | ask q next ih => simp [ih]

instance : LawfulMonad (Dialogue Q A) :=
  LawfulMonad.mk' (Dialogue Q A) (fun d => bind_done d) (fun _ _ => rfl) bind_bind

/-! ### Answers -/

/-- Someone who answers questions from a state. -/
abbrev Handler (Q : Type) (A : Q → Type) (σ : Type) := (q : Q) → σ → A q × σ

/-- The value of a dialogue and the state after it. -/
def run (h : Handler Q A σ) : Dialogue Q A α → σ → α × σ
  | .done a, s => (a, s)
  | .ask q next, s =>
      match h q s with
      | (r, s') => run h (next r) s'

@[simp] theorem run_done (h : Handler Q A σ) (a : α) (s : σ) :
    (.done a : Dialogue Q A α).run h s = (a, s) := rfl

@[simp] theorem run_ask (h : Handler Q A σ) (q : Q) (next : A q → Dialogue Q A α) (s : σ) :
    (ask q next).run h s = (next (h q s).1).run h (h q s).2 := rfl

@[simp] theorem run_query (h : Handler Q A σ) (q : Q) (s : σ) : (query q).run h s = h q s := rfl

theorem run_bind (h : Handler Q A σ) (d : Dialogue Q A α) (f : α → Dialogue Q A β) (s : σ) :
    (d >>= f).run h s = (f (d.run h s).1).run h (d.run h s).2 := by
  induction d generalizing s with
  | done a => rfl
  | ask q next ih => simp [ih]

/-- Answers each question by a dialogue over other questions. -/
def expand {Q' : Type} {A' : Q' → Type} (answer : (q : Q) → Dialogue Q' A' (A q)) :
    Dialogue Q A α → Dialogue Q' A' α
  | .done a => .done a
  | .ask q next => answer q >>= fun r => expand answer (next r)

end Dialogue

end TableAccess
