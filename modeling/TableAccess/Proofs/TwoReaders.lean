/-
**Two readers over one text.**

Two readers may take different things from the same text.  They go together when they stop at the
same place whenever both of them take something, and what they take is related.  What succeeds one
step after the other goes together if each of its steps does, so two readers of the same format are
compared step by step; neither has to accept what the other accepts.

Main definitions:

* `Json.Reader.Together` — two readers stop at the same place, with related values;
* `Json.Next` — what comes next in a list or an object.

Main results:

* `Json.Reader.Together.bind` — **two readers go together step by step**;
* `Json.Next.unique` — only one thing comes next.
-/
import TableAccess.AppError
import TableAccess.Proofs.ReadValues

set_option relaxedAutoImplicit false
set_option autoImplicit false

namespace TableAccess

namespace Json

open Utf8 (Piece)
open Reader

/-! ### Two readers -/

/-- Whenever two readers both take something at a place, they stop at the same place, and what they
took is related. -/
def Reader.TogetherAt {α β : Type} (c : Cursor) (r : Reader α) (s : Reader β) (R : α → β → Prop) :
    Prop :=
  ∀ a c₁ b c₂, r c = .ok (a, c₁) → s c = .ok (b, c₂) → c₁ = c₂ ∧ R a b

/-- The same at every place. -/
def Reader.Together {α β : Type} (r : Reader α) (s : Reader β) (R : α → β → Prop) : Prop :=
  ∀ c, TogetherAt c r s R

namespace Reader

variable {α β γ δ : Type} {c : Cursor} {R : α → β → Prop} {S : γ → δ → Prop}

theorem Together.pure {a : α} {b : β} (h : R a b) :
    (Pure.pure a : Reader α).Together (Pure.pure b) R := by
  intro c a' c₁ b' c₂ ha hb
  cases ha
  cases hb
  exact ⟨rfl, h⟩

theorem Together.same (r : Reader α) : r.Together r Eq := by
  intro c a c₁ b c₂ ha hb
  cases ha.symm.trans hb
  exact ⟨rfl, rfl⟩

theorem of_bind_eq_ok {r : Reader α} {k : α → Reader β} {b : β} {c' : Cursor}
    (h : (r >>= k) c = .ok (b, c')) : ∃ a d, r c = .ok (a, d) ∧ k a d = .ok (b, c') := by
  obtain ⟨⟨a, d⟩, hr, hk⟩ := Except.of_bind_eq_ok h
  exact ⟨a, d, hr, hk⟩

theorem bind_of_ok {r : Reader α} {k : α → Reader β} {a : α} {d : Cursor} (h : r c = .ok (a, d)) :
    (r >>= k) c = k a d := by
  change StateT.bind r k c = _
  rw [StateT.bind, h]
  rfl

theorem TogetherAt.bind {r : Reader α} {s : Reader β} {k : α → Reader γ} {l : β → Reader δ}
    (h : TogetherAt c r s R) (h' : ∀ a b d, R a b → TogetherAt d (k a) (l b) S) :
    TogetherAt c (r >>= k) (s >>= l) S := by
  intro x c₁ y c₂ hx hy
  obtain ⟨a, d, hr, hk⟩ := of_bind_eq_ok hx
  obtain ⟨b, e, hs, hl⟩ := of_bind_eq_ok hy
  obtain ⟨rfl, hab⟩ := h a d b e hr hs
  exact h' a b d hab x c₁ y c₂ hk hl

theorem Together.bind {r : Reader α} {s : Reader β} {k : α → Reader γ} {l : β → Reader δ}
    (h : r.Together s R) (h' : ∀ a b, R a b → (k a).Together (l b) S) :
    (r >>= k).Together (s >>= l) S :=
  fun c => (h c).bind fun a b d hab => h' a b hab d

theorem Together.map {r : Reader α} {s : Reader β} (h : r.Together s R) {f : β → δ}
    {S : α → δ → Prop} (hf : ∀ a b, R a b → S a (f b)) :
    r.Together (s >>= fun b => Pure.pure (f b)) S := by
  intro c a c₁ b c₂ ha hb
  obtain ⟨b', d, hs, hpure⟩ := of_bind_eq_ok hb
  cases hpure
  obtain ⟨hc, hab⟩ := h c a c₁ b' c₂ ha hs
  exact ⟨hc, hf a b' hab⟩

/-- What is read of a whole text is followed by blanks only. -/
theorem run_eq_ok_iff {r : Reader α} {text : List Piece} {a : α} :
    r.run text = .ok a ↔ ∃ c, r (Cursor.start text) = .ok (a, c) ∧ c.skipBlanks.atEnd = true := by
  rw [Reader.run]
  cases r (Cursor.start text) with
  | error f => simp
  | ok x =>
      obtain ⟨b, d⟩ := x
      dsimp only
      by_cases hend : d.skipBlanks.atEnd = true
      · rw [if_pos hend]
        constructor
        · intro h
          cases h
          exact ⟨d, rfl, hend⟩
        · rintro ⟨c, h, -⟩
          cases h
          rfl
      · rw [if_neg hend]
        constructor
        · intro h
          cases h
        · rintro ⟨c, h, hc⟩
          cases h
          exact absurd hc hend

/-- What two readers take from a whole text is related. -/
theorem Together.run {r : Reader α} {s : Reader β} (h : r.Together s R) {text : List Piece}
    {a : α} {b : β} (ha : r.run text = .ok a) (hb : s.run text = .ok b) : R a b := by
  obtain ⟨c₁, ha, -⟩ := run_eq_ok_iff.1 ha
  obtain ⟨c₂, hb, -⟩ := run_eq_ok_iff.1 hb
  exact (h _ _ _ _ _ ha hb).2

/-- A reader that takes nothing goes together with any other. -/
theorem Together.of_never_left {r : Reader α} {s : Reader β} (h : r.Yields fun _ => False) :
    r.Together s R :=
  fun c a c₁ _ _ ha _ => (h c a c₁ ha).elim

theorem Together.of_never_right {r : Reader α} {s : Reader β} (h : s.Yields fun _ => False) :
    r.Together s R :=
  fun c _ _ b c₂ _ hb => (h c b c₂ hb).elim

theorem of_inside_eq_ok {r : Reader α} {x : Segment} {p : α × Cursor}
    (h : Reader.inside x r c = .ok p) : r c = .ok p := by
  rw [Reader.inside] at h
  cases hr : r c with
  | error f =>
      rw [hr] at h
      cases h
  | ok q =>
      rw [hr] at h
      exact h

end Reader

/-! ### Steps -/

section Steps

variable {α : Type} (c : Cursor)

@[simp] theorem peekAfterBlanks_bind (k : Option Char → Reader α) :
    (peekAfterBlanks >>= k) c = k c.skipBlanks.peek? c.skipBlanks := rfl

@[simp] theorem get_bind (k : Cursor → Reader α) : (get >>= k : Reader α) c = k c c := rfl

@[simp] theorem eat_bind (k : Unit → Reader α) : (eat >>= k) c = k () c.advance := rfl

end Steps

/-! ### Blanks -/

theorem afterBlanks_afterBlanks (xs : List Piece) (p : Place) :
    afterBlanks (afterBlanks xs p).1 (afterBlanks xs p).2 = afterBlanks xs p := by
  induction xs generalizing p with
  | nil => rfl
  | cons x xs ih =>
      by_cases hx : isJsonBlank x = true
      · rw [afterBlanks, if_pos hx]
        exact ih _
      · rw [afterBlanks, if_neg hx, afterBlanks, if_neg hx]

@[simp] theorem Cursor.skipBlanks_skipBlanks (c : Cursor) :
    c.skipBlanks.skipBlanks = c.skipBlanks :=
  congrArg (fun p : List Piece × Place => Cursor.mk p.1 p.2)
    (afterBlanks_afterBlanks c.rest c.place)

/-! ### Separators -/

/-- What comes next in a list or an object: its closing bracket, its first entry, or a comma and a
later entry.  This is where the bracket or the entry stands. -/
inductive Next (close : Char) (first : Bool) (c : Cursor) : Bool → Cursor → Prop
  | closing (h : c.skipBlanks.peek? = some close) : Next close first c false c.skipBlanks
  | first (h : c.skipBlanks.peek? ≠ some close) (hfirst : first = true) :
      Next close first c true c.skipBlanks
  | later (h : c.skipBlanks.peek? = some ',') (hfirst : first = false) :
      Next close first c true c.skipBlanks.advance.skipBlanks

theorem Next.unique {close : Char} (hclose : close ≠ ',') {first more more' : Bool}
    {c d d' : Cursor} (h : Next close first c more d) (h' : Next close first c more' d') :
    more = more' ∧ d = d' := by
  cases h with
  | closing h =>
      cases h' with
      | closing _ => exact ⟨rfl, rfl⟩
      | first hnot _ => exact absurd h hnot
      | later hcomma _ => exact absurd (Option.some.inj (h.symm.trans hcomma)) hclose
  | first hnot hfirst =>
      cases h' with
      | closing h => exact absurd h hnot
      | first _ _ => exact ⟨rfl, rfl⟩
      | later _ hlater => cases hfirst.symm.trans hlater
  | later hcomma hlater =>
      cases h' with
      | closing h => exact absurd (Option.some.inj (h.symm.trans hcomma)) hclose
      | first _ hfirst => cases hfirst.symm.trans hlater
      | later _ _ => exact ⟨rfl, rfl⟩

theorem next_of_nextItem {first more : Bool} {c d : Cursor}
    (h : nextItem first c = .ok (more, d)) : Next ']' first c more d := by
  simp only [nextItem, peekAfterBlanks_bind, get_bind] at h
  split at h
  · cases h
  split at h
  · next hclose =>
      cases h
      exact .closing hclose
  next hopen =>
  split at h
  · next hfirst =>
      cases h
      exact .first hopen hfirst
  next hlater =>
  split at h
  · next hcomma =>
      simp only [eat_bind, peekAfterBlanks_bind, get_bind] at h
      split at h
      · cases h
      split at h
      · cases h
      · cases h
        exact .later hcomma (by simpa using hlater)
  · cases h

theorem next_of_nextKey {first more : Bool} {c d : Cursor} (h : nextKey first c = .ok (more, d)) :
    Next '\x7d' first c more d := by
  simp only [nextKey, peekAfterBlanks_bind, get_bind] at h
  split at h
  · cases h
  split at h
  · next hclose =>
      cases h
      exact .closing hclose
  next hopen =>
  split at h
  · next hfirst =>
      split at h
      · cases h
        exact .first hopen hfirst
      · cases h
  next hlater =>
  split at h
  · next hcomma =>
      simp only [eat_bind, peekAfterBlanks_bind, get_bind] at h
      split at h
      · cases h
      split at h
      · cases h
        exact .later hcomma (by simpa using hlater)
      split at h
      · cases h
      · cases h
  · cases h

theorem listEnd_closes {c d : Cursor} (h : listEnd c = .ok ((), d)) :
    c.skipBlanks.peek? = some ']' ∧ d = c.skipBlanks.advance := by
  rw [listEnd, peekAfterBlanks_bind] at h
  split at h
  · next hclose =>
      cases h
      exact ⟨hclose, rfl⟩
  split at h
  · simp only [eat_bind, peekAfterBlanks_bind] at h
    split at h
    · cases h
    · cases h
  · cases h

theorem objectEnd_eq {c d : Cursor} (h : objectEnd c = .ok ((), d)) :
    d = c.skipBlanks.advance := by
  simp only [objectEnd, peekAfterBlanks_bind] at h
  split at h
  · cases h
    rfl
  split at h
  · cases h
  · cases h

end Json

end TableAccess
