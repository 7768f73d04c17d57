/-
**What is true however the questions are answered.**

A dialogue leaves open who answers.  A statement about it that is to hold under every answerer of
some kind needs only to know which answers that kind may give, and what they do to a state.

Main definitions:

* `Dialogue.Answers` — which answers may be given in a state, and the state after them;
* `Dialogue.Ensures` — the dialogue ends as a postcondition says, whichever of these are given.

Main results:

* `Dialogue.ensures_bind` — sequences are settled one part after the other;
* `Dialogue.Ensures.run` — what is ensured holds of every run with such an answerer.
-/
import TableAccess.Dialogue

set_option relaxedAutoImplicit false
set_option autoImplicit false

namespace TableAccess

namespace Dialogue

variable {Q : Type} {A : Q → Type} {α β σ : Type}

/-- Which answers may be given to a question in a state, and the state after them. -/
abbrev Answers (Q : Type) (A : Q → Type) (σ : Type) := (q : Q) → σ → A q → σ → Prop

/-- Whichever of the answers are given, the dialogue ends as the postcondition says. -/
def Ensures (may : Answers Q A σ) (post : α → σ → Prop) : Dialogue Q A α → σ → Prop
  | .done a, s => post a s
  | .ask q next, s => ∀ r s', may q s r s' → Ensures may post (next r) s'

variable {may : Answers Q A σ} {post : α → σ → Prop} {s : σ}

@[simp] theorem ensures_done (a : α) : (.done a : Dialogue Q A α).Ensures may post s ↔ post a s :=
  Iff.rfl

theorem Ensures.mono {post' : α → σ → Prop} {d : Dialogue Q A α} (h : d.Ensures may post s)
    (hpost : ∀ a s, post a s → post' a s) : d.Ensures may post' s := by
  induction d generalizing s with
  | done a => exact hpost a s h
  | ask q next ih => exact fun r s' hr => ih r (h r s' hr)

/-- **A sequence is settled one part after the other.** -/
theorem ensures_bind {d : Dialogue Q A α} {f : α → Dialogue Q A β} {post : β → σ → Prop} :
    (d >>= f).Ensures may post s ↔ d.Ensures may (fun a s' => (f a).Ensures may post s') s := by
  induction d generalizing s with
  | done a => rfl
  | ask q next ih => exact forall_congr' fun r => forall₂_congr fun _ _ => ih r

/-- **What is ensured holds of every run** with someone who gives only these answers. -/
theorem Ensures.run {h : Handler Q A σ} (hmay : ∀ q s, may q s (h q s).1 (h q s).2)
    {d : Dialogue Q A α} (hd : d.Ensures may post s) : post (d.run h s).1 (d.run h s).2 := by
  induction d generalizing s with
  | done a => exact hd
  | ask q next ih => exact ih _ (hd _ _ (hmay q s))

/-- The same for someone whose state says more than is spoken of. -/
theorem Ensures.run_map {τ : Type} {h : Handler Q A τ} (f : τ → σ)
    (hmay : ∀ q t, may q (f t) (h q t).1 (f (h q t).2)) {d : Dialogue Q A α} {t : τ}
    (hd : d.Ensures may post (f t)) : post (d.run h t).1 (f (d.run h t).2) := by
  induction d generalizing t with
  | done a => exact hd
  | ask q next ih => exact ih _ (hd _ _ (hmay q t))

end Dialogue

end TableAccess
