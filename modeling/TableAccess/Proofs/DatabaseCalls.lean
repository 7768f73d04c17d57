/-
**Operations over a database.**

An operation asks the store, and over a database each of its requests is answered by commands and
what is replied to them.  What is true of an operation whatever is replied is said of the
transcripts of its requests.

Main definitions:

* `overDatabase` — an operation whose requests are answered over a database;
* `Site.record` — the replies on a site, with the transcripts.

Main results:

* `Site.overDatabase_record` — an operation on a site is one over a database;
* `ensures_store`, `ensures_now` — an operation opened at its first call.
-/
import TableAccess.Database.Playback
import TableAccess.Proofs.Dialogues
import TableAccess.Proofs.Transcripts

set_option relaxedAutoImplicit false
set_option autoImplicit false

namespace TableAccess

namespace Database

/-- The requests of an operation are answered over a database, each with a transcript of its own;
the clock and the draw of keys are left open. -/
def overDatabase : Dialogue.Answers Call Call.Reply (List (List Turn))
  | .store r, tss, a, tss' => ∃ ts, (answer r).Held ts a ∧ tss' = tss ++ [ts]
  | _, tss, _, tss' => tss' = tss

/-- The replies on a site, with the transcripts of the requests. -/
def Site.record : Dialogue.Handler Call Call.Reply (Site × List (List Turn)) := fun c x =>
  match c with
  | .store r =>
      ((x.1.answer r).1, (x.1.answer r).2,
        x.2 ++ [(Database.answer r).turns Playback.reply x.1.playback])
  | .now => (x.1.clock, x)
  | .newKey =>
      (AccessKey.ofRandom (x.1.random x.1.drawn), { x.1 with drawn := x.1.drawn + 1 }, x.2)
  | .elapsed => (0, x)

/-- An operation on a site is one over a database. -/
theorem Site.overDatabase_record (c : Call) (x : Site × List (List Turn)) :
    overDatabase c x.2 (Site.record c x).1 (Site.record c x).2.2 := by
  cases c with
  | store r => exact ⟨_, Dialogue.held_run Playback.reply (Database.answer r) x.1.playback, rfl⟩
  | _ => rfl

variable {β : Type} {tss : List (List Turn)}

theorem ensures_store {r : Request} {next : r.Answer → Calls β}
    {post : β → List (List Turn) → Prop} :
    (Dialogue.ask (.store r) next : Calls β).Ensures overDatabase post tss ↔
      ∀ ts a, (answer r).Held ts a → (next a).Ensures overDatabase post (tss ++ [ts]) := by
  constructor
  · intro h ts a hts
    exact h a _ ⟨ts, hts, rfl⟩
  · rintro h a _ ⟨ts, hts, rfl⟩
    exact h ts a hts

theorem ensures_now {next : Instant → Calls β} {post : β → List (List Turn) → Prop} :
    (Dialogue.ask .now next : Calls β).Ensures overDatabase post tss ↔
      ∀ t, (next t).Ensures overDatabase post tss := by
  constructor
  · intro h t
    exact h t tss rfl
  · rintro h t _ rfl
    exact h t

end Database

end TableAccess
