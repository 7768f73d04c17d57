/-
**What readers yield.**

A reader may be given any text.  When it takes a value from it, the value has whatever the reader
makes sure of: an integer fits 64 bits, the items of a list and the fields of a record have what
their own readers make sure of, in whichever of its forms the record is written.

Main definitions:

* `Json.Reader.Yields` — whatever a reader takes has a property;
* `Json.Layout.Filling.Holds` — the fields that were read so far have theirs.

Main results:

* `Json.yields_integer`, `Json.yields_list` — what integers and the items of lists have;
* `Json.Layout.yields_record` — **what a record has in either form**.
-/
import TableAccess.Proofs.WrittenValues

set_option relaxedAutoImplicit false
set_option autoImplicit false

namespace TableAccess

namespace Json

open Reader

/-! ### What readers yield -/

/-- Whatever a reader takes has a property. -/
def Reader.Yields {α : Type} (r : Reader α) (P : α → Prop) : Prop :=
  ∀ c a c', r c = .ok (a, c') → P a

namespace Reader.Yields

variable {α β : Type} {P : α → Prop} {Q : β → Prop}

theorem trivial (r : Reader α) : r.Yields fun _ => True := fun _ _ _ _ => True.intro

theorem pure {a : α} (h : P a) : (Pure.pure a : Reader α).Yields P := by
  rintro c b c' hb
  cases hb
  exact h

theorem bind {r : Reader α} {k : α → Reader β} (h : r.Yields P) (h' : ∀ a, P a → (k a).Yields Q) :
    (r >>= k).Yields Q := by
  intro c b c' hb
  change StateT.bind r k c = _ at hb
  rw [StateT.bind] at hb
  cases hr : r c with
  | error f =>
      rw [hr] at hb
      cases hb
  | ok x =>
      rw [hr] at hb
      exact h' x.1 (h c x.1 x.2 hr) _ _ _ hb

theorem last {r : Reader α} {k : α → Reader β} (h : ∀ a, (k a).Yields Q) : (r >>= k).Yields Q :=
  (trivial r).bind fun a _ => h a

/-- What is read from a whole text has the property too. -/
theorem run {r : Reader α} (h : r.Yields P) {text : List Utf8.Piece} {a : α}
    (ha : r.run text = .ok a) : P a := by
  rw [Reader.run] at ha
  cases hr : r (Cursor.start text) with
  | error f =>
      rw [hr] at ha
      cases ha
  | ok x =>
      rw [hr] at ha
      dsimp only at ha
      split at ha
      · cases ha
        exact h _ _ _ hr
      · cases ha

theorem failHere (p : Problem) : (Reader.failHere p : Reader α).Yields P := by
  intro c a c' h
  cases h

theorem failPeek (p : Problem) : (Reader.failPeek p : Reader α).Yields P := by
  intro c a c' h
  cases h

theorem mismatch (expected : String) : (Json.mismatch expected : Reader α).Yields P := by
  refine last fun c => ?_
  split
  · exact failPeek _
  · split
    · exact last fun v => failHere _
    · split
      · exact failHere _
      · split
        · exact failHere _
        · exact failPeek _

theorem inside {r : Reader α} (h : r.Yields P) (segment : Segment) :
    (Reader.inside segment r).Yields P := by
  intro c a c' ha
  rw [Reader.inside] at ha
  cases hr : r c with
  | error f =>
      rw [hr] at ha
      cases ha
  | ok x =>
      rw [hr] at ha
      cases ha
      exact h c _ _ hr

end Reader.Yields

/-- A number that is read is whole, or it is not. -/
theorem Reader.Yields.number {α : Type} {P : α → Prop} {r : Reader Number} {k : Number → Reader α}
    (hwhole : ∀ n, (k (.whole n)).Yields P) (hdouble : ∀ bits, (k (.double bits)).Yields P) :
    (r >>= k).Yields P := by
  refine .last fun n => ?_
  cases n with
  | whole n => exact hwhole n
  | double bits => exact hdouble bits

/-- **An integer that is read fits 64 bits.** -/
theorem yields_integer : integer.Yields fun n => Numeral.integer64.admits n = true := by
  have hwhole : ∀ n, (if Numeral.integer64.admits n then pure n
      else failHere (.invalidValue (Number.whole n).found "i64") : Reader Int).Yields
      fun n => Numeral.integer64.admits n = true := by
    intro n
    split
    · next hn => exact .pure hn
    · exact .failHere _
  refine .last fun next => ?_
  split
  · exact .number hwhole fun _ => .failHere _
  · split
    · exact .last fun _ => .number hwhole fun _ => .failHere _
    · split
      · exact .number hwhole fun _ => .failHere _
      · exact .number hwhole fun _ => .failHere _

section List

variable {α : Type} {item : Reader α} {P : α → Prop}

theorem yields_itemsFrom (h : item.Yields P) {fuel i : Nat} {acc as : List α} {c c' : Cursor}
    (hacc : ∀ a ∈ acc, P a) (has : itemsFrom item fuel i acc c = .ok (as, c')) : ∀ a ∈ as, P a := by
  induction fuel generalizing i acc c with
  | zero => cases has
  | succ fuel ih =>
      rw [itemsFrom] at has
      split at has
      · cases has
      · cases has
        intro a ha
        exact hacc a (List.mem_reverse.1 ha)
      · split at has
        · cases has
        · next a _ hitem =>
            refine ih ?_ has
            intro b hb
            rcases List.mem_cons.1 hb with rfl | hb
            · exact h.inside _ _ _ _ hitem
            · exact hacc b hb

/-- **The items of a list that is read** have what the items have. -/
theorem yields_list (h : item.Yields P) : (list item).Yields fun as => ∀ a ∈ as, P a := by
  have hitems : Reader.Yields (fun c => itemsFrom item (c.rest.length + 1) 0 [] c)
      fun as => ∀ a ∈ as, P a := by
    intro c as c' has
    refine yields_itemsFrom h ?_ has
    intro a ha
    cases ha
  refine .last fun next => ?_
  split
  · refine .last fun _ => hitems.bind fun as has => .last fun _ => .pure has
  · exact .mismatch _

end List

namespace Layout

variable {K : Type} [DecidableEq K] {L : Layout K} {P : (k : K) → L.Value k → Prop}

/-- The fields that were read so far have what their readers yield. -/
def Filling.Holds (f : L.Filling) (P : (k : K) → L.Value k → Prop) : Prop :=
  ∀ k v, f k = some v → P k v

theorem Filling.Holds.put {f : L.Filling} (hf : f.Holds P) {k : K} {v : L.Value k} (hv : P k v) :
    (f.put k v).Holds P := by
  intro j w hw
  by_cases hkj : k = j
  · subst hkj
    rw [Filling.put_self] at hw
    cases hw
    exact hv
  · rw [Filling.put_of_ne f v hkj] at hw
    exact hf j w hw

omit [DecidableEq K] in
theorem Filling.holds_empty : (Filling.empty L).Holds P := by
  intro k v hv
  cases hv

section Fields

variable (hread : ∀ k, (L.read k).Yields (P k))
  (habsent : ∀ k v, L.absent k = .omittable v ∨ L.absent k = .defaulted v → P k v)

omit [DecidableEq K] in
include habsent in
theorem holds_resolve {f : L.Filling} (hf : f.Holds P) {k : K} {v : L.Value k}
    (hv : L.resolve f k = .ok v) : P k v := by
  rw [resolve] at hv
  split at hv
  · next hk =>
      cases hv
      exact hf k _ hk
  · split at hv
    · cases hv
    · next hk =>
        cases hv
        exact habsent k _ (.inl hk)
    · next hk =>
        cases hv
        exact habsent k _ (.inr hk)

include hread

theorem yields_objectFields {fuel : Nat} {first : Bool} {f g : L.Filling} {c c' : Cursor}
    (hf : f.Holds P) (hg : L.objectFields fuel first f c = .ok (g, c')) : g.Holds P := by
  induction fuel generalizing first f c with
  | zero => cases hg
  | succ fuel ih =>
      rw [objectFields] at hg
      split at hg
      · cases hg
      · cases hg
        exact hf
      · split at hg
        · cases hg
        · split at hg
          · split at hg
            · cases hg
            · exact ih hf hg
          · split at hg
            · cases hg
            · split at hg
              · cases hg
              · next hvalue =>
                  refine ih (hf.put ?_) hg
                  exact Reader.Yields.last (fun _ => hread _) _ _ _ hvalue

include habsent

theorem yields_listFields {ks : List K} {i : Nat} {f g : L.Filling} {c c' : Cursor}
    (hf : f.Holds P) (hg : L.listFields ks i f c = .ok (g, c')) : g.Holds P := by
  induction ks generalizing i f c with
  | nil =>
      cases hg
      exact hf
  | cons k ks ih =>
      rw [listFields] at hg
      split at hg
      · cases hg
      · split at hg
        · next v hv => exact ih (hf.put (habsent k v (.inr hv))) hg
        · cases hg
      · split at hg
        · cases hg
        · next hvalue => exact ih (hf.put (hread k _ _ _ hvalue)) hg

/-- **A record that is read**, in either form, has what follows from its fields. -/
theorem yields_record {α : Type} {Q : α → Prop}
    {build : ((k : K) → Except Problem (L.Value k)) → Except Problem α}
    (hbuild : ∀ get a, (∀ k v, get k = .ok v → P k v) → build get = .ok a → Q a) :
    (L.record build).Yields Q := by
  have hobject : Reader.Yields
      (fun c => L.objectFields (c.rest.length + 1) true (Filling.empty L) c) (Filling.Holds · P) :=
    fun _ _ _ => yields_objectFields hread Filling.holds_empty
  have hlist : Reader.Yields
      (fun c => L.listFields L.order 0 (Filling.empty L) c) (Filling.Holds · P) :=
    fun _ _ _ => yields_listFields hread habsent Filling.holds_empty
  refine .last fun next => ?_
  split
  · refine .last fun _ => hobject.bind fun f hf => ?_
    cases hbuilt : build (L.resolve f) with
    | error p =>
        intro c a c' h
        cases h
    | ok a => exact .last fun _ => .pure (hbuild _ a (fun _ _ => holds_resolve habsent hf) hbuilt)
  · split
    · refine .last fun _ => hlist.bind fun f hf => ?_
      cases hbuilt : build (L.resolve f) with
      | error p => exact .failHere _
      | ok a => exact .last fun _ => .pure (hbuild _ a (fun _ _ => holds_resolve habsent hf) hbuilt)
    · exact .mismatch _

end Fields

end Layout

end Json

end TableAccess
