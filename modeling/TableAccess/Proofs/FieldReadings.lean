/-
**Fields are read as the values that stand there.**

The same text may be read for a field of a known type, or as a value of any kind.  Where both
readings succeed they end at the same place, and the value is the one that is written for the
field: an integer, a truth value, a text, null or something else, a list of such.

Main definitions:

* `Json.Reader.TakesAs` — a reader takes what is there as the value that is written for its result.

Main results:

* `Json.takesAs_integer`, `Json.takesAs_boolean`, `Json.takesAs_string` — single values;
* `Json.takesAs_nullable`, `Json.takesAs_list` — **values that may be absent, and lists**.
-/
import Mathlib.Data.List.Forall2
import TableAccess.Proofs.PassedOver

set_option relaxedAutoImplicit false
set_option autoImplicit false

namespace TableAccess

namespace Json

open Reader

/-! ### Readers of fields -/

/-- A reader takes what is there as a value: whenever the reader of values takes something too, it
stops at the same place, and has taken what is written for the result of the first. -/
def Reader.TakesAs {α : Type} (r : Reader α) (write : α → Json) : Prop :=
  ∀ n, r.Together (value n) fun a v => write a = v

section First

variable {α : Type} {k : Option Char → Reader α} {R : α → Json → Prop}

theorem valueStart_together : valueStart.Together peekAfterBlanks Eq := by
  intro c a c₁ b c₂ hstart hpeek
  rw [valueStart, peekAfterBlanks_bind, get_bind] at hstart
  split at hstart
  · cases hstart
  · cases hstart
    cases hpeek
    exact ⟨rfl, rfl⟩

theorem valueStart_of_peek? {c : Cursor} {a : Char} (h : c.skipBlanks.peek? = some a) :
    valueStart c = .ok (some a, c.skipBlanks) := by
  rw [valueStart, peekAfterBlanks_bind, get_bind, Cursor.atEnd_of_peek? h, h]
  rfl

/-- A reader that looks at the first character of a value is compared with each kind of value. -/
theorem together_of_first (hnone : (k none).Yields fun _ => False)
    (hscalar : ∀ a r, scalar? a = some r → (k (some a)).Together r R)
    (hlist : ∀ n, (k (some '[')).Together
      (do let items ← listOf (value n); pure (.arr items) : Reader Json) R)
    (hobject : ∀ n, (k (some '\x7b')).Together
      (do let fields ← objectOf (value n); pure (.obj fields) : Reader Json) R) (n : Nat) :
    (valueStart >>= k).Together (value n) R := by
  cases n with
  | zero => exact .of_never_right (.failPeek _)
  | succ n =>
      refine valueStart_together.bind ?_
      rintro next _ rfl
      cases next with
      | none => exact .of_never_left hnone
      | some a =>
          dsimp only
          cases ha : scalar? a with
          | some r => exact hscalar a r ha
          | none =>
              dsimp only
              split
              · next hbracket =>
                  subst hbracket
                  split
                  · exact .of_never_right (.failPeek _)
                  · exact hlist n
              split
              · next hbrace =>
                  subst hbrace
                  split
                  · exact .of_never_right (.failPeek _)
                  · exact hobject n
              · exact .of_never_right (.failPeek _)

end First

theorem scalar?_digit {a : Char} (ha : (Numeral.digit? a).isSome = true) :
    scalar? a = some (do let n ← number true; pure n.toJson) := by
  have hne : ∀ b, Numeral.digit? b = none → a ≠ b := by
    rintro b hb rfl
    rw [hb] at ha
    cases ha
  rw [scalar?, if_neg (hne _ rfl), if_neg (hne _ rfl), if_neg (hne _ rfl), if_neg (hne _ rfl),
    if_pos ha]

/-- **An integer** is read as that integer. -/
theorem takesAs_integer : integer.TakesAs .int := by
  have hwhole : ∀ n : Int, Together
      (if Numeral.integer64.admits n then pure n
        else failHere (.invalidValue (Number.whole n).found "i64") : Reader Int)
      (pure (Number.whole n).toJson) fun m v => Json.int m = v := by
    intro n
    split
    · exact .pure rfl
    · exact .of_never_left (.failHere _)
  have hnever : ∀ {β : Type} (k : Number → Reader β),
      ((mismatch "i64" : Reader Number) >>= k).Yields fun _ => False :=
    fun k => (Yields.mismatch (P := fun _ => False) "i64").bind fun _ h => h.elim
  refine together_of_first (hnever _) (fun a r hr => ?_) (fun n => .of_never_left (hnever _))
    (fun n => .of_never_left (hnever _))
  dsimp only
  split
  · next hminus =>
      subst hminus
      cases hr
      refine (Together.same eat).bind fun _ _ _ => (Together.same (number false)).bind ?_
      rintro n _ rfl
      cases n with
      | whole n => exact hwhole n
      | double bits => exact .of_never_left (.failHere _)
  split
  · next hdigit =>
      cases (scalar?_digit hdigit).symm.trans hr
      refine (Together.same (number true)).bind ?_
      rintro n _ rfl
      cases n with
      | whole n => exact hwhole n
      | double bits => exact .of_never_left (.failHere _)
  · exact .of_never_left (hnever _)

theorem takesAs_boolean : boolean.TakesAs .bool := by
  refine together_of_first (.mismatch _) (fun a r hr => ?_) (fun n => .of_never_left (.mismatch _))
    (fun n => .of_never_left (.mismatch _))
  split
  · next htrue =>
      cases htrue
      cases hr
      exact (Together.same eat).bind fun _ _ _ => (Together.same (word _)).bind fun _ _ _ =>
        .pure rfl
  split
  · next hfalse =>
      cases hfalse
      cases hr
      exact (Together.same eat).bind fun _ _ _ => (Together.same (word _)).bind fun _ _ _ =>
        .pure rfl
  · exact .of_never_left (.mismatch _)

theorem takesAs_string : string.TakesAs .str := by
  refine together_of_first (.mismatch _) (fun a r hr => ?_) (fun n => .of_never_left (.mismatch _))
    (fun n => .of_never_left (.mismatch _))
  split
  · next hquote =>
      cases hquote
      cases hr
      refine (Together.same eat).bind fun _ _ _ => (Together.same text).map ?_
      rintro s _ rfl
      rfl
  · exact .of_never_left (.mismatch _)

theorem value_skipBlanks {n : Nat} {c : Cursor} {x : Json × Cursor} (h : value n c = .ok x) :
    value n c.skipBlanks = .ok x := by
  cases n with
  | zero => cases h
  | succ n =>
      rw [value, peekAfterBlanks_bind] at h ⊢
      rwa [Cursor.skipBlanks_skipBlanks]

section Compound

variable {α : Type} {item : Reader α} {write : α → Json}

/-- **Null, or something else**, is read as what it is. -/
theorem takesAs_nullable (hitem : item.TakesAs write) :
    (nullable item).TakesAs (ofOption write) := by
  intro n c a c₁ v c₂ hread hvalue
  rw [nullable, peekAfterBlanks_bind] at hread
  split at hread
  · next hnull =>
      cases n with
      | zero => cases hvalue
      | succ n =>
          rw [value, peekAfterBlanks_bind, hnull] at hvalue
          have hword : (do eat; word ['u', 'l', 'l']; pure none : Reader (Option α)).Together
              (do eat; word ['u', 'l', 'l']; pure .null : Reader Json)
              fun a v => ofOption write a = v :=
            (Together.same eat).bind fun _ _ _ => (Together.same (word _)).bind fun _ _ _ =>
              .pure rfl
          exact hword _ _ _ _ _ hread hvalue
  · obtain ⟨b, d, hsome, hread⟩ := of_bind_eq_ok hread
    cases hread
    exact hitem n _ _ _ _ _ hsome (value_skipBlanks hvalue)

/-- Two readers that go together for one item go together for the items of a list. -/
theorem itemsFrom_together {β : Type} {other : Reader β} {R : α → β → Prop}
    (hitem : item.Together other R) {fuel i : Nat} {acc as : List α} {acc' bs : List β}
    {c d e : Cursor} (hacc : List.Forall₂ R acc acc')
    (has : itemsFrom item fuel i acc c = .ok (as, d))
    (hbs : itemsFrom other fuel i acc' c = .ok (bs, e)) : d = e ∧ List.Forall₂ R as bs := by
  induction fuel generalizing i acc acc' c with
  | zero => cases has
  | succ fuel ih =>
      rw [itemsFrom] at has hbs
      split at has
      · cases has
      · next hnext =>
          rw [hnext] at hbs
          cases has
          cases hbs
          exact ⟨rfl, List.forall₂_reverse_iff.2 hacc⟩
      · next hnext =>
          rw [hnext] at hbs
          dsimp only at hbs
          split at has
          · cases has
          next a c₁ ha =>
          split at hbs
          · cases hbs
          next b c₂ hb =>
          obtain ⟨rfl, hab⟩ := hitem _ _ _ _ _ (of_inside_eq_ok ha) (of_inside_eq_ok hb)
          exact ih (.cons hab hacc) has hbs

theorem listOf_together {β : Type} {other : Reader β} {R : α → β → Prop}
    (hitem : item.Together other R) : (listOf item).Together (listOf other) (List.Forall₂ R) := by
  refine (Together.same eat).bind fun _ _ _ => ?_
  have hitems : Reader.Together (fun c => itemsFrom item (c.rest.length + 1) 0 [] c)
      (fun c => itemsFrom other (c.rest.length + 1) 0 [] c) (List.Forall₂ R) :=
    fun c _ _ _ _ => itemsFrom_together hitem .nil
  exact hitems.bind fun _ _ h => (Together.same listEnd).bind fun _ _ _ => .pure h

/-- **A list** is read as the list of what its items are read as. -/
theorem takesAs_list (hitem : item.TakesAs write) :
    (list item).TakesAs fun as => .arr (as.map write) := by
  refine together_of_first (.mismatch _) (fun a r hr => ?_) (fun n => ?_)
    (fun n => .of_never_left (.mismatch _))
  · split
    · next hbracket =>
        cases hbracket
        cases hr
    · exact .of_never_left (.mismatch _)
  · rw [if_pos rfl]
    refine (listOf_together (hitem n)).map fun as items h => ?_
    have hsame : List.Forall₂ Eq (as.map write) items := List.forall₂_map_left_iff.2 h
    rw [List.forall₂_eq_eq_eq] at hsame
    exact congrArg Json.arr hsame

end Compound

end Json

end TableAccess
