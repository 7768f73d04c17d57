/-
**Typed readers take back what was written.**

A typed reader takes back a value when it reads the compact text of the value wherever a value may
stand: at the end of a text, before a comma, or before a closing bracket.  Lists and records are
taken back when their items and fields are.

Main definitions:

* `Json.Reader.TakesBack` — a reader takes back the compact text of a value;
* `Json.laterItems`, `Json.laterFields` — what is written after a first item, or a first field.

Main results:

* `Json.Reader.TakesBack.run` — what is taken back is read from its own text;
* `Json.takesBack_integer`, `Json.takesBack_string`, `Json.takesBack_boolean` — single values;
* `Json.takesBack_nullable_some`, `Json.takesBack_list` — values that may be absent, and lists;
* `Json.Layout.takesBack_record` — **records, written as the object of their fields in order**.
-/
import TableAccess.Proofs.Reading

set_option relaxedAutoImplicit false
set_option autoImplicit false

namespace TableAccess

namespace Json

open Utf8 (Piece ofString)
open Reader

/-! ### Readers and written values -/

/-- A reader takes back a value: it reads the compact text of the value, which begins with
something that is neither a blank nor a closing bracket, and leaves what follows. -/
structure Reader.TakesBack {α : Type} (r : Reader α) (v : Json) (a : α) : Prop where
  opens : ∃ c cs, v.render.toList = c :: cs ∧ isJsonBlank (.char c) = false ∧ c ≠ ']'
  reads : ∀ xs, Closes xs → r.Reads (ofString v.render ++ xs) a xs

@[simp] theorem ofString_append (s t : String) : ofString (s ++ t) = ofString s ++ ofString t := by
  simp [ofString]

variable {α : Type} {v : Json} {a : α}

/-- **What is taken back is read from its own text.** -/
theorem Reader.TakesBack.run {r : Reader α} (h : r.TakesBack v a) :
    r.run (ofString v.render) = .ok a := by
  obtain ⟨q, hq⟩ := h.reads [] closes_nil ⟨1, 0⟩
  rw [List.append_nil] at hq
  rw [Reader.run, Cursor.start, hq]
  rfl

/-- A reader that makes something of a value takes back what the first reader does. -/
theorem Reader.TakesBack.bind {β : Type} {r : Reader α} {k : α → Reader β} {b : β}
    (h : r.TakesBack v a) (h' : ∀ xs, (k a).Reads xs b xs) : (r >>= k).TakesBack v b :=
  ⟨h.opens, fun xs hxs => (h.reads xs hxs).bind (h' xs)⟩

/-! ### Single values -/

/-- The end of an integer: what was read has to fit 64 bits. -/
theorem reads_fits {n : Int} (hn : Numeral.integer64.admits n = true) (xs : List Piece) :
    (if Numeral.integer64.admits n = true then pure n
      else failHere (.invalidValue (Number.whole n).found "i64") : Reader Int).Reads xs n xs := by
  rw [if_pos hn]
  exact .pure n xs

/-- The digits of a number begin with something that is no blank, no bracket and no sign. -/
theorem exists_first_digit (n : Nat) : ∃ c cs, Numeral.digits n = c :: cs ∧
    c.isDigit = true ∧ isJsonBlank (.char c) = false ∧ c ≠ ']' ∧ c ≠ '-' := by
  obtain ⟨c, cs, hcs⟩ : ∃ c cs, Numeral.digits n = c :: cs :=
    List.exists_cons_of_ne_nil Nat.toDigits_ne_nil
  have hdigit : c.isDigit = true := Numeral.isDigit_of_mem_digits (hcs ▸ List.mem_cons_self ..)
  have hne : ∀ d, d.isDigit = false → c ≠ d := by
    rintro d hd rfl
    exact Bool.false_ne_true (hd.symm.trans hdigit)
  refine ⟨c, cs, hcs, hdigit, ?_, hne _ rfl, hne _ rfl⟩
  simp only [isJsonBlank, Bool.or_eq_false_iff, decide_eq_false_iff_not]
  exact ⟨⟨⟨hne _ rfl, hne _ rfl⟩, hne _ rfl⟩, hne _ rfl⟩

/-- An integer of 64 bits has few enough digits, and is negated from within its bounds. -/
theorem bounds_of_integer64 {n : Int} (hn : Numeral.integer64.admits n = true) :
    -9223372036854775808 ≤ n ∧ n.natAbs ≤ largestDigits := by
  have hlargest : largestDigits = 18446744073709551615 := by decide
  rw [Numeral.Bounds.admits, Bool.and_eq_true, decide_eq_true_eq, decide_eq_true_eq] at hn
  have hbounds : -9223372036854775808 ≤ n ∧ n ≤ 9223372036854775807 := hn
  omega

theorem takesBack_negative {n : Int} (hn : Numeral.integer64.admits n = true) (hneg : n < 0) :
    integer.TakesBack (.int n) n := by
  obtain ⟨hlow, hdigits⟩ := bounds_of_integer64 hn
  have htext : (Json.int n).render.toList = '-' :: Numeral.digits n.natAbs := by
    simp [render, Numeral.write, hneg]
  have hwhole : wholeNumber false n.natAbs = .whole n := by
    have hpow : Nat.pow 2 63 = 9223372036854775808 := by decide
    have hcast : -(n.natAbs : Int) = n := by omega
    rw [wholeNumber, if_neg Bool.false_ne_true, if_pos (by omega), hcast]
  refine ⟨⟨'-', _, htext, by decide, by decide⟩, fun xs hxs => ?_⟩
  have hnumber := reads_number false hdigits hxs
  rw [hwhole] at hnumber
  rw [ofString, htext]
  refine (Reads.valueStart rfl _).bind ?_
  dsimp only
  rw [if_pos rfl]
  exact (Reads.eat _ _).bind (hnumber.bind (reads_fits hn xs))

theorem takesBack_nonnegative {n : Int} (hn : Numeral.integer64.admits n = true)
    (hnonneg : 0 ≤ n) : integer.TakesBack (.int n) n := by
  obtain ⟨-, hdigits⟩ := bounds_of_integer64 hn
  have htext : (Json.int n).render.toList = Numeral.digits n.natAbs := by
    simp [render, Numeral.write, Int.not_lt.2 hnonneg]
  have hwhole : wholeNumber true n.natAbs = .whole n := by
    rw [wholeNumber, if_pos rfl, Int.natAbs_of_nonneg hnonneg]
  obtain ⟨c, cs, hcs, hdigit, hblank, hbracket, hminus⟩ := exists_first_digit n.natAbs
  refine ⟨⟨c, cs, htext.trans hcs, hblank, hbracket⟩, fun xs hxs => ?_⟩
  have hnumber := reads_number true hdigits hxs
  rw [hwhole, hcs] at hnumber
  rw [ofString, htext, hcs]
  refine (Reads.valueStart hblank _).bind ?_
  dsimp only
  rw [if_neg hminus, if_pos (by rw [Numeral.digit?_of_isDigit hdigit]; rfl)]
  exact hnumber.bind (reads_fits hn xs)

/-- **An integer of 64 bits is taken back.** -/
theorem takesBack_integer {n : Int} (hn : Numeral.integer64.admits n = true) :
    integer.TakesBack (.int n) n := by
  by_cases hneg : n < 0
  · exact takesBack_negative hn hneg
  · exact takesBack_nonnegative hn (Int.not_lt.1 hneg)

/-- **A text is taken back.** -/
theorem takesBack_stringFor (expected s : String) : (stringFor expected).TakesBack (.str s) s := by
  have htext : (Json.str s).render.toList = '"' :: (s.toList.flatMap escapeChar ++ ['"']) := by
    simp [render, quote, quoteChars]
  refine ⟨⟨'"', _, htext, by decide, by decide⟩, fun xs _ => ?_⟩
  have hread := reads_text s xs
  rw [ofString_quote] at hread
  rw [ofString, htext]
  refine (Reads.valueStart rfl _).bind ?_
  rw [if_pos rfl]
  exact hread

theorem takesBack_string (s : String) : string.TakesBack (.str s) s :=
  takesBack_stringFor "a string" s

theorem takesBack_parsed {expected s : String} {parse : String → Except String α}
    (h : parse s = .ok a) : (parsed expected parse).TakesBack (.str s) a := by
  refine (takesBack_stringFor expected s).bind fun xs => ?_
  rw [h]
  exact .pure a xs

theorem takesBack_boolean (b : Bool) : boolean.TakesBack (.bool b) b := by
  cases b with
  | true =>
      refine ⟨⟨'t', ['r', 'u', 'e'], by decide, by decide, by decide⟩, fun xs _ => ?_⟩
      refine (Reads.valueStart (c := 't') rfl _).bind ?_
      rw [if_pos rfl]
      exact (Reads.eat _ _).bind ((Reads.word ['r', 'u', 'e'] xs).bind (.pure true xs))
  | false =>
      refine ⟨⟨'f', ['a', 'l', 's', 'e'], by decide, by decide, by decide⟩, fun xs _ => ?_⟩
      refine (Reads.valueStart (c := 'f') rfl _).bind ?_
      rw [if_neg (by decide), if_pos rfl]
      exact (Reads.eat _ _).bind ((Reads.word ['a', 'l', 's', 'e'] xs).bind (.pure false xs))

theorem takesBack_nullable_none (item : Reader α) :
    (nullable item).TakesBack .null none := by
  refine ⟨⟨'n', ['u', 'l', 'l'], by decide, by decide, by decide⟩, fun xs _ => ?_⟩
  refine (Reads.peekAfterBlanks (c := 'n') rfl _).bind ?_
  rw [if_pos rfl]
  exact (Reads.eat _ _).bind ((Reads.word ['u', 'l', 'l'] xs).bind (.pure none xs))

theorem takesBack_nullable_some {item : Reader α} (h : item.TakesBack v a)
    (hnull : v.render.toList.head? ≠ some 'n') : (nullable item).TakesBack v (some a) := by
  refine ⟨h.opens, fun xs hxs => ?_⟩
  obtain ⟨c, cs, hcs, hblank, -⟩ := h.opens
  have hread := h.reads xs hxs
  rw [ofString, hcs] at hread ⊢
  refine (Reads.peekAfterBlanks hblank _).bind ?_
  rw [if_neg]
  · exact hread.bind (.pure (some a) xs)
  · intro hc
    exact hnull (by rw [hcs]; exact hc)

/-! ### Lists -/

theorem Reader.Reads.inside {r : Reader α} {xs ys : List Piece} (h : r.Reads xs a ys)
    (segment : Segment) : (Reader.inside segment r).Reads xs a ys := by
  intro p
  obtain ⟨q, hq⟩ := h p
  refine ⟨q, ?_⟩
  rw [Reader.inside, hq]

/-- The items of a list after its first as they are written, before what follows the list. -/
def laterItems (vs : List Json) (xs : List Piece) : List Piece := ofString (renderItems vs) ++ xs

theorem laterItems_nil (xs : List Piece) : laterItems [] xs = .char ']' :: xs := by
  simp [laterItems, renderItems, ofString]

theorem laterItems_cons (v : Json) (vs : List Json) (xs : List Piece) :
    laterItems (v :: vs) xs = .char ',' :: (ofString v.render ++ laterItems vs xs) := by
  simp only [laterItems, renderItems, ofString_append, List.append_assoc]
  rfl

theorem ofString_render_arr (v : Json) (vs : List Json) (xs : List Piece) :
    ofString (Json.arr (v :: vs)).render ++ xs =
      .char '[' :: (ofString v.render ++ laterItems vs xs) := by
  simp only [laterItems, render, ofString_append, List.append_assoc]
  rfl

/-- What follows an item of a list closes the list or separates the item from the next. -/
theorem closes_laterItems (vs : List Json) (xs : List Piece) : Closes (laterItems vs xs) := by
  cases vs with
  | nil => exact laterItems_nil xs ▸ closes_cons (.inr (.inl rfl)) xs
  | cons v vs => exact laterItems_cons v vs xs ▸ closes_cons (.inl rfl) _

theorem length_lt_laterItems (vs : List Json) (xs : List Piece) :
    vs.length < (laterItems vs xs).length := by
  induction vs with
  | nil => simp [laterItems_nil]
  | cons v vs ih =>
      rw [laterItems_cons, List.length_cons, List.length_cons, List.length_append]
      omega

theorem reads_nextItem_end (first : Bool) (xs : List Piece) :
    (nextItem first).Reads (.char ']' :: xs) false (.char ']' :: xs) := by
  refine (Reads.peekAfterBlanks rfl _).bind (Reads.get fun p => ?_)
  rw [if_neg (by simp [Cursor.atEnd]), if_pos rfl]
  exact .pure _ _

section Items

variable {c : Char} {xs : List Piece} (hblank : isJsonBlank (.char c) = false) (hc : c ≠ ']')

include hblank hc

theorem reads_nextItem_first : (nextItem true).Reads (.char c :: xs) true (.char c :: xs) := by
  refine (Reads.peekAfterBlanks hblank _).bind (Reads.get fun p => ?_)
  rw [if_neg (by simp [Cursor.atEnd]), if_neg (by simpa using hc), if_pos rfl]
  exact .pure _ _

theorem reads_nextItem_next :
    (nextItem false).Reads (.char ',' :: .char c :: xs) true (.char c :: xs) := by
  refine (Reads.peekAfterBlanks rfl _).bind (Reads.get fun p => ?_)
  rw [if_neg (by simp [Cursor.atEnd]), if_neg (by decide), if_neg Bool.false_ne_true, if_pos rfl]
  refine (Reads.eat _ _).bind ((Reads.peekAfterBlanks hblank _).bind (Reads.get fun p => ?_))
  rw [if_neg (by simp [Cursor.atEnd]), if_neg (by simpa using hc)]
  exact .pure _ _

end Items

section List

variable {item : Reader α} {write : α → Json}

theorem itemsFrom_step {i : Nat} {xs ys zs : List Piece} (fuel : Nat) (acc : List α)
    (hnext : (nextItem (i == 0)).Reads xs true ys) (hitem : item.Reads ys a zs) (p : Place) :
    ∃ q, itemsFrom item (fuel + 1) i acc ⟨xs, p⟩ =
      itemsFrom item fuel (i + 1) (a :: acc) ⟨zs, q⟩ := by
  obtain ⟨p', hp'⟩ := hnext p
  obtain ⟨q, hq⟩ := hitem.inside (.index i) p'
  refine ⟨q, ?_⟩
  rw [itemsFrom, hp']
  dsimp only
  rw [hq]

theorem itemsFrom_end {i fuel : Nat} {acc : List α} {xs ys : List Piece}
    (hnext : (nextItem (i == 0)).Reads xs false ys) (p : Place) :
    ∃ q, itemsFrom item (fuel + 1) i acc ⟨xs, p⟩ = .ok (acc.reverse, ⟨ys, q⟩) := by
  obtain ⟨q, hq⟩ := hnext p
  refine ⟨q, ?_⟩
  rw [itemsFrom, hq]

/-- The items after the first are taken back, up to the closing bracket. -/
theorem reads_itemsFrom {as : List α} (hitems : ∀ a ∈ as, item.TakesBack (write a) a) {i fuel : Nat}
    (acc : List α) (hi : i ≠ 0) (hfuel : as.length < fuel) (xs : List Piece) (p : Place) :
    ∃ q, itemsFrom item fuel i acc ⟨laterItems (as.map write) xs, p⟩ =
      .ok (acc.reverse ++ as, ⟨.char ']' :: xs, q⟩) := by
  have hfirst : (i == 0) = false := by simpa using hi
  induction as generalizing i fuel acc p with
  | nil =>
      obtain ⟨fuel, rfl⟩ : ∃ n, fuel = n + 1 := ⟨fuel - 1, by simp at hfuel; omega⟩
      rw [List.append_nil, List.map_nil, laterItems_nil]
      exact itemsFrom_end (reads_nextItem_end (i == 0) xs) p
  | cons a as ih =>
      obtain ⟨fuel, rfl⟩ : ∃ n, fuel = n + 1 := ⟨fuel - 1, by simp at hfuel; omega⟩
      have hback := hitems a (List.mem_cons_self ..)
      obtain ⟨c, cs, hcs, hblank, hc⟩ := hback.opens
      have hnext : (nextItem (i == 0)).Reads
          (.char ',' :: (ofString (write a).render ++ laterItems (as.map write) xs)) true
          (ofString (write a).render ++ laterItems (as.map write) xs) := by
        rw [hfirst, ofString, hcs]
        exact reads_nextItem_next hblank hc
      obtain ⟨p', hp'⟩ := itemsFrom_step fuel acc hnext
        (hback.reads _ (closes_laterItems _ xs)) p
      obtain ⟨q, hq⟩ := ih (fun b hb => hitems b (List.mem_cons_of_mem _ hb)) (a :: acc)
        (Nat.succ_ne_zero i) (by simpa using hfuel) p' (by simp)
      refine ⟨q, ?_⟩
      rw [List.map_cons, laterItems_cons, hp', hq]
      simp

/-- All items are taken back, from after the opening bracket to before the closing one. -/
theorem reads_items {as : List α} (hitems : ∀ a ∈ as, item.TakesBack (write a) a)
    (xs : List Piece) :
    ∃ ys, ofString (Json.arr (as.map write)).render ++ xs = .char '[' :: ys ∧
      Reader.Reads (fun c => itemsFrom item (c.rest.length + 1) 0 [] c) ys as
        (.char ']' :: xs) := by
  cases as with
  | nil =>
      refine ⟨.char ']' :: xs, by simp [render, ofString], fun p => ?_⟩
      exact itemsFrom_end (reads_nextItem_end true xs) p
  | cons a as =>
      have hback := hitems a (List.mem_cons_self ..)
      obtain ⟨c, cs, hcs, hblank, hc⟩ := hback.opens
      refine ⟨_, ofString_render_arr (write a) (as.map write) xs, fun p => ?_⟩
      have hnext : (nextItem ((0 : Nat) == 0)).Reads
          (ofString (write a).render ++ laterItems (as.map write) xs) true
          (ofString (write a).render ++ laterItems (as.map write) xs) := by
        rw [ofString, hcs]
        exact reads_nextItem_first hblank hc
      have hfuel : as.length <
          (ofString (write a).render ++ laterItems (as.map write) xs).length := by
        have hlength := length_lt_laterItems (as.map write) xs
        rw [List.length_map] at hlength
        rw [List.length_append]
        omega
      obtain ⟨p', hp'⟩ := itemsFrom_step _ _ hnext (hback.reads _ (closes_laterItems _ xs)) p
      obtain ⟨q, hq⟩ := reads_itemsFrom (fun b hb => hitems b (List.mem_cons_of_mem _ hb)) [a]
        Nat.one_ne_zero hfuel xs p'
      exact ⟨q, hp'.trans hq⟩

/-- **A list is taken back** if its items are. -/
theorem takesBack_list {as : List α} (hitems : ∀ a ∈ as, item.TakesBack (write a) a) :
    (list item).TakesBack (.arr (as.map write)) as := by
  have hopens : ∃ cs, (Json.arr (as.map write)).render.toList = '[' :: cs := by
    cases as with
    | nil => exact ⟨[']'], by simp [render]⟩
    | cons a as => exact ⟨_, by simp only [List.map_cons, render, String.toList_append]; rfl⟩
  obtain ⟨cs, hcs⟩ := hopens
  refine ⟨⟨'[', cs, hcs, by decide, by decide⟩, fun xs _ => ?_⟩
  obtain ⟨ys, htext, hread⟩ := reads_items hitems xs
  have hend : listEnd.Reads (.char ']' :: xs) () xs := by
    refine (Reads.peekAfterBlanks rfl _).bind ?_
    rw [if_pos rfl]
    exact Reads.eat _ _
  rw [htext]
  refine (Reads.valueStart rfl _).bind ?_
  rw [if_pos rfl]
  exact (Reads.eat _ _).bind (hread.bind (hend.bind (.pure _ _)))

end List

/-! ### Records -/

theorem reads_nextKey_end (xs : List Piece) :
    (nextKey false).Reads (.char '\x7d' :: xs) false (.char '\x7d' :: xs) := by
  refine (Reads.peekAfterBlanks rfl _).bind (Reads.get fun p => ?_)
  rw [if_neg (by simp [Cursor.atEnd]), if_pos rfl]
  exact .pure _ _

theorem reads_nextKey_first (xs : List Piece) :
    (nextKey true).Reads (.char '"' :: xs) true (.char '"' :: xs) := by
  refine (Reads.peekAfterBlanks rfl _).bind (Reads.get fun p => ?_)
  rw [if_neg (by simp [Cursor.atEnd]), if_neg (by decide), if_pos rfl, if_pos rfl]
  exact .pure _ _

theorem reads_nextKey_next (xs : List Piece) :
    (nextKey false).Reads (.char ',' :: .char '"' :: xs) true (.char '"' :: xs) := by
  refine (Reads.peekAfterBlanks rfl _).bind (Reads.get fun p => ?_)
  rw [if_neg (by simp [Cursor.atEnd]), if_neg (by decide), if_neg Bool.false_ne_true, if_pos rfl]
  refine (Reads.eat _ _).bind ((Reads.peekAfterBlanks rfl _).bind (Reads.get fun p => ?_))
  rw [if_neg (by simp [Cursor.atEnd]), if_pos rfl]
  exact .pure _ _

theorem reads_colon (xs : List Piece) : colon.Reads (.char ':' :: xs) () xs := by
  refine (Reads.peekAfterBlanks rfl _).bind ?_
  rw [if_pos rfl]
  exact Reads.eat _ _

theorem reads_objectEnd (xs : List Piece) : objectEnd.Reads (.char '\x7d' :: xs) () xs := by
  refine (Reads.peekAfterBlanks rfl _).bind ?_
  rw [if_pos rfl]
  exact Reads.eat _ _

/-- A field as it is written, before what follows it. -/
def fieldPieces (name : String) (v : Json) (xs : List Piece) : List Piece :=
  ofString (quote name) ++ .char ':' :: (ofString v.render ++ xs)

theorem fieldPieces_eq_cons (name : String) (v : Json) (xs : List Piece) :
    ∃ ys, fieldPieces name v xs = .char '"' :: ys := by
  rw [fieldPieces, ofString_quote]
  exact ⟨_, rfl⟩

/-- The fields of an object after its first as they are written, before what follows the object. -/
def laterFields (fs : List (String × Json)) (xs : List Piece) : List Piece :=
  ofString (renderFields fs) ++ xs

theorem laterFields_nil (xs : List Piece) : laterFields [] xs = .char '\x7d' :: xs := by
  simp [laterFields, renderFields, ofString]

theorem laterFields_cons (name : String) (v : Json) (fs : List (String × Json)) (xs : List Piece) :
    laterFields ((name, v) :: fs) xs = .char ',' :: fieldPieces name v (laterFields fs xs) := by
  have hcomma : ofString "," = [.char ','] := rfl
  have hcolon : ofString ":" = [.char ':'] := rfl
  simp [laterFields, renderFields, fieldPieces, hcomma, hcolon]

/-- An object begins with its first field. -/
theorem ofString_render_obj (name : String) (v : Json) (fs : List (String × Json))
    (xs : List Piece) :
    ofString (Json.obj ((name, v) :: fs)).render ++ xs =
      .char '\x7b' :: fieldPieces name v (laterFields fs xs) := by
  have hbrace : ofString "\x7b" = [.char '\x7b'] := rfl
  have hcolon : ofString ":" = [.char ':'] := rfl
  simp [laterFields, render, fieldPieces, hbrace, hcolon]

/-- What follows a field of an object closes the object or separates the field from the next. -/
theorem closes_laterFields (fs : List (String × Json)) (xs : List Piece) :
    Closes (laterFields fs xs) := by
  cases fs with
  | nil => exact laterFields_nil xs ▸ closes_cons (.inr (.inr rfl)) xs
  | cons f fs => exact laterFields_cons f.1 f.2 fs xs ▸ closes_cons (.inl rfl) _

theorem length_lt_laterFields (fs : List (String × Json)) (xs : List Piece) :
    fs.length < (laterFields fs xs).length := by
  induction fs with
  | nil => simp [laterFields_nil]
  | cons f fs ih =>
      rw [laterFields_cons f.1 f.2, fieldPieces]
      simp only [List.length_cons, List.length_append]
      omega

namespace Layout

variable {K : Type} [DecidableEq K] (L : Layout K)

variable {L} in
@[simp] theorem Filling.put_self (f : L.Filling) (k : K) (v : L.Value k) :
    f.put k v k = some v := by
  simp [Filling.put]

variable {L} in
theorem Filling.put_of_ne (f : L.Filling) {k j : K} (v : L.Value k) (h : k ≠ j) :
    f.put k v j = f j := by
  simp [Filling.put, h]

section Put

variable {L} {value : (k : K) → L.Value k} {f : L.Filling} {k : K} {ks : List K} (hk : k ∉ ks)

include hk

theorem Filling.put_free {a : L.Value k} (hfree : ∀ j ∈ ks, f j = none) :
    ∀ j ∈ ks, (f.put k a) j = none := by
  intro j hj
  have hne : k ≠ j := by
    rintro rfl
    exact hk hj
  rw [Filling.put_of_ne f _ hne]
  exact hfree j hj

theorem Filling.put_then :
    (fun j => if j ∈ ks then some (value j) else f.put k (value k) j) =
      fun j => if j ∈ k :: ks then some (value j) else f j := by
  funext j
  by_cases hkj : k = j
  · subst hkj
    simp [hk]
  · rw [Filling.put_of_ne f _ hkj]
    simp [List.mem_cons, Ne.symm hkj]

end Put

/-- One turn of reading an object: a known field that was not met before. -/
theorem objectFields_step {first : Bool} {f : L.Filling} {k : K} {v : Json} {a : L.Value k}
    {xs ys : List Piece} (fuel : Nat) (hname : L.field? (L.name k) = some k) (hfree : f k = none)
    (hnext : (nextKey first).Reads xs true (fieldPieces (L.name k) v ys))
    (hread : (L.read k).TakesBack v a) (hys : Closes ys) (p : Place) :
    ∃ q, L.objectFields (fuel + 1) first f ⟨xs, p⟩ =
      L.objectFields fuel false (f.put k a) ⟨ys, q⟩ := by
  have hvalue : (do colon; L.read k : Reader (L.Value k)).Reads
      (.char ':' :: (ofString v.render ++ ys)) a ys := (reads_colon _).bind (hread.reads ys hys)
  obtain ⟨p₁, hp₁⟩ := hnext p
  obtain ⟨p₂, hp₂⟩ := reads_text (L.name k) (.char ':' :: (ofString v.render ++ ys)) p₁
  obtain ⟨p₃, hp₃⟩ := hvalue p₂
  refine ⟨p₃, ?_⟩
  rw [objectFields, hp₁]
  dsimp only
  rw [fieldPieces, hp₂]
  dsimp only
  rw [hname]
  dsimp only
  rw [hfree, if_neg (by simp), hp₃]

theorem objectFields_end {fuel : Nat} {f : L.Filling} (xs : List Piece) (p : Place) :
    ∃ q, L.objectFields (fuel + 1) false f ⟨.char '\x7d' :: xs, p⟩ =
      .ok (f, ⟨.char '\x7d' :: xs, q⟩) := by
  obtain ⟨q, hq⟩ := reads_nextKey_end xs p
  refine ⟨q, ?_⟩
  rw [objectFields, hq]

variable {write : K → Json} {value : (k : K) → L.Value k}

/-- The fields of an object with their names. -/
def named (write : K → Json) (ks : List K) : List (String × Json) :=
  ks.map fun k => (L.name k, write k)

omit [DecidableEq K] in
theorem length_named (ks : List K) : (L.named write ks).length = ks.length := List.length_map _

/-- The fields after the first are taken back, up to the closing brace: those that were written hold
their values, the others what they held before. -/
theorem reads_objectFields {ks : List K} (hnodup : ks.Nodup)
    (hnames : ∀ k ∈ ks, L.field? (L.name k) = some k)
    (hfields : ∀ k ∈ ks, (L.read k).TakesBack (write k) (value k)) {fuel : Nat} (f : L.Filling)
    (hfree : ∀ k ∈ ks, f k = none) (hfuel : ks.length < fuel) (xs : List Piece) (p : Place) :
    ∃ q, L.objectFields fuel false f ⟨laterFields (L.named write ks) xs, p⟩ =
      .ok (fun k => if k ∈ ks then some (value k) else f k, ⟨.char '\x7d' :: xs, q⟩) := by
  induction ks generalizing fuel f p with
  | nil =>
      obtain ⟨fuel, rfl⟩ : ∃ n, fuel = n + 1 := ⟨fuel - 1, by simp at hfuel; omega⟩
      rw [named, List.map_nil, laterFields_nil]
      simpa using L.objectFields_end xs p
  | cons k ks ih =>
      obtain ⟨fuel, rfl⟩ : ∃ n, fuel = n + 1 := ⟨fuel - 1, by simp at hfuel; omega⟩
      obtain ⟨hk, hnodup⟩ := List.nodup_cons.1 hnodup
      have hmem : k ∈ k :: ks := List.mem_cons_self ..
      have hnext : (nextKey false).Reads (laterFields (L.named write (k :: ks)) xs) true
          (fieldPieces (L.name k) (write k) (laterFields (L.named write ks) xs)) := by
        obtain ⟨ys, hys⟩ := fieldPieces_eq_cons (L.name k) (write k)
          (laterFields (L.named write ks) xs)
        rw [named, List.map_cons, laterFields_cons, ← named, hys]
        exact reads_nextKey_next ys
      obtain ⟨p', hp'⟩ := L.objectFields_step fuel (hnames k hmem) (hfree k hmem) hnext
        (hfields k hmem) (closes_laterFields _ xs) p
      obtain ⟨q, hq⟩ := ih hnodup (fun j hj => hnames j (List.mem_cons_of_mem _ hj))
        (fun j hj => hfields j (List.mem_cons_of_mem _ hj)) _
        (Filling.put_free hk fun j hj => hfree j (List.mem_cons_of_mem _ hj))
        (by simpa using hfuel) p'
      rw [Filling.put_then hk] at hq
      exact ⟨q, hp'.trans hq⟩

/-- All fields are taken back, from after the opening brace to before the closing one. -/
theorem reads_fields {k : K} {ks : List K} (hnodup : (k :: ks).Nodup)
    (hall : ∀ j, j ∈ k :: ks) (hnames : ∀ k, L.field? (L.name k) = some k)
    (hfields : ∀ k, (L.read k).TakesBack (write k) (value k)) (xs : List Piece) :
    Reader.Reads (fun c => L.objectFields (c.rest.length + 1) true (Filling.empty L) c)
      (fieldPieces (L.name k) (write k) (laterFields (L.named write ks) xs))
      (fun k => some (value k)) (.char '\x7d' :: xs) := by
  intro p
  obtain ⟨hk, hks⟩ := List.nodup_cons.1 hnodup
  have hnext : (nextKey true).Reads
      (fieldPieces (L.name k) (write k) (laterFields (L.named write ks) xs)) true
      (fieldPieces (L.name k) (write k) (laterFields (L.named write ks) xs)) := by
    obtain ⟨ys, hys⟩ := fieldPieces_eq_cons (L.name k) (write k) (laterFields (L.named write ks) xs)
    rw [hys]
    exact reads_nextKey_first ys
  have hfuel : ks.length <
      (fieldPieces (L.name k) (write k) (laterFields (L.named write ks) xs)).length := by
    have hlength := length_lt_laterFields (L.named write ks) xs
    rw [length_named] at hlength
    simp only [fieldPieces, List.length_append, List.length_cons]
    omega
  have hempty : (Filling.empty L) k = none := rfl
  obtain ⟨p', hp'⟩ := L.objectFields_step _ (hnames k) hempty hnext (hfields k)
    (closes_laterFields _ xs) p
  obtain ⟨q, hq⟩ := L.reads_objectFields hks (fun j _ => hnames j) (fun j _ => hfields j) _
    (Filling.put_free (f := Filling.empty L) hk fun _ _ => rfl) hfuel xs p'
  -- the first field and the others are all there are
  have hfull : (fun j => if j ∈ k :: ks then some (value j) else Filling.empty L j) =
      fun j => some (value j) := by
    funext j
    rw [if_pos (hall j)]
  rw [Filling.put_then hk, hfull] at hq
  exact ⟨q, hp'.trans hq⟩

/-- **A record is taken back** from the object of its fields in order, if its fields are and have
names of their own. -/
theorem takesBack_record (write : K → Json) (value : (k : K) → L.Value k)
    {build : ((k : K) → Except Problem (L.Value k)) → Except Problem α}
    (hnodup : L.order.Nodup) (hall : ∀ k, k ∈ L.order) (hne : L.order ≠ [])
    (hnames : ∀ k, L.field? (L.name k) = some k)
    (hfields : ∀ k, (L.read k).TakesBack (write k) (value k))
    (hbuild : build (fun k => .ok (value k)) = .ok a) :
    (L.record build).TakesBack (.obj (L.order.map fun k => (L.name k, write k))) a := by
  obtain ⟨k, ks, horder⟩ := List.exists_cons_of_ne_nil hne
  have hread := L.reads_fields (horder ▸ hnodup) (fun j => horder ▸ hall j) hnames hfields
  have hresolve : L.resolve (fun k => some (value k)) = fun k => .ok (value k) := rfl
  rw [horder, List.map_cons]
  refine ⟨⟨'\x7b', _, by simp only [render, String.toList_append]; rfl, by decide, by decide⟩, ?_⟩
  intro xs _
  rw [ofString_render_obj]
  refine (Reads.valueStart rfl _).bind ?_
  rw [if_pos rfl]
  refine (Reads.eat _ _).bind ((hread xs).bind ?_)
  rw [hresolve, hbuild]
  exact (reads_objectEnd xs).bind (.pure a xs)

end Layout

end Json

end TableAccess
