/-
**Reading what was written.**

A reader keeps track of the place it has reached, for the faults it may report.  Of a text without
faults only the characters matter, so that here the place is left out: a reader takes a value from
the front of a text and leaves the rest.  Whoever puts readers together puts such steps together.

Main definitions:

* `Json.Reader.Reads` — a reader takes a value and leaves the rest, wherever the text stands;
* `Json.Closes` — what may follow a value inside a list or an object, or at the end of a text.

Main results:

* `Json.Reader.Reads.bind` — steps one after the other;
* `Json.reads_text` — **a quoted text is read back**, whatever its characters are;
* `Json.reads_number` — **so is a number of digits** where a value may end.
-/
import TableAccess.Json.Layout
import TableAccess.Proofs.Numerals

set_option relaxedAutoImplicit false
set_option autoImplicit false

namespace TableAccess

namespace Json

open Utf8 (Piece ofString)

/-! ### Steps of a reader -/

/-- A reader takes a value from the front of a text and leaves the rest, wherever the text
stands. -/
def Reader.Reads {α : Type} (r : Reader α) (xs : List Piece) (a : α) (ys : List Piece) : Prop :=
  ∀ p, ∃ q, r ⟨xs, p⟩ = .ok (a, ⟨ys, q⟩)

namespace Reader

variable {α β : Type} {xs ys zs : List Piece} {a : α} {b : β} {c : Char}

theorem Reads.pure (a : α) (xs : List Piece) : (pure a : Reader α).Reads xs a xs :=
  fun p => ⟨p, rfl⟩

theorem Reads.bind {r : Reader α} {k : α → Reader β} (h : r.Reads xs a ys)
    (h' : (k a).Reads ys b zs) : (r >>= k).Reads xs b zs := by
  intro p
  obtain ⟨q, hq⟩ := h p
  obtain ⟨q', hq'⟩ := h' q
  refine ⟨q', ?_⟩
  change StateT.bind r k ⟨xs, p⟩ = _
  rw [StateT.bind, hq]
  exact hq'

theorem Reads.get {k : Cursor → Reader β} (h : ∀ p, (k ⟨xs, p⟩).Reads xs b ys) :
    (MonadState.get >>= k : Reader β).Reads xs b ys := by
  intro p
  exact h p p

theorem Reads.eat (x : Piece) (xs : List Piece) : Reader.eat.Reads (x :: xs) () xs :=
  fun _ => ⟨_, rfl⟩

/-- A value begins where no blank stands. -/
theorem Reads.peekAfterBlanks (h : isJsonBlank (.char c) = false) (xs : List Piece) :
    Reader.peekAfterBlanks.Reads (.char c :: xs) (some c) (.char c :: xs) := by
  intro p
  refine ⟨p, ?_⟩
  have hskip : (Cursor.mk (.char c :: xs) p).skipBlanks = ⟨.char c :: xs, p⟩ := by
    simp [Cursor.skipBlanks, afterBlanks, h]
  change Except.ok ((Cursor.skipBlanks ⟨.char c :: xs, p⟩).peek?,
    Cursor.skipBlanks ⟨.char c :: xs, p⟩) = _
  rw [hskip]
  rfl

theorem Reads.valueStart (h : isJsonBlank (.char c) = false) (xs : List Piece) :
    Json.valueStart.Reads (.char c :: xs) (some c) (.char c :: xs) :=
  (Reads.peekAfterBlanks h xs).bind (Reads.get fun _ => .pure _ _)

theorem Reads.word (cs : List Char) (xs : List Piece) :
    (Reader.word cs).Reads (cs.map .char ++ xs) () xs := by
  induction cs with
  | nil => exact .pure () xs
  | cons c cs ih =>
      refine Reads.get fun p => ?_
      have hpeek : (Cursor.mk ((c :: cs).map .char ++ xs) p).peek? = some c := rfl
      rw [if_neg (by simp [Cursor.atEnd]), if_pos hpeek]
      exact (Reads.eat _ _).bind ih

end Reader

open Reader

/-! ### Quoted texts -/

/-- A letter after the backslash stands for a character. -/
theorem reads_letterEscape {a b : Char} (ha : a ≠ 'u') (h : letterEscape? a = some b)
    (xs : List Piece) : escape.Reads (.char a :: xs) b xs := by
  refine Reads.get fun p => ?_
  have hpeek : (Cursor.mk (.char a :: xs) p).peek? = some a := rfl
  rw [if_neg (by simp [Cursor.atEnd]), hpeek]
  split
  · next heq => exact absurd (Option.some.inj heq) ha
  · next heq =>
      cases heq
      rw [h]
      exact (Reads.eat _ _).bind (.pure _ _)
  · next heq => cases heq

/-- The control characters are written with four hexadecimal digits, of which the first two are
zeros. -/
theorem toList_hexPadded_control {n : Nat} (hn : n < 0x20) :
    (Numeral.hexPadded 4 n).toList =
      ['0', '0', Nat.digitChar (n / 16), Nat.digitChar (n % 16)] := by
  have hall : ∀ n < 0x20, (Numeral.hexPadded 4 n).toList =
      ['0', '0', Nat.digitChar (n / 16), Nat.digitChar (n % 16)] := by decide
  exact hall n hn

theorem hexDigit?_digitChar {d : Nat} (hd : d < 16) :
    Numeral.hexDigit? (Nat.digitChar d) = some d := by
  have hall : ∀ d < 16, Numeral.hexDigit? (Nat.digitChar d) = some d := by decide
  exact hall d hd

/-- An escape by number is read back. -/
theorem reads_unicodeEscape {n : Nat} (hn : n < 0x20) (xs : List Piece) :
    unicodeEscape.Reads ((Numeral.hexPadded 4 n).toList.map .char ++ xs) (Char.ofNat n) xs := by
  have hhigh := hexDigit?_digitChar (d := n / 16) (by omega)
  have hlow := hexDigit?_digitChar (d := n % 16) (by omega)
  have hzero : Numeral.hexDigit? '0' = some 0 := by decide
  have hhex : hex4.Reads ((Numeral.hexPadded 4 n).toList.map .char ++ xs) n xs := by
    intro p
    refine ⟨⟨p.line, p.column + 4⟩, ?_⟩
    have hvalue : ((0 * 16 + 0) * 16 + n / 16) * 16 + n % 16 = n := by omega
    have hdigits : hex4? ((Numeral.hexPadded 4 n).toList.map .char ++ xs) = some (n, xs) := by
      rw [toList_hexPadded_control hn]
      simp [hex4?, hzero, hhigh, hlow]
      omega
    rw [hex4, hdigits]
  refine hhex.bind ?_
  rw [if_neg (by omega), if_pos (by omega)]
  exact .pure _ _

/-- **A character stands for itself between quotes, or is escaped** by something that is read
back. -/
theorem escapeChar_cases (c : Char) :
    (escapeChar c = [c] ∧ c ≠ '"' ∧ c ≠ '\\' ∧ isControl c = false) ∨
    ∃ cs, escapeChar c = '\\' :: cs ∧ ∀ xs, escape.Reads (cs.map .char ++ xs) c xs := by
  unfold escapeChar
  split
  · next h => exact .inr ⟨['"'], rfl, reads_letterEscape (by decide) (congrArg some h.symm)⟩
  split
  · next h => exact .inr ⟨['\\'], rfl, reads_letterEscape (by decide) (congrArg some h.symm)⟩
  split
  · next h => exact .inr ⟨['n'], rfl, reads_letterEscape (by decide) (congrArg some h.symm)⟩
  split
  · next h => exact .inr ⟨['r'], rfl, reads_letterEscape (by decide) (congrArg some h.symm)⟩
  split
  · next h => exact .inr ⟨['t'], rfl, reads_letterEscape (by decide) (congrArg some h.symm)⟩
  split
  · next h => exact .inr ⟨['b'], rfl, reads_letterEscape (by decide) (congrArg some h.symm)⟩
  split
  · next h => exact .inr ⟨['f'], rfl, reads_letterEscape (by decide) (congrArg some h.symm)⟩
  split
  · next hcontrol =>
      refine .inr ⟨'u' :: (Numeral.hexPadded 4 c.toNat).toList, rfl, fun xs => ?_⟩
      have hread := reads_unicodeEscape hcontrol xs
      rw [Char.ofNat_toNat] at hread
      refine Reads.get fun p => ?_
      rw [if_neg (by simp [Cursor.atEnd])]
      exact (Reads.eat _ _).bind hread
  · next hquote hbackslash _ _ _ _ _ hcontrol =>
      exact .inl ⟨rfl, hquote, hbackslash, decide_eq_false hcontrol⟩

section TextFrom

variable {fuel : Nat} {acc : List Char} {xs : List Piece} {p : Place} {c : Char}

theorem textFrom_quote : textFrom (fuel + 1) acc none ⟨.char '"' :: xs, p⟩ =
    .ok (String.ofList acc.reverse, ⟨xs, p.after (.char '"')⟩) := rfl

theorem textFrom_plain (hquote : c ≠ '"') (hbackslash : c ≠ '\\') (hcontrol : isControl c = false) :
    textFrom (fuel + 1) acc none ⟨.char c :: xs, p⟩ =
      textFrom fuel (c :: acc) none ⟨xs, p.after (.char c)⟩ := by
  rw [textFrom]
  dsimp only
  rw [if_neg hquote, if_neg hbackslash, hcontrol]
  rfl

theorem textFrom_escape {k : Cursor}
    (h : escape ⟨xs, p.after (.char '\\')⟩ = .ok (c, k)) :
    textFrom (fuel + 1) acc none ⟨.char '\\' :: xs, p⟩ = textFrom fuel (c :: acc) none k := by
  rw [textFrom]
  dsimp only
  rw [if_neg (by decide), if_pos rfl, Cursor.advance]
  dsimp only
  rw [h]
  rfl

end TextFrom

/-- The characters before the closing quote are read back. -/
theorem reads_textFrom (cs : List Char) (xs : List Piece) {fuel : Nat} (acc : List Char)
    (hfuel : cs.length < fuel) (p : Place) :
    ∃ q, textFrom fuel acc none ⟨(cs.flatMap escapeChar ++ ['"']).map .char ++ xs, p⟩ =
      .ok (String.ofList (acc.reverse ++ cs), ⟨xs, q⟩) := by
  induction cs generalizing fuel acc p with
  | nil =>
      obtain ⟨fuel, rfl⟩ : ∃ n, fuel = n + 1 := ⟨fuel - 1, by simp at hfuel; omega⟩
      rw [List.append_nil]
      exact ⟨_, textFrom_quote⟩
  | cons c cs ih =>
      obtain ⟨fuel, rfl⟩ : ∃ n, fuel = n + 1 := ⟨fuel - 1, by simp at hfuel; omega⟩
      have hlt : cs.length < fuel := by simpa using hfuel
      have hacc : (c :: acc).reverse ++ cs = acc.reverse ++ c :: cs := by simp
      -- one turn takes the character in either form, and the rest is as before
      obtain ⟨hself, hquote, hbackslash, hcontrol⟩ | ⟨ds, hescaped, hread⟩ := escapeChar_cases c
      · obtain ⟨q, hq⟩ := ih (c :: acc) hlt (p.after (.char c))
        rw [hacc] at hq
        refine ⟨q, ?_⟩
        rw [List.flatMap_cons, hself]
        exact (textFrom_plain hquote hbackslash hcontrol).trans hq
      · obtain ⟨p', hp'⟩ := hread ((cs.flatMap escapeChar ++ ['"']).map .char ++ xs)
          (p.after (.char '\\'))
        obtain ⟨q, hq⟩ := ih (c :: acc) hlt p'
        rw [hacc] at hq
        refine ⟨q, ?_⟩
        rw [List.flatMap_cons, hescaped, List.append_assoc, List.cons_append, List.map_cons,
          List.cons_append, List.map_append, List.append_assoc]
        exact (textFrom_escape hp').trans hq

/-- Escaping does not make a text shorter. -/
theorem length_le_flatMap_escapeChar (cs : List Char) :
    cs.length ≤ (cs.flatMap escapeChar).length := by
  induction cs with
  | nil => exact Nat.le_refl _
  | cons c cs ih =>
      have hpos : 1 ≤ (escapeChar c).length := by
        obtain ⟨hself, -⟩ | ⟨ds, hescaped, -⟩ := escapeChar_cases c
        · simp [hself]
        · simp [hescaped]
      rw [List.flatMap_cons, List.length_append, List.length_cons]
      omega

/-- The text of the format with the given characters between quotes, as it is passed to readers. -/
theorem ofString_quote (s : String) :
    ofString (quote s) = .char '"' :: (s.toList.flatMap escapeChar ++ ['"']).map .char := by
  simp [ofString, quote, quoteChars]

/-- **A quoted text is read back**, whatever its characters are. -/
theorem reads_text (s : String) (xs : List Piece) :
    key.Reads (ofString (quote s) ++ xs) s xs := by
  rw [ofString_quote]
  refine (Reads.eat _ _).bind fun p => ?_
  have hfuel : s.toList.length <
      ((s.toList.flatMap escapeChar ++ ['"']).map Piece.char ++ xs).length + 1 := by
    have hle := length_le_flatMap_escapeChar s.toList
    rw [List.length_append, List.length_map, List.length_append]
    omega
  obtain ⟨q, hq⟩ := reads_textFrom s.toList xs [] hfuel p
  rw [List.reverse_nil, List.nil_append, String.ofList_toList] at hq
  exact ⟨q, hq⟩

/-! ### Integers -/

/-- What may follow a value: the end of the text, or what closes or separates items and fields. -/
def Closes (xs : List Piece) : Prop :=
  xs = [] ∨ ∃ c rest, xs = .char c :: rest ∧ (c = ',' ∨ c = ']' ∨ c = '\x7d')

theorem closes_nil : Closes [] := .inl rfl

theorem closes_cons {c : Char} (h : c = ',' ∨ c = ']' ∨ c = '\x7d') (xs : List Piece) :
    Closes (.char c :: xs) :=
  .inr ⟨c, xs, rfl, h⟩

/-- A number ends where a value may end: neither a digit nor a point nor an exponent follows. -/
theorem Closes.peek {xs : List Piece} (h : Closes xs) (p : Place) :
    (Cursor.mk xs p).digit? = none ∧ (Cursor.mk xs p).peek? ≠ some '.' ∧
      atExponent ⟨xs, p⟩ = false := by
  obtain rfl | ⟨c, rest, rfl, rfl | rfl | rfl⟩ := h <;>
    simp [Cursor.digit?, Cursor.peek?, atExponent, Numeral.digit?]

/-- Digits are taken to their end as long as the number stays exact. -/
theorem reads_exactDigits {cs : List Char} (hcs : ∀ c ∈ cs, c.isDigit = true) {xs : List Piece}
    (hxs : Closes xs) {fuel n : Nat} (hfuel : cs.length ≤ fuel)
    (hle : Nat.ofDigitChars 10 cs n ≤ largestDigits) (p : Place) :
    ∃ q, exactDigits fuel n ⟨cs.map .char ++ xs, p⟩ =
      ((Nat.ofDigitChars 10 cs n, false), ⟨xs, q⟩) := by
  induction cs generalizing fuel n p with
  | nil =>
      refine ⟨p, ?_⟩
      cases fuel with
      | zero => rfl
      | succ fuel =>
          rw [exactDigits, List.map_nil, List.nil_append, (hxs.peek p).1]
          rfl
  | cons c cs ih =>
      obtain ⟨fuel, rfl⟩ : ∃ m, fuel = m + 1 := ⟨fuel - 1, by simp at hfuel; omega⟩
      rw [Nat.ofDigitChars_cons] at hle ⊢
      have hvalue : n * 10 + (c.toNat - '0'.toNat) = 10 * n + (c.toNat - '0'.toNat) := by omega
      have hstep : 10 * n + (c.toNat - '0'.toNat) ≤ largestDigits :=
        Nat.le_trans (Numeral.le_ofDigitChars _ cs) hle
      obtain ⟨q, hq⟩ := ih (fun d hd => hcs d (List.mem_cons_of_mem _ hd))
        (by simpa using hfuel) hle (p.after (.char c))
      have hdigit : (Cursor.mk ((c :: cs).map .char ++ xs) p).digit? =
          some (c.toNat - '0'.toNat) := Numeral.digit?_of_isDigit (hcs c (List.mem_cons_self ..))
      refine ⟨q, ?_⟩
      rw [exactDigits, hdigit]
      dsimp only
      rw [hvalue, if_pos hstep]
      exact hq

theorem reads_numberTail {positive : Bool} {digits : Nat} {start : Int} {plain : Reader Number}
    {n : Number} {xs : List Piece} (hxs : Closes xs) (hplain : plain.Reads xs n xs) :
    (numberTail positive digits start plain).Reads xs n xs := by
  refine Reads.get fun p => ?_
  obtain ⟨-, hpoint, hexponent⟩ := hxs.peek p
  rw [if_neg hpoint, hexponent]
  exact hplain

/-- **A number of digits is read back** where a value may end. -/
theorem reads_number (positive : Bool) {n : Nat} (hn : n ≤ largestDigits) {xs : List Piece}
    (hxs : Closes xs) :
    (number positive).Reads ((Numeral.digits n).map .char ++ xs) (wholeNumber positive n) xs := by
  by_cases hzero : n = 0
  · -- a zero stands alone
    subst hzero
    refine Reads.get fun p => ?_
    refine (Reads.eat _ xs).bind (Reads.get fun q => ?_)
    rw [if_neg (by simp [(hxs.peek q).1])]
    exact reads_numberTail hxs (.pure _ _)
  · obtain ⟨c, cs, hcs, d, hd⟩ := Numeral.exists_digits_eq_cons hzero
    have hdigits : ∀ e ∈ c :: cs, e.isDigit = true := by
      intro e he
      rw [← hcs] at he
      exact Numeral.isDigit_of_mem_digits he
    have hvalue : Nat.ofDigitChars 10 (c :: cs) 0 = n := by
      rw [← hcs, Numeral.digits, Nat.ofDigitChars_ten_toDigits]
    have htake : (takeExact 0).Reads ((c :: cs).map .char ++ xs) (n, false) xs := by
      intro p
      have hfuel : (c :: cs).length ≤ ((c :: cs).map Piece.char ++ xs).length := by simp
      obtain ⟨q, hq⟩ := reads_exactDigits hdigits hxs hfuel (hvalue.symm ▸ hn) p
      rw [hvalue] at hq
      exact ⟨q, congrArg Except.ok hq⟩
    rw [hcs]
    refine Reads.get fun p => ?_
    rw [if_neg (by simp [Cursor.atEnd])]
    have hdigit : (Cursor.mk ((c :: cs).map .char ++ xs) p).digit? = some (d + 1) := hd
    rw [hdigit]
    exact htake.bind (reads_numberTail hxs (.pure _ _))

end Json

end TableAccess
