/-
**What is passed over ends where it is read to end.**

A value that nobody asked for is passed over, looked at less closely than one that is read: the
second half of a surrogate pair counts as an escape of its own, a number of any size will do, and
there is no bound on the depth.  Still, a text that is read as a value is passed over to the same
place.  Texts, numbers, lists and objects are compared in turn, and values by induction on the
depth.

Main definitions:

* `Json.Cursor.skipDigits` — the cursor after a run of digits.

Main results:

* `Json.skipText_together`, `Json.skipNumber_together` — texts and numbers;
* `Json.list_together`, `Json.object_together` — lists and objects, if their entries are;
* `Json.skipValue_together`, `Json.ignored_together` — **values**.
-/
import TableAccess.Proofs.TwoReaders

set_option relaxedAutoImplicit false
set_option autoImplicit false

namespace TableAccess

namespace Json

open Utf8 (Piece)
open Reader

/-! ### Texts -/

theorem Cursor.atEnd_of_peek? {c : Cursor} {a : Char} (h : c.peek? = some a) : c.atEnd = false := by
  obtain ⟨xs, p⟩ := c
  cases xs with
  | nil => cases h
  | cons x xs => rfl

theorem escapePart_eq {c d : Cursor} {a : Char} (h : escapePart a c = .ok ((), d)) :
    c.peek? = some a ∧ d = c.advance := by
  simp only [escapePart, get_bind] at h
  split at h
  · cases h
  split at h
  · next hpeek =>
      cases h
      exact ⟨hpeek, rfl⟩
  · cases h

section Escape

variable {c d : Cursor} {a b : Char}

theorem escape_u (hu : c.peek? = some 'u') : escape c = unicodeEscape c.advance := by
  rw [escape, get_bind, if_neg (by simp [c.atEnd_of_peek? hu]), hu]
  rfl

theorem skipEscape_u {n : Nat} (hu : c.peek? = some 'u') (h : hex4 c.advance = .ok (n, d)) :
    skipEscape c = .ok ((), d) := by
  rw [skipEscape, get_bind, if_neg (by simp [c.atEnd_of_peek? hu]), hu]
  change (eat >>= fun _ => hex4 >>= fun _ => pure ()) c = _
  rw [eat_bind, bind_of_ok h]
  rfl

theorem escape_letter (ha : c.peek? = some a) (hu : a ≠ 'u') :
    escape c = (match letterEscape? a with
      | some b => .ok (b, c.advance)
      | none => .error (Problem.invalidEscape.at c.peekPlace)) := by
  rw [escape, get_bind, if_neg (by simp [c.atEnd_of_peek? ha]), ha]
  cases hletter : letterEscape? a <;> simp only [hletter] <;> rfl

theorem skipEscape_letter (ha : c.peek? = some a) (hu : a ≠ 'u')
    (hletter : letterEscape? a = some b) : skipEscape c = .ok ((), c.advance) := by
  rw [skipEscape, get_bind, if_neg (by simp [c.atEnd_of_peek? ha]), ha]
  simp only [hletter]
  rfl

theorem unicodeEscape_cases (h : unicodeEscape c = .ok (a, d)) :
    ∃ n e, hex4 c = .ok (n, e) ∧
      (d = e ∨ e.peek? = some '\\' ∧ skipEscape e.advance = .ok ((), d)) := by
  obtain ⟨n, e, hhex, h⟩ := of_bind_eq_ok h
  refine ⟨n, e, hhex, ?_⟩
  split at h
  · cases h
  split at h
  · cases h
    exact .inl rfl
  · obtain ⟨_, e₁, hbackslash, h⟩ := of_bind_eq_ok h
    obtain ⟨_, e₂, hu, h⟩ := of_bind_eq_ok h
    obtain ⟨m, e₃, hhex', hlow⟩ := of_bind_eq_ok h
    obtain ⟨hpeek, rfl⟩ := escapePart_eq hbackslash
    obtain ⟨hpeek', rfl⟩ := escapePart_eq hu
    split at hlow
    · cases hlow
    · have hd : e₃ = d := congrArg Prod.snd (Except.ok.inj hlow)
      exact .inr ⟨hpeek, hd ▸ skipEscape_u hpeek' hhex'⟩

theorem escape_cases (h : escape c = .ok (a, d)) :
    ∃ e, skipEscape c = .ok ((), e) ∧
      (d = e ∨ e.peek? = some '\\' ∧ skipEscape e.advance = .ok ((), d)) := by
  cases hpeek : c.peek? with
  | none =>
      rw [escape, get_bind, hpeek] at h
      split at h
      · cases h
      · cases h
  | some b =>
      by_cases hu : b = 'u'
      · subst hu
        rw [escape_u hpeek] at h
        obtain ⟨n, e, hhex, hrest⟩ := unicodeEscape_cases h
        exact ⟨e, skipEscape_u hpeek hhex, hrest⟩
      · rw [escape_letter hpeek hu] at h
        split at h
        · next hletter =>
            cases h
            exact ⟨_, skipEscape_letter hpeek hu hletter, .inl rfl⟩
        · cases h

end Escape

theorem skipTextFrom_escape {n : Nat} {c d : Cursor} (hpeek : c.peek? = some '\\')
    (h : skipEscape c.advance = .ok ((), d)) :
    skipTextFrom (n + 1) c = skipTextFrom n d := by
  obtain ⟨xs, p⟩ := c
  rcases xs with _ | ⟨⟨a⟩ | b, xs⟩
  · cases hpeek
  · cases hpeek
    rw [skipTextFrom]
    dsimp only
    rw [if_neg (by decide), if_pos rfl, h]
  · cases hpeek

/-- **A text that is read is passed over to the same place.** -/
theorem textFrom_stops {m : Nat} {acc : List Char} {stray : Option Nat} {c d e : Cursor}
    {s : String} (h : textFrom m acc stray c = .ok (s, d)) {n : Nat}
    (h' : skipTextFrom n c = .ok ((), e)) : d = e := by
  induction m generalizing acc stray c n with
  | zero => cases h
  | succ m ih =>
      cases n with
      | zero => cases h'
      | succ n =>
          unfold textFrom at h
          unfold skipTextFrom at h'
          split at h
          · cases h
          · next a xs hrest =>
              rw [hrest] at h'
              dsimp only at h'
              split at h
              · next hquote =>
                  rw [if_pos hquote] at h'
                  split at h
                  · cases h
                    cases h'
                    rfl
                  · cases h
              next hquote =>
              rw [if_neg hquote] at h'
              split at h
              · next hbackslash =>
                  rw [if_pos hbackslash] at h'
                  split at h
                  · next b d' hescape =>
                      obtain ⟨e', hskip, hend⟩ := escape_cases hescape
                      rw [hskip] at h'
                      dsimp only at h'
                      -- of a pair of escapes, the second is passed over by itself
                      rcases hend with rfl | ⟨hpeek, hskip'⟩
                      · exact ih h h'
                      · cases n with
                        | zero => cases h'
                        | succ n =>
                            rw [skipTextFrom_escape hpeek hskip'] at h'
                            exact ih h h'
                  · cases h
              next hbackslash =>
              rw [if_neg hbackslash] at h'
              split at h
              · cases h
              · next hcontrol =>
                  rw [if_neg hcontrol] at h'
                  exact ih h h'
          · next b xs hrest =>
              rw [hrest] at h'
              exact ih h h'

theorem skipText_together : skipText.Together text fun _ _ => True := by
  intro c a c₁ b c₂ hskip htext
  exact ⟨(textFrom_stops htext hskip).symm, trivial⟩

/-! ### Numbers -/

/-- What is left after leading digits, and the place there. -/
def afterDigits : List Piece → Place → Cursor
  | [], p => ⟨[], p⟩
  | x :: xs, p =>
      if (Cursor.mk (x :: xs) p).digit?.isSome then afterDigits xs (p.after x) else ⟨x :: xs, p⟩

/-- The cursor after leading digits. -/
def Cursor.skipDigits (c : Cursor) : Cursor := afterDigits c.rest c.place

theorem Cursor.skipDigits_of_none {c : Cursor} (h : c.digit? = none) : c.skipDigits = c := by
  obtain ⟨xs, p⟩ := c
  cases xs with
  | nil => rfl
  | cons x xs => rw [skipDigits, afterDigits, h]; rfl

theorem Cursor.skipDigits_of_some {c : Cursor} {n : Nat} (h : c.digit? = some n) :
    c.skipDigits = c.advance.skipDigits := by
  obtain ⟨xs, p⟩ := c
  cases xs with
  | nil => cases h
  | cons x xs => rw [skipDigits, afterDigits, h]; rfl

theorem Cursor.digit?_of_rest_nil {c : Cursor} (h : c.rest.length ≤ 0) : c.digit? = none := by
  obtain ⟨xs, p⟩ := c
  cases xs with
  | nil => rfl
  | cons x xs => simp at h

theorem Cursor.length_advance {c : Cursor} {n fuel : Nat} (h : c.digit? = some n)
    (hfuel : c.rest.length ≤ fuel + 1) : c.advance.rest.length ≤ fuel := by
  obtain ⟨xs, p⟩ := c
  cases xs with
  | nil => cases h
  | cons x xs => simpa [advance] using hfuel

theorem countDigits_snd {fuel n : Nat} {c : Cursor} (hfuel : c.rest.length ≤ fuel) :
    (countDigits fuel n c).2 = c.skipDigits := by
  induction fuel generalizing n c with
  | zero => exact (Cursor.skipDigits_of_none (Cursor.digit?_of_rest_nil hfuel)).symm
  | succ fuel ih =>
      unfold countDigits
      split
      · next hd => exact (Cursor.skipDigits_of_none hd).symm
      · next d hd =>
          rw [Cursor.skipDigits_of_some hd]
          exact ih (Cursor.length_advance hd hfuel)

theorem exactDigits_snd {fuel n k : Nat} {full : Bool} {c d : Cursor}
    (hfuel : c.rest.length ≤ fuel) (h : exactDigits fuel n c = ((k, full), d)) :
    d.skipDigits = c.skipDigits ∧ (full = false → d = c.skipDigits) := by
  induction fuel generalizing n c with
  | zero =>
      cases h
      exact ⟨rfl, fun _ => (Cursor.skipDigits_of_none (Cursor.digit?_of_rest_nil hfuel)).symm⟩
  | succ fuel ih =>
      unfold exactDigits at h
      split at h
      · next hd =>
          cases h
          exact ⟨rfl, fun _ => (Cursor.skipDigits_of_none hd).symm⟩
      · next e hd =>
          split at h
          · rw [Cursor.skipDigits_of_some hd]
            exact ih (Cursor.length_advance hd hfuel) h
          · cases h
            exact ⟨rfl, fun hfull => by cases hfull⟩

theorem exponentDigits_snd {fuel n : Nat} {k : Option Nat} {c d : Cursor}
    (hfuel : c.rest.length ≤ fuel) (h : exponentDigits fuel n c = (k, d)) :
    d.skipDigits = c.skipDigits ∧ (k.isSome = true → d = c.skipDigits) := by
  induction fuel generalizing n c with
  | zero =>
      cases h
      exact ⟨rfl, fun _ => (Cursor.skipDigits_of_none (Cursor.digit?_of_rest_nil hfuel)).symm⟩
  | succ fuel ih =>
      unfold exponentDigits at h
      split at h
      · next hd =>
          cases h
          exact ⟨rfl, fun _ => (Cursor.skipDigits_of_none hd).symm⟩
      · next e hd =>
          rw [Cursor.skipDigits_of_some hd]
          split at h
          · exact ih (Cursor.length_advance hd hfuel) h
          · cases h
            exact ⟨rfl, fun hsome => by cases hsome⟩

theorem takeCount_eq {c d : Cursor} {n : Nat} (h : takeCount c = .ok (n, d)) :
    d = c.skipDigits := by
  have hd : countDigits c.rest.length 0 c = (n, d) := Except.ok.inj h
  rw [← countDigits_snd (n := 0) (Nat.le_refl c.rest.length), hd]

theorem takeExact_cases {c d : Cursor} {n k : Nat} {full : Bool}
    (h : takeExact n c = .ok ((k, full), d)) :
    d.skipDigits = c.skipDigits ∧ (full = false → d = c.skipDigits) :=
  exactDigits_snd (Nat.le_refl _) (Except.ok.inj h)

theorem double_eq {positive : Bool} {digits : Nat} {e : Int} {c d : Cursor} {n : Number}
    (h : double positive digits e c = .ok (n, d)) : d = c := by
  unfold double at h
  cases hscale : scale (e.natAbs / 308 + 2) (Float.ofNat digits) e with
  | none =>
      rw [hscale] at h
      cases h
  | some f =>
      rw [hscale] at h
      cases h
      rfl

theorem exponent_together (positive : Bool) (digits : Nat) (start : Int) :
    skipExponent.Together (exponent positive digits start) fun _ _ => True := by
  refine (Together.same eat).bind fun _ _ _ => (Together.same exponentSign).bind ?_
  rintro up _ rfl c a c₁ b c₂ hskip hread
  rw [get_bind] at hskip hread
  split at hread
  · cases hread
  cases hd : c.digit? with
  | none =>
      rw [hd] at hread
      cases hread
  | some n =>
      rw [hd] at hskip hread
      obtain ⟨_, e, hcount, hskip⟩ := of_bind_eq_ok hskip
      cases hskip
      cases takeCount_eq hcount
      dsimp only at hread
      rw [eat_bind] at hread
      obtain ⟨k, e, hdigits, hread⟩ := of_bind_eq_ok hread
      have hend := exponentDigits_snd (Nat.le_refl _) (Except.ok.inj hdigits)
      rw [← Cursor.skipDigits_of_some hd] at hend
      refine ⟨?_, trivial⟩
      cases k with
      | some k =>
          rw [double_eq hread]
          exact (hend.2 rfl).symm
      | none =>
          dsimp only at hread
          split at hread
          · cases hread
          · obtain ⟨_, e', hcount', hread⟩ := of_bind_eq_ok hread
            cases hread
            rw [takeCount_eq hcount']
            exact hend.1.symm

theorem decimal_together (positive : Bool) (digits : Nat) (start : Int) :
    skipDecimal.Together (decimal positive digits start) fun _ _ => True := by
  refine (Together.same eat).bind fun _ _ _ => ?_
  intro c a c₁ b c₂ hskip hread
  rw [get_bind] at hskip hread
  cases hd : c.digit? with
  | none =>
      rw [hd] at hread
      cases hread
  | some n =>
      rw [hd] at hskip hread
      obtain ⟨_, e, hcount, hskip⟩ := of_bind_eq_ok hskip
      cases takeCount_eq hcount
      obtain ⟨⟨k, full⟩, f, hexact, hread⟩ := of_bind_eq_ok hread
      obtain ⟨hdigits, hfull⟩ := takeExact_cases hexact
      dsimp only at hread
      rw [get_bind] at hread
      -- whether the digits were exact or not, they end at the same place
      have hend : (MonadState.get >>= fun c' =>
          if atExponent c' then exponent positive k (start - (c.rest.length - f.rest.length : Nat))
          else double positive k (start - (c.rest.length - f.rest.length : Nat)) : Reader Number)
            c.skipDigits = .ok (b, c₂) := by
        split at hread
        · obtain ⟨_, g, hmore, hread⟩ := of_bind_eq_ok hread
          cases takeCount_eq hmore
          rw [hdigits] at hread
          exact hread
        · next hnot =>
            rw [hfull (by simpa using hnot)] at hread ⊢
            exact hread
      rw [get_bind] at hskip hend
      split at hend
      · next hexponent =>
          rw [if_pos hexponent] at hskip
          exact exponent_together _ _ _ _ _ _ _ _ hskip hend
      · next hnot =>
          rw [if_neg hnot] at hskip
          cases hskip
          rw [double_eq hend]
          exact ⟨rfl, trivial⟩

theorem numberTail_together {positive : Bool} {digits : Nat} {start : Int} {plain : Reader Number}
    (hplain : ∀ c n d, plain c = .ok (n, d) → d = c) :
    skipNumberTail.Together (numberTail positive digits start plain) fun _ _ => True := by
  intro c a c₁ b c₂ hskip hread
  rw [skipNumberTail, get_bind] at hskip
  rw [numberTail, get_bind] at hread
  split at hread
  · next hpoint =>
      rw [if_pos hpoint] at hskip
      exact decimal_together positive digits start _ _ _ _ _ hskip hread
  next hpoint =>
  rw [if_neg hpoint] at hskip
  split at hread
  · next hexponent =>
      rw [if_pos hexponent] at hskip
      exact exponent_together positive digits start _ _ _ _ _ hskip hread
  · next hexponent =>
      rw [if_neg hexponent] at hskip
      cases hskip
      rw [hplain _ _ _ hread]
      exact ⟨rfl, trivial⟩

theorem pure_keeps (n : Number) (c : Cursor) (m : Number) (d : Cursor)
    (h : (pure n : Reader Number) c = .ok (m, d)) : d = c := by
  cases h
  rfl

/-- **A number that is read is passed over to the same place.** -/
theorem skipNumber_together (positive : Bool) :
    skipNumber.Together (number positive) fun _ _ => True := by
  intro c a c₁ b c₂ hskip hread
  rw [skipNumber, get_bind] at hskip
  rw [number, get_bind] at hread
  split at hread
  · cases hread
  cases hd : c.digit? with
  | none =>
      rw [hd] at hread
      cases hread
  | some n =>
      rw [hd] at hskip hread
      cases n with
      | zero =>
          change (eat >>= _) c = _ at hskip
          change (eat >>= _) c = _ at hread
          rw [eat_bind, get_bind] at hskip hread
          split at hread
          · cases hread
          · next hdigit =>
              rw [if_neg hdigit] at hskip
              exact numberTail_together (pure_keeps _) _ _ _ _ _ hskip hread
      | succ n =>
          dsimp only at hskip hread
          obtain ⟨_, e, hcount, hskip⟩ := of_bind_eq_ok hskip
          cases takeCount_eq hcount
          obtain ⟨⟨k, full⟩, f, hexact, hread⟩ := of_bind_eq_ok hread
          obtain ⟨hdigits, hfull⟩ := takeExact_cases hexact
          dsimp only at hread
          split at hread
          · obtain ⟨more, g, hcount', hread⟩ := of_bind_eq_ok hread
            cases takeCount_eq hcount'
            rw [hdigits] at hread
            exact numberTail_together (fun _ _ _ h => double_eq h) _ _ _ _ _ hskip hread
          · next hnot =>
              rw [hfull (by simpa using hnot)] at hread
              exact numberTail_together (pure_keeps _) _ _ _ _ _ hskip hread

/-! ### Passing over a value -/

section Skip

variable {skip : Reader Unit}

theorem skipItems_step {m : Nat} {first : Bool} {c d : Cursor}
    (h : skipItems skip (m + 1) first c = .ok ((), d)) :
    (Next ']' first c false c.skipBlanks ∧ d = c.skipBlanks.advance) ∨
    ∃ x e, Next ']' first c true x.skipBlanks ∧ skip x = .ok ((), e) ∧
      skipItems skip m false e = .ok ((), d) := by
  rw [skipItems] at h
  split at h
  · cases h
  split at h
  · next hclose =>
      cases h
      exact .inl ⟨.closing hclose, rfl⟩
  next hopen =>
  split at h
  · next hfirst =>
      split at h
      · cases h
      · next e hone =>
          refine .inr ⟨c.skipBlanks, e, ?_, hone, h⟩
          rw [Cursor.skipBlanks_skipBlanks]
          exact .first hopen hfirst
  next hlater =>
  split at h
  · next hcomma =>
      split at h
      · cases h
      · next e hone => exact .inr ⟨_, e, .later hcomma (by simpa using hlater), hone, h⟩
  · cases h

theorem skipFields_step {m : Nat} {first : Bool} {c d : Cursor}
    (h : skipFields skip (m + 1) first c = .ok ((), d)) :
    (Next '\x7d' first c false c.skipBlanks ∧ d = c.skipBlanks.advance) ∨
    ∃ x e, Next '\x7d' first c true x.skipBlanks ∧ skipField skip x = .ok ((), e) ∧
      skipFields skip m false e = .ok ((), d) := by
  rw [skipFields] at h
  split at h
  · cases h
  split at h
  · next hclose =>
      cases h
      exact .inl ⟨.closing hclose, rfl⟩
  next hopen =>
  split at h
  · next hfirst =>
      split at h
      · cases h
      · next e hone =>
          refine .inr ⟨c.skipBlanks, e, ?_, hone, h⟩
          rw [Cursor.skipBlanks_skipBlanks]
          exact .first hopen hfirst
  next hlater =>
  split at h
  · next hcomma =>
      split at h
      · cases h
      · next e hone => exact .inr ⟨_, e, .later hcomma (by simpa using hlater), hone, h⟩
  · cases h

/-- **The items of a list are passed over** to the same place, if each of them is. -/
theorem skipItems_stops {α : Type} {item : Reader α}
    (hblanks : ∀ c x, skip c = .ok x → skip c.skipBlanks = .ok x)
    (hitem : skip.Together item fun _ _ => True) {m n i : Nat} {acc as : List α}
    {c d e : Cursor} (hskip : skipItems skip m (i == 0) c = .ok ((), d))
    (hread : itemsFrom item n i acc c = .ok (as, e)) : d = e.skipBlanks.advance := by
  induction n generalizing m i acc c with
  | zero => cases hread
  | succ n ih =>
      cases m with
      | zero => cases hskip
      | succ m =>
          rw [itemsFrom] at hread
          split at hread
          · cases hread
          · next c' hnext =>
              cases hread
              obtain ⟨hclose, rfl⟩ | ⟨x, x', hmore, -⟩ := skipItems_step hskip
              · obtain ⟨-, rfl⟩ := hclose.unique (by decide) (next_of_nextItem hnext)
                rw [Cursor.skipBlanks_skipBlanks]
              · cases (hmore.unique (by decide) (next_of_nextItem hnext)).1
          · next c' hnext =>
              split at hread
              · cases hread
              next a c'' hone =>
              obtain ⟨hclose, -⟩ | ⟨x, x', hmore, hone', hskip'⟩ := skipItems_step hskip
              · cases (hclose.unique (by decide) (next_of_nextItem hnext)).1
              · obtain ⟨-, rfl⟩ := hmore.unique (by decide) (next_of_nextItem hnext)
                obtain ⟨rfl, -⟩ := hitem _ _ _ _ _ (hblanks _ _ hone') (of_inside_eq_ok hone)
                exact ih hskip' hread

theorem list_together {α : Type} {item : Reader α}
    (hblanks : ∀ c x, skip c = .ok x → skip c.skipBlanks = .ok x)
    (hitem : skip.Together item fun _ _ => True) :
    (do eat; fun c => skipItems skip (c.rest.length + 1) true c : Reader Unit).Together
      (listOf item) fun _ _ => True := by
  refine (Together.same eat).bind fun _ _ _ => ?_
  intro c a c₁ as c₂ hskip hread
  obtain ⟨as', d, hitems, hread⟩ := of_bind_eq_ok hread
  obtain ⟨_, e, hend, hread⟩ := of_bind_eq_ok hread
  cases hread
  rw [(listEnd_closes hend).2]
  exact ⟨skipItems_stops hblanks hitem hskip hitems, trivial⟩

variable {item : Reader Json}

theorem skipField_stops (hitem : skip.Together item fun _ _ => True) {c c' d e : Cursor}
    {name : String} {v : Json} {x : Segment} (hskip : skipField skip c = .ok ((), d))
    (hkey : key c.skipBlanks = .ok (name, c'))
    (hread : (do colon; inside x item : Reader Json) c' = .ok (v, e)) : d = e := by
  rw [skipField, peekAfterBlanks_bind] at hskip
  split at hskip
  · rw [eat_bind] at hskip
    obtain ⟨_, e', htext, hskip⟩ := of_bind_eq_ok hskip
    rw [key, eat_bind] at hkey
    obtain ⟨rfl, -⟩ := skipText_together _ _ _ _ _ htext hkey
    have hvalue : (skip).Together (inside x item) fun _ _ => True :=
      fun c _ _ _ _ ha hb => hitem c _ _ _ _ ha (of_inside_eq_ok hb)
    exact (((Together.same colon).bind fun _ _ _ => hvalue) _ _ _ _ _ hskip hread).1
  · cases hskip

/-- **The fields of an object are passed over** to the same place, if the value of each is. -/
theorem skipFields_stops (hitem : skip.Together item fun _ _ => True) {m n : Nat} {first : Bool}
    {acc fs : List (String × Json)} {c d e : Cursor}
    (hskip : skipFields skip m first c = .ok ((), d))
    (hread : fieldsFrom item n first acc c = .ok (fs, e)) : d = e.skipBlanks.advance := by
  induction n generalizing m first acc c with
  | zero => cases hread
  | succ n ih =>
      cases m with
      | zero => cases hskip
      | succ m =>
          rw [fieldsFrom] at hread
          split at hread
          · cases hread
          · next c' hnext =>
              cases hread
              have hnext := next_of_nextKey (of_inside_eq_ok hnext)
              obtain ⟨hclose, rfl⟩ | ⟨x, x', hmore, -⟩ := skipFields_step hskip
              · obtain ⟨-, rfl⟩ := hclose.unique (by decide) hnext
                rw [Cursor.skipBlanks_skipBlanks]
              · cases (hmore.unique (by decide) hnext).1
          · next c' hnext =>
              split at hread
              · cases hread
              next name c₁ hkey =>
              split at hread
              · cases hread
              next v c₂ hvalue =>
              have hnext := next_of_nextKey (of_inside_eq_ok hnext)
              obtain ⟨hclose, -⟩ | ⟨x, x', hmore, hone, hskip'⟩ := skipFields_step hskip
              · cases (hclose.unique (by decide) hnext).1
              · obtain ⟨-, rfl⟩ := hmore.unique (by decide) hnext
                obtain rfl := skipField_stops hitem hone (of_inside_eq_ok hkey) hvalue
                exact ih hskip' hread

theorem object_together (hitem : skip.Together item fun _ _ => True) :
    (do eat; fun c => skipFields skip (c.rest.length + 1) true c : Reader Unit).Together
      (objectOf item) fun _ _ => True := by
  refine (Together.same eat).bind fun _ _ _ => ?_
  intro c a c₁ fs c₂ hskip hread
  obtain ⟨fs', d, hfields, hread⟩ := of_bind_eq_ok hread
  obtain ⟨_, e, hend, hread⟩ := of_bind_eq_ok hread
  cases hread
  rw [objectEnd_eq hend]
  exact ⟨skipFields_stops hitem hskip hfields, trivial⟩

end Skip

theorem skipValue_skipBlanks {m : Nat} {c : Cursor} {x : Unit × Cursor}
    (h : skipValue m c = .ok x) : skipValue m c.skipBlanks = .ok x := by
  cases m with
  | zero => cases h
  | succ m =>
      rw [skipValue, peekAfterBlanks_bind] at h ⊢
      rwa [Cursor.skipBlanks_skipBlanks]

theorem word_together (cs : List Char) (v : Json) :
    (do eat; word cs : Reader Unit).Together (do eat; word cs; pure v) fun _ _ => True :=
  (Together.same eat).bind fun _ _ _ => (Together.same (word cs)).map fun _ _ _ => trivial

/-- **What is read as a single value is passed over** to the same place. -/
theorem skipScalar_cases (a : Char) :
    (scalar? a = none ∧ skipScalar? a = none) ∨
    ∃ r s, scalar? a = some r ∧ skipScalar? a = some s ∧ s.Together r fun _ _ => True := by
  unfold scalar? skipScalar?
  by_cases hn : a = 'n'
  · rw [if_pos hn, if_pos hn]
    exact .inr ⟨_, _, rfl, rfl, word_together _ _⟩
  rw [if_neg hn, if_neg hn]
  by_cases ht : a = 't'
  · rw [if_pos ht, if_pos ht]
    exact .inr ⟨_, _, rfl, rfl, word_together _ _⟩
  rw [if_neg ht, if_neg ht]
  by_cases hf : a = 'f'
  · rw [if_pos hf, if_pos hf]
    exact .inr ⟨_, _, rfl, rfl, word_together _ _⟩
  rw [if_neg hf, if_neg hf]
  by_cases hminus : a = '-'
  · rw [if_pos hminus, if_pos hminus]
    refine .inr ⟨_, _, rfl, rfl, (Together.same eat).bind fun _ _ _ => ?_⟩
    exact (skipNumber_together false).map fun _ _ _ => trivial
  rw [if_neg hminus, if_neg hminus]
  by_cases hdigit : (Numeral.digit? a).isSome = true
  · rw [if_pos hdigit, if_pos hdigit]
    exact .inr ⟨_, _, rfl, rfl, (skipNumber_together true).map fun _ _ _ => trivial⟩
  rw [if_neg hdigit, if_neg hdigit]
  by_cases hquote : a = '"'
  · rw [if_pos hquote, if_pos hquote]
    refine .inr ⟨_, _, rfl, rfl, (Together.same eat).bind fun _ _ _ => ?_⟩
    exact skipText_together.map fun _ _ _ => trivial
  rw [if_neg hquote, if_neg hquote]
  exact .inl ⟨rfl, rfl⟩

/-- **What is read as a value is passed over to the same place**, however deep it may be. -/
theorem skipValue_together (m n : Nat) : (skipValue m).Together (value n) fun _ _ => True := by
  induction n generalizing m with
  | zero => exact .of_never_right (.failPeek _)
  | succ n ih =>
      cases m with
      | zero => exact .of_never_left (.failPeek _)
      | succ m =>
          refine (Together.same peekAfterBlanks).bind ?_
          rintro next _ rfl
          cases next with
          | none => exact .of_never_left fun _ _ _ h => by cases h
          | some a =>
              dsimp only
              obtain ⟨hread, hskip⟩ | ⟨r, s, hread, hskip, hsr⟩ := skipScalar_cases a
              · rw [hread, hskip]
                dsimp only
                split
                · split
                  · exact .of_never_right (.failPeek _)
                  · exact (list_together (fun _ _ h => skipValue_skipBlanks h) (ih m)).map
                      fun _ _ _ => trivial
                split
                · split
                  · exact .of_never_right (.failPeek _)
                  · exact (object_together (ih m)).map fun _ _ _ => trivial
                · exact .of_never_left (.failPeek _)
              · rw [hread, hskip]
                exact hsr

/-- **A value that nobody asks for is passed over** to where it ends. -/
theorem ignored_together (n : Nat) : ignored.Together (value n) fun _ _ => True := by
  intro c a c₁ b c₂ hskip hread
  rw [ignored] at hskip
  exact skipValue_together _ n c a c₁ b c₂ hskip hread

end Json

end TableAccess
