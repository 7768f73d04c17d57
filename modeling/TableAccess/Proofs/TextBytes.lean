/-
**The bytes of a text are cut into its characters.**

A text that is sent as bytes arrives as the characters that it was made of, with no stray byte among
them: the bytes of each character are recognized as one character, whatever comes after them.

Main results:

* `Utf8.encode_eq` — the bytes of a text are those of its characters, one after the other;
* `Utf8.step_encodeChar` — **the bytes of a character are cut off as that character**;
* `Utf8.pieces_encode` — **a text comes back from its bytes**.
-/
import Mathlib.Data.List.Basic
import TableAccess.Text.Utf8

set_option relaxedAutoImplicit false
set_option autoImplicit false

namespace TableAccess

namespace Utf8

/-! ### Bytes in a row -/

theorem toList_loop_eq (bytes : ByteArray) (i : Nat) (acc : List UInt8) :
    ByteArray.toList.loop bytes i acc = acc.reverse ++ bytes.data.toList.drop i := by
  fun_induction ByteArray.toList.loop bytes i acc with
  | case1 i acc hi ih =>
      have hi' : i < bytes.data.toList.length := by simpa using hi
      rw [ih, List.drop_eq_getElem_cons (l := bytes.data.toList) hi']
      simp [ByteArray.get!, hi]
  | case2 i acc hi =>
      rw [List.drop_eq_nil_of_le (by simpa using Nat.le_of_not_lt hi), List.append_nil]

/-- The bytes of a text are those of its characters, one after the other. -/
theorem encode_eq (s : String) : encode s = s.toList.flatMap String.utf8EncodeChar := by
  have hbytes : s.toUTF8 = (s.toList.flatMap String.utf8EncodeChar).toByteArray := by
    rw [String.toUTF8_eq_toByteArray, ← String.ofList_toList (s := s), String.toByteArray_ofList,
      String.toList_ofList]
    rfl
  rw [encode, hbytes, ByteArray.toList, toList_loop_eq, List.toList_data_toByteArray]
  rfl

/-- A text has at most four bytes for each of its characters. -/
theorem length_encode_le (s : String) : (encode s).length ≤ 4 * s.toList.length := by
  rw [encode_eq]
  induction s.toList with
  | nil => exact Nat.le_refl 0
  | cons c cs ih =>
      have hsize := c.utf8Size_le_four
      rw [List.flatMap_cons, List.length_append, String.length_utf8EncodeChar, List.length_cons]
      omega

/-! ### One character -/

section Steps

variable {a b c d : UInt8} (rest : List UInt8)

/-- A range of bytes is a range of numbers. -/
theorem inRange_iff (low high : UInt8) :
    (decide (low ≤ a) && decide (a ≤ high)) = true ↔
      low.toNat ≤ a.toNat ∧ a.toNat ≤ high.toNat := by
  rw [Bool.and_eq_true, decide_eq_true_eq, decide_eq_true_eq, UInt8.le_iff_toNat_le,
    UInt8.le_iff_toNat_le]

theorem isTail_iff : isTail b = true ↔ 0x80 ≤ b.toNat ∧ b.toNat ≤ 0xbf :=
  inRange_iff 0x80 0xbf

/-- A second byte fits when the character needs that many bytes, is no surrogate, and does not lie
beyond the last code point. -/
theorem secondFits_of (hb : 0x80 ≤ b.toNat ∧ b.toNat ≤ 0xbf)
    (hthree : a.toNat = 0xe0 → 0xa0 ≤ b.toNat) (hsurrogate : a.toNat = 0xed → b.toNat ≤ 0x9f)
    (hfour : a.toNat = 0xf0 → 0x90 ≤ b.toNat) (hlast : a.toNat = 0xf4 → b.toNat ≤ 0x8f) :
    secondFits a b = true := by
  unfold secondFits
  split
  · next h => exact (inRange_iff _ _).2 ⟨hthree (congrArg UInt8.toNat h), hb.2⟩
  split
  · next h => exact (inRange_iff _ _).2 ⟨hb.1, hsurrogate (congrArg UInt8.toNat h)⟩
  split
  · next h => exact (inRange_iff _ _).2 ⟨hfour (congrArg UInt8.toNat h), hb.2⟩
  split
  · next h => exact (inRange_iff _ _).2 ⟨hb.1, hlast (congrArg UInt8.toNat h)⟩
  · exact isTail_iff.2 hb

theorem step_one (ha : a.toNat < 0x80) : step (a :: rest) = .char (Char.ofNat a.toNat) rest := by
  unfold step
  exact if_pos ha

theorem step_two (ha : 0xc2 ≤ a.toNat ∧ a.toNat ≤ 0xdf) (hb : 0x80 ≤ b.toNat ∧ b.toNat ≤ 0xbf) :
    step (a :: b :: rest) =
      .char (Char.ofNat ((a.toNat - 0xc0) * 64 + (b.toNat - 0x80))) rest := by
  have hone : ¬ a < 0x80 := fun h => absurd (UInt8.lt_iff_toNat_lt.1 h) (by simp; omega)
  unfold step
  dsimp only
  rw [if_neg hone, if_pos ((inRange_iff 0xc2 0xdf).2 ha), if_pos (isTail_iff.2 hb)]
  rfl

theorem step_three (ha : 0xe0 ≤ a.toNat ∧ a.toNat ≤ 0xef) (hb : 0x80 ≤ b.toNat ∧ b.toNat ≤ 0xbf)
    (hthree : a.toNat = 0xe0 → 0xa0 ≤ b.toNat) (hsurrogate : a.toNat = 0xed → b.toNat ≤ 0x9f)
    (hc : 0x80 ≤ c.toNat ∧ c.toNat ≤ 0xbf) :
    step (a :: b :: c :: rest) = .char
      (Char.ofNat (((a.toNat - 0xe0) * 64 + (b.toNat - 0x80)) * 64 + (c.toNat - 0x80))) rest := by
  have hone : ¬ a < 0x80 := fun h => absurd (UInt8.lt_iff_toNat_lt.1 h) (by simp; omega)
  have htwo : ¬ (0xc2 ≤ a.toNat ∧ a.toNat ≤ 0xdf) := by omega
  unfold step
  dsimp only
  rw [if_neg hone, if_neg (mt (inRange_iff 0xc2 0xdf).1 htwo),
    if_pos ((inRange_iff 0xe0 0xef).2 ha),
    if_pos (secondFits_of hb hthree hsurrogate (by omega) (by omega)), if_pos (isTail_iff.2 hc)]
  rfl

theorem step_four (ha : 0xf0 ≤ a.toNat ∧ a.toNat ≤ 0xf4) (hb : 0x80 ≤ b.toNat ∧ b.toNat ≤ 0xbf)
    (hfour : a.toNat = 0xf0 → 0x90 ≤ b.toNat) (hlast : a.toNat = 0xf4 → b.toNat ≤ 0x8f)
    (hc : 0x80 ≤ c.toNat ∧ c.toNat ≤ 0xbf) (hd : 0x80 ≤ d.toNat ∧ d.toNat ≤ 0xbf) :
    step (a :: b :: c :: d :: rest) = .char
      (Char.ofNat ((((a.toNat - 0xf0) * 64 + (b.toNat - 0x80)) * 64 + (c.toNat - 0x80)) * 64 +
        (d.toNat - 0x80))) rest := by
  have hone : ¬ a < 0x80 := fun h => absurd (UInt8.lt_iff_toNat_lt.1 h) (by simp; omega)
  have htwo : ¬ (0xc2 ≤ a.toNat ∧ a.toNat ≤ 0xdf) := by omega
  have hthree : ¬ (0xe0 ≤ a.toNat ∧ a.toNat ≤ 0xef) := by omega
  unfold step
  dsimp only
  rw [if_neg hone, if_neg (mt (inRange_iff 0xc2 0xdf).1 htwo),
    if_neg (mt (inRange_iff 0xe0 0xef).1 hthree), if_pos ((inRange_iff 0xf0 0xf4).2 ha),
    if_pos (secondFits_of hb (by omega) (by omega) hfour hlast), if_pos (isTail_iff.2 hc),
    if_pos (isTail_iff.2 hd)]
  rfl

end Steps

/-- **The bytes of a character are cut off as that character**, whatever comes after them. -/
theorem step_encodeChar (c : Char) (rest : List UInt8) :
    step (String.utf8EncodeChar c ++ rest) = .char c rest := by
  have hvalid : c.val.toNat < 0xd800 ∨ 0xdfff < c.val.toNat ∧ c.val.toNat < 0x110000 := c.valid
  have hself : Char.ofNat c.val.toNat = c := Char.ofNat_toNat c
  have hbyte : ∀ n < 0x100, (UInt8.ofNat n).toNat = n := fun n => UInt8.toNat_ofNat_of_lt'
  unfold String.utf8EncodeChar
  generalize c.val.toNat = v at hvalid hself ⊢
  dsimp only
  -- one case for each number of bytes, in which the payloads of the bytes add up to the code point
  split
  · next hone =>
      have ha := hbyte v (by omega)
      refine (step_one rest (ha.symm ▸ by omega)).trans ?_
      rw [ha, hself]
  split
  · next hone htwo =>
      have ha := hbyte (v / 64 % 32 + 192) (by omega)
      have hb := hbyte (v % 64 + 128) (by omega)
      refine (step_two rest (by omega) (by omega)).trans ?_
      have hvalue : (v / 64 % 32 + 192 - 0xc0) * 64 + (v % 64 + 128 - 0x80) = v := by omega
      rw [ha, hb, hvalue, hself]
  split
  · next hone htwo hthree =>
      have ha := hbyte (v / 4096 % 16 + 224) (by omega)
      have hb := hbyte (v / 64 % 64 + 128) (by omega)
      have hc := hbyte (v % 64 + 128) (by omega)
      refine (step_three rest (by omega) (by omega) (by omega) (by omega) (by omega)).trans ?_
      have hvalue : ((v / 4096 % 16 + 224 - 0xe0) * 64 + (v / 64 % 64 + 128 - 0x80)) * 64 +
          (v % 64 + 128 - 0x80) = v := by omega
      rw [ha, hb, hc, hvalue, hself]
  · next hone htwo hthree =>
      have ha := hbyte (v / 262144 % 8 + 240) (by omega)
      have hb := hbyte (v / 4096 % 64 + 128) (by omega)
      have hc := hbyte (v / 64 % 64 + 128) (by omega)
      have hd := hbyte (v % 64 + 128) (by omega)
      refine (step_four rest (by omega) (by omega) (by omega) (by omega) (by omega)
        (by omega)).trans ?_
      have hvalue : (((v / 262144 % 8 + 240 - 0xf0) * 64 + (v / 4096 % 64 + 128 - 0x80)) * 64 +
          (v / 64 % 64 + 128 - 0x80)) * 64 + (v % 64 + 128 - 0x80) = v := by omega
      rw [ha, hb, hc, hd, hvalue, hself]

/-! ### Whole texts -/

/-- The bytes of characters are gathered as these characters. -/
theorem gather_flatMap (cs : List Char) {fuel : Nat} (acc : List Piece) (hfuel : cs.length ≤ fuel) :
    gather fuel (cs.flatMap String.utf8EncodeChar) acc = acc.reverse ++ cs.map .char := by
  induction cs generalizing fuel acc with
  | nil => cases fuel <;> simp [gather, step]
  | cons c cs ih =>
      obtain ⟨fuel, rfl⟩ : ∃ n, fuel = n + 1 := ⟨fuel - 1, by simp at hfuel; omega⟩
      rw [List.flatMap_cons, gather, step_encodeChar]
      dsimp only
      rw [ih _ (by simpa using hfuel)]
      simp

theorem length_le_flatMap (cs : List Char) :
    cs.length ≤ (cs.flatMap String.utf8EncodeChar).length := by
  induction cs with
  | nil => exact Nat.le_refl 0
  | cons c cs ih =>
      have hsize := c.utf8Size_pos
      rw [List.flatMap_cons, List.length_append, String.length_utf8EncodeChar, List.length_cons]
      omega

/-- **A text comes back from its bytes**, with no stray byte in it. -/
theorem pieces_encode (s : String) : pieces (encode s) = ofString s := by
  rw [pieces, encode_eq]
  exact gather_flatMap s.toList [] (length_le_flatMap s.toList)

end Utf8

end TableAccess
