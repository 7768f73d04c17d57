/-
**Dates and instants that were written are read back.**

The writer puts a sign before a year just when it has more than four digits or is negative, and the
reader takes four digits, or all of them after a sign; so the two agree on every year.  Fractions
are written with no, three, six or nine digits and read as billionths, and second 60 stands for a
leap second on both sides.

Main results:

* `DateText.year_write`, `DateText.parts_write` — a year, and the three parts of a date;
* `Date.readForm_write`, `Date.readLoose_write` — **dates are read back** by both readers;
* `DateText.timeOfDay_write` — the time of day, its fraction and leap seconds with it;
* `Instant.read_writeZulu` — **instants are read back**.
-/
import TableAccess.Proofs.Numerals

set_option relaxedAutoImplicit false
set_option autoImplicit false

namespace TableAccess

/-! ### Scanners step by step -/

namespace DateText

open Numeral (NoDigitNext noDigitNext_nil noDigitNext_cons)

variable {α β : Type} {c : Char} {cs rest : List Char}

theorem Scan.bind_of_ok {x : Scan α} {k : α → Scan β} {a : α} (h : x cs = .ok (a, rest)) :
    (x >>= k) cs = k a rest := by
  change StateT.bind x k cs = _
  rw [StateT.bind, h]
  rfl

/-- A digit is no blank. -/
theorem isBlank_of_isDigit (h : c.isDigit = true) : Text.isBlank c = false := by
  rw [Char.isDigit_iff_toNat] at h
  simp [Text.isBlank, Text.blankRanges] at h ⊢
  omega

theorem blanks_cons (h : Text.isBlank c = false) : blanks (c :: cs) = .ok ((), c :: cs) := by
  change Except.ok ((), Text.trimStart (c :: cs)) = _
  rw [Text.trimStart_cons_of_not_blank h]

theorem literal_cons : literal c (c :: cs) = .ok ((), cs) := by
  rw [literal, if_pos rfl]

theorem blanks_digits (hcs : ∀ c ∈ cs, c.isDigit = true) (hne : cs ≠ []) :
    blanks (cs ++ rest) = .ok ((), cs ++ rest) := by
  cases cs with
  | nil => exact absurd rfl hne
  | cons c cs => exact blanks_cons (isBlank_of_isDigit (hcs c (List.mem_cons_self ..)))

theorem blanks_padded (width n : Nat) :
    blanks ((Numeral.padded width n).toList ++ rest) =
      .ok ((), (Numeral.padded width n).toList ++ rest) :=
  blanks_digits (fun _ => Numeral.isDigit_of_mem_padded) (Numeral.padded_ne_nil width n)

theorem part_padded {low high n : Nat} (rest : List Char) (hlow : low ≤ n) (hhigh : n ≤ high)
    (hn : n < 100) : part low high ((Numeral.padded 2 n).toList ++ rest) = .ok (n, rest) := by
  have hle : n ≤ largest := Nat.le_trans (Nat.le_of_lt hn) (by decide)
  refine (Scan.bind_of_ok (blanks_padded 2 n)).trans ?_
  refine (Scan.bind_of_ok (number_padded rest (by decide) hn hle)).trans ?_
  rw [if_pos ⟨hlow, hhigh⟩]
  rfl

/-! ### Dates -/

theorem boundedYear_of_mem {y : Int} (hlow : Calendar.firstYear ≤ y)
    (hhigh : y ≤ Calendar.lastYear) : boundedYear y rest = .ok (y, rest) := by
  have hbounds : -Int.pow 2 31 ≤ y ∧ y < Int.pow 2 31 := by
    have hpow : Int.pow 2 31 = 2147483648 := by decide
    rw [Calendar.firstYear] at hlow
    rw [Calendar.lastYear] at hhigh
    omega
  rw [boundedYear, if_pos hbounds]
  rfl

/-- The digits of a year after its sign are read back. -/
theorem number_signed {n : Nat} (hn : n ≤ largest) (hnext : NoDigitNext rest) :
    number ((Numeral.padded 4 n).toList ++ rest).length ((Numeral.padded 4 n).toList ++ rest) =
      .ok (n, rest) := by
  have hroom : (Numeral.padded 4 n).toList.length ≤
      ((Numeral.padded 4 n).toList ++ rest).length := by simp
  have hread := number_digits rest (fun c => Numeral.isDigit_of_mem_padded)
    (Numeral.padded_ne_nil 4 n) hroom (.inr hnext) (by rw [Numeral.ofDigitChars_padded]; exact hn)
  rwa [Numeral.ofDigitChars_padded] at hread

theorem year_of_digits {n : Nat} {y : Int} (hcs : ∀ c ∈ cs, c.isDigit = true) (hne : cs ≠ [])
    (hread : number 4 (cs ++ rest) = .ok (n, rest)) (hyear : boundedYear n rest = .ok (y, rest)) :
    year (cs ++ rest) = .ok (y, rest) := by
  refine (Scan.bind_of_ok (blanks_digits hcs hne)).trans ?_
  refine (Scan.bind_of_ok (x := get) rfl).trans ?_
  cases cs with
  | nil => exact absurd rfl hne
  | cons c cs =>
      have hc := hcs c (List.mem_cons_self ..)
      -- a digit is neither of the two signs
      rw [List.cons_append] at hread ⊢
      generalize htext : c :: (cs ++ rest) = text at hread ⊢
      split
      · cases htext
        cases hc
      · cases htext
        cases hc
      · exact (Scan.bind_of_ok hread).trans hyear

theorem year_minus {n : Nat} {y : Int} (hread : number cs.length cs = .ok (n, rest))
    (hyear : boundedYear (-n) rest = .ok (y, rest)) : year ('-' :: cs) = .ok (y, rest) := by
  refine (Scan.bind_of_ok (blanks_cons rfl)).trans ?_
  refine (Scan.bind_of_ok (x := get) rfl).trans ?_
  refine (Scan.bind_of_ok (x := set _) rfl).trans ?_
  exact (Scan.bind_of_ok hread).trans hyear

theorem year_plus {n : Nat} {y : Int} (hread : number cs.length cs = .ok (n, rest))
    (hyear : boundedYear n rest = .ok (y, rest)) : year ('+' :: cs) = .ok (y, rest) := by
  refine (Scan.bind_of_ok (blanks_cons rfl)).trans ?_
  refine (Scan.bind_of_ok (x := get) rfl).trans ?_
  refine (Scan.bind_of_ok (x := set _) rfl).trans ?_
  exact (Scan.bind_of_ok hread).trans hyear

/-- **A year is read back** before something that is no digit. -/
theorem year_write {y : Int} (hlow : Calendar.firstYear ≤ y) (hhigh : y ≤ Calendar.lastYear)
    (hnext : NoDigitNext rest) : year ((writeYear y).toList ++ rest) = .ok (y, rest) := by
  have hsmall : y.natAbs ≤ largest := by
    rw [Calendar.firstYear] at hlow
    rw [Calendar.lastYear] at hhigh
    have hlargest : 1000000 ≤ largest := by decide
    omega
  have hbounded : boundedYear y rest = .ok (y, rest) := boundedYear_of_mem hlow hhigh
  have hsigned := number_signed hsmall hnext
  unfold writeYear
  by_cases hfour : 0 ≤ y ∧ y ≤ 9999
  · rw [if_pos hfour]
    have hpow : Nat.pow 10 4 = 10000 := by decide
    have hn : y.toNat < Nat.pow 10 4 := by omega
    have hle : y.toNat ≤ largest := by omega
    have hread := number_padded rest (by decide) hn hle
    refine year_of_digits (fun _ => Numeral.isDigit_of_mem_padded) (Numeral.padded_ne_nil 4 _)
      hread ?_
    rw [Int.toNat_of_nonneg hfour.1]
    exact hbounded
  · rw [if_neg hfour]
    by_cases hneg : y < 0
    · have hcast : -((y.natAbs : Nat) : Int) = y := by omega
      have htext : ("-" ++ Numeral.padded 4 y.natAbs).toList ++ rest =
          '-' :: ((Numeral.padded 4 y.natAbs).toList ++ rest) := by simp
      rw [if_pos hneg, htext]
      exact year_minus hsigned (hcast.symm ▸ hbounded)
    · have hcast : ((y.natAbs : Nat) : Int) = y := by omega
      have htext : ("+" ++ Numeral.padded 4 y.natAbs).toList ++ rest =
          '+' :: ((Numeral.padded 4 y.natAbs).toList ++ rest) := by simp
      rw [if_neg hneg, htext]
      exact year_plus hsigned (hcast.symm ▸ hbounded)

theorem hyphen (gaps : Bool) (k : Unit → Scan α) :
    (if gaps = true then blanks >>= fun _ => literal '-' >>= k else literal '-' >>= k)
      ('-' :: cs) = k () cs := by
  cases gaps with
  | true => exact (Scan.bind_of_ok (blanks_cons rfl)).trans (Scan.bind_of_ok literal_cons)
  | false => exact Scan.bind_of_ok literal_cons

theorem day_lt (d : Date) : d.month < 100 ∧ d.day ≤ 31 := by
  obtain ⟨-, -, -, hmonth, -, hday⟩ := d.isDate
  refine ⟨by omega, Nat.le_trans hday ?_⟩
  have hlengths : ∀ (leap : Bool) (m : Nat), ((Calendar.monthLengths leap)[m]?).getD 0 ≤ 31 := by
    intro leap m
    cases leap <;> rcases m with _ | _ | _ | _ | _ | _ | _ | _ | _ | _ | _ | _ | m <;>
      simp [Calendar.monthLengths]
  unfold Calendar.daysInMonth
  split
  · exact Nat.zero_le _
  · exact hlengths _ _

/-- **The parts of a date are read back**, whatever follows. -/
theorem parts_write (gaps : Bool) (d : Date) (rest : List Char) :
    parts gaps (d.write.toList ++ rest) = .ok ((d.year, d.month, d.day), rest) := by
  obtain ⟨hlow, hhigh, hmonth, hmonth', hday, -⟩ := d.isDate
  obtain ⟨hm, hd⟩ := day_lt d
  have htext : d.write.toList ++ rest = (writeYear d.year).toList ++
      '-' :: ((Numeral.padded 2 d.month).toList ++
        '-' :: ((Numeral.padded 2 d.day).toList ++ rest)) := by
    simp [Date.write]
  rw [htext]
  refine (Scan.bind_of_ok (year_write hlow hhigh (noDigitNext_cons rfl))).trans ?_
  refine (hyphen gaps _).trans ?_
  refine (Scan.bind_of_ok (part_padded _ hmonth hmonth' hm)).trans ?_
  refine (hyphen gaps _).trans ?_
  exact (Scan.bind_of_ok (part_padded rest hday hd (by omega))).trans rfl

end DateText

/-! ### Whole dates -/

theorem DateText.day_parts (d : Date) : DateText.day (d.year, d.month, d.day) = .ok d := by
  rw [day, Date.ofParts?_self]

/-- **A date is read back** by the reader without room for blanks between the parts. -/
theorem Date.readForm_write (d : Date) : Date.readForm d.write = .ok d := by
  have hparts := DateText.parts_write false d []
  rw [List.append_nil] at hparts
  rw [readForm, StateT.run, hparts]
  exact DateText.day_parts d

/-- **A date is read back** by the reader with room for blanks. -/
theorem Date.readLoose_write (d : Date) : Date.readLoose d.write = .ok d := by
  have hparts := DateText.parts_write true d []
  rw [List.append_nil] at hparts
  rw [readLoose, StateT.run, hparts]
  exact DateText.day_parts d

/-! ### The time of day -/

namespace DateText

open Numeral (NoDigitNext noDigitNext_nil noDigitNext_cons)

variable {α β : Type} {c : Char} {cs rest : List Char}

/-- **A fraction is read back** in billionths. -/
theorem fraction_padded {width n : Nat} (hwidth : 0 < width) (hnine : width ≤ 9)
    (hn : n < Nat.pow 10 width) (hnext : NoDigitNext rest) :
    fraction ((Numeral.padded width n).toList ++ rest) =
      .ok (n * Nat.pow 10 (9 - width), rest) := by
  have hlength := Numeral.length_padded hwidth hn
  have hle : n ≤ largest := by
    have hpow : Nat.pow 10 width ≤ Nat.pow 10 9 := Nat.pow_le_pow_right (by decide) hnine
    have hlargest : Nat.pow 10 9 ≤ largest := by decide
    omega
  have hread := number_digits rest (fun c => Numeral.isDigit_of_mem_padded)
    (Numeral.padded_ne_nil width n) (hlength ▸ hnine) (.inr hnext)
    (by rw [Numeral.ofDigitChars_padded]; exact hle)
  rw [Numeral.ofDigitChars_padded] at hread
  have hdropped : rest.dropWhile (fun c => (Numeral.digit? c).isSome) = rest := by
    cases rest with
    | nil => rfl
    | cons c rest => simp [hnext c rest rfl]
  have htaken : ((Numeral.padded width n).toList ++ rest).length - rest.length = width := by
    rw [List.length_append, hlength, Nat.add_sub_cancel]
  refine (Scan.bind_of_ok (x := get) rfl).trans ?_
  refine (Scan.bind_of_ok hread).trans ?_
  refine (Scan.bind_of_ok (x := get) rfl).trans ?_
  refine (Scan.bind_of_ok (x := set _) rfl).trans ?_
  rw [hdropped, htaken]
  rfl

theorem fraction_cases (t : Instant) :
    (t.nano % 1000000000 = 0 ∧ t.writeFraction = "") ∨
    ∃ width n, 0 < width ∧ width ≤ 9 ∧ n < Nat.pow 10 width ∧
      n * Nat.pow 10 (9 - width) = t.nano % 1000000000 ∧
      t.writeFraction = "." ++ Numeral.padded width n := by
  have hlt : t.nano % 1000000000 < 1000000000 := Nat.mod_lt _ (by decide)
  unfold Instant.writeFraction
  generalize t.nano % 1000000000 = n at hlt ⊢
  dsimp only
  split
  · next hzero => exact .inl ⟨hzero, rfl⟩
  · right
    have h3 : Nat.pow 10 (9 - 3) = 1000000 := by decide
    have h6 : Nat.pow 10 (9 - 6) = 1000 := by decide
    have h9 : Nat.pow 10 (9 - 9) = 1 := by decide
    split
    · next hmillis =>
        have hpow : Nat.pow 10 3 = 1000 := by decide
        refine ⟨3, n / 1000000, by decide, by decide, by omega, ?_, rfl⟩
        rw [h3]
        omega
    · split
      · next hmicros =>
          have hpow : Nat.pow 10 6 = 1000000 := by decide
          refine ⟨6, n / 1000, by decide, by decide, by omega, ?_, rfl⟩
          rw [h6]
          omega
      · refine ⟨9, n, by decide, by decide, hlt, ?_, rfl⟩
        rw [h9, Nat.mul_one]

/-- The end of the time of day: second 60 is the last second of its minute, and a second more of
the fraction. -/
theorem timeEnd_write (t : Instant) (rest : List Char) :
    (blanks >>= fun _ => if t.shownSecond = 60 then
        pure ((t.second / 3600 * 60 + t.second / 60 % 60) * 60 + 59,
          1000000000 + t.nano % 1000000000)
      else pure ((t.second / 3600 * 60 + t.second / 60 % 60) * 60 + t.shownSecond,
        t.nano % 1000000000) : Scan (Nat × Nat)) ('Z' :: rest) =
      .ok ((t.second, t.nano), 'Z' :: rest) := by
  obtain ⟨hsecond, hnano⟩ := t.isTime
  refine (Scan.bind_of_ok (blanks_cons rfl)).trans ?_
  have hminutes :
      (t.second / 3600 * 60 + t.second / 60 % 60) * 60 + t.second % 60 = t.second := by omega
  by_cases hleap : t.nano < 1000000000
  · have hshow : t.shownSecond = t.second % 60 := if_pos hleap
    rw [hshow, if_neg (by omega), hminutes, Nat.mod_eq_of_lt hleap]
    rfl
  · have hshow : t.shownSecond = t.second % 60 + 1 := if_neg hleap
    have hparts : t.second % 60 = 59 ∧ 1000000000 + t.nano % 1000000000 = t.nano := by omega
    rw [hshow, if_pos (by omega), hparts.2, ← hparts.1, hminutes]
    rfl

/-- **The time of day is read back**, with its fraction and before its zone. -/
theorem timeOfDay_write (t : Instant) (rest : List Char) :
    timeOfDay (t.writeTime.toList ++ (t.writeFraction.toList ++ 'Z' :: rest)) =
      .ok ((t.second, t.nano), 'Z' :: rest) := by
  obtain ⟨hsecond, hnano⟩ := t.isTime
  have hshown : t.shownSecond ≤ 60 := by
    unfold Instant.shownSecond
    split <;> omega
  have htext : t.writeTime.toList ++ (t.writeFraction.toList ++ 'Z' :: rest) =
      (Numeral.padded 2 (t.second / 3600)).toList ++ ':' ::
        ((Numeral.padded 2 (t.second / 60 % 60)).toList ++ ':' ::
          ((Numeral.padded 2 t.shownSecond).toList ++
            (t.writeFraction.toList ++ 'Z' :: rest))) := by
    simp [Instant.writeTime]
  have hend := timeEnd_write t rest
  rw [htext]
  refine (Scan.bind_of_ok (part_padded _ (Nat.zero_le _) (by omega) (by omega))).trans ?_
  refine (Scan.bind_of_ok (blanks_cons rfl)).trans ?_
  refine (Scan.bind_of_ok literal_cons).trans ?_
  refine (Scan.bind_of_ok (part_padded _ (Nat.zero_le _) (by omega) (by omega))).trans ?_
  refine (Scan.bind_of_ok (blanks_cons rfl)).trans ?_
  refine (Scan.bind_of_ok literal_cons).trans ?_
  refine (Scan.bind_of_ok (part_padded _ (Nat.zero_le _) hshown (by omega))).trans ?_
  refine (Scan.bind_of_ok (x := get) rfl).trans ?_
  obtain ⟨hzero, hwritten⟩ | ⟨width, n, hwidth, hnine, hn, hvalue, hwritten⟩ := fraction_cases t
  · rw [hzero] at hend
    rw [hwritten]
    exact hend
  · have hnext : NoDigitNext ('Z' :: rest) := noDigitNext_cons rfl
    have hread := fraction_padded hwidth hnine hn hnext
    rw [hvalue] at hread
    have hdot : ("." ++ Numeral.padded width n).toList ++ 'Z' :: rest =
        '.' :: ((Numeral.padded width n).toList ++ 'Z' :: rest) := by simp
    rw [hwritten, hdot]
    refine (Scan.bind_of_ok (x := set _) rfl).trans ?_
    exact (Scan.bind_of_ok hread).trans hend

theorem zone_zulu : zone ['Z'] = .ok (0, []) := by
  refine (Scan.bind_of_ok (blanks_cons rfl)).trans ?_
  rfl

end DateText

/-! ### Whole instants -/

theorem Instant.shift?_zero (t : Instant) : t.shift? 0 = some t := by
  obtain ⟨hsecond, -⟩ := t.isTime
  have hdate : ¬ ((t.second : Int) - 0 < 0) ∧ ¬ (86400 ≤ (t.second : Int) - 0) := by omega
  have hrest : (((t.second : Int) - 0) % 86400).toNat = t.second := by omega
  simp only [shift?, hdate.1, hdate.2, if_false, Option.bind_some, hrest, ofParts?, t.isTime,
    dif_pos]

/-- **An instant is read back.** -/
theorem Instant.read_writeZulu (t : Instant) : Instant.read t.writeZulu = .ok t := by
  have htext : t.writeZulu.toList = t.date.write.toList ++
      'T' :: (t.writeTime.toList ++ (t.writeFraction.toList ++ ['Z'])) := by
    simp [writeZulu, writeLocal]
  have hmoment : DateText.moment.run t.writeZulu.toList =
      .ok (((t.date.year, t.date.month, t.date.day), (t.second, t.nano), 0), []) := by
    rw [StateT.run, htext]
    refine (DateText.Scan.bind_of_ok (DateText.parts_write true t.date _)).trans ?_
    refine (DateText.Scan.bind_of_ok (x := DateText.separator) rfl).trans ?_
    refine (DateText.Scan.bind_of_ok (DateText.timeOfDay_write t [])).trans ?_
    exact (DateText.Scan.bind_of_ok DateText.zone_zulu).trans rfl
  have hparts : ofParts? t.date t.second t.nano = some t := dif_pos t.isTime
  rw [read, hmoment]
  simp only [bind, Except.bind]
  rw [DateText.day_parts]
  simp [hparts, shift?_zero]
  rfl

end TableAccess
