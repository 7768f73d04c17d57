/-
**Records are read as the objects and lists that stand there.**

A record may be written as an object or as a list.  As an object, its text may have fields that the
record does not know, and a value keeps only the last field of each name; as a list, its last
fields may be left out.  Where a text is read both as a record and as a value, each field of the
record is the one that the value has for it, and no name of a field occurs twice in the text.

Main definitions:

* `Json.members` — the fields of an object as they stand in its text;
* `Json.HeldField`, `Json.HeldBy`, `Json.ListedBy` — the fields of a record, as an object or a list
  has them;
* `Json.Layout.Faithful` — a record holds what its layout reads.

Main results:

* `Json.members_of_anyValue` — an object has the fields of its text, the later over the earlier;
* `Json.record_together_members` — **a record holds the fields of an object**;
* `Json.record_together_value` — **a record holds the items of a list**.
-/
import TableAccess.Proofs.FieldReadings

set_option relaxedAutoImplicit false
set_option autoImplicit false

namespace TableAccess

namespace Json

open Reader

/-! ### The fields of an object as they stand -/

/-- The fields of an object from a key on, in the order of the text and with those that repeat. -/
def membersFrom (item : Reader Json) : Nat → Bool → Cursor →
    Except Fault (List (String × Json) × Cursor)
  | 0, _, c => .error (Problem.endInObject.at c.place)
  | fuel + 1, first, c =>
      match nextKey first c with
      | .error f => .error f
      | .ok (false, c) => .ok ([], c)
      | .ok (true, c) =>
          (do
            let name ← key
            colon
            let v ← item
            let ms ← membersFrom item fuel false
            pure ((name, v) :: ms) : Reader (List (String × Json))) c

/-- The fields of an object after its opening brace. -/
def allMembers (item : Reader Json) : Reader (List (String × Json)) := fun c =>
  membersFrom item (c.rest.length + 1) true c

/-- The fields of an object, from its opening brace to its closing one. -/
def membersOf (item : Reader Json) : Reader (List (String × Json)) := do
  eat
  let ms ← allMembers item
  objectEnd
  pure ms

/-- The fields of an object, as the text has them. -/
def members : Reader (List (String × Json)) := do
  let next ← valueStart
  if next = some '\x7b' then membersOf (value (depthLimit - 1)) else failPeek .expectedValue

section Members

variable {item : Reader Json}

theorem membersFrom_cons {fuel : Nat} {first : Bool} {c c' d : Cursor}
    {ms : List (String × Json)} (hnext : nextKey first c = .ok (true, c'))
    (h : membersFrom item (fuel + 1) first c = .ok (ms, d)) :
    ∃ name v ms' c₁ c₂, ms = (name, v) :: ms' ∧ key c' = .ok (name, c₁) ∧
      (do colon; item : Reader Json) c₁ = .ok (v, c₂) ∧
      membersFrom item fuel false c₂ = .ok (ms', d) := by
  rw [membersFrom, hnext] at h
  obtain ⟨name, c₁, hkey, h⟩ := of_bind_eq_ok h
  obtain ⟨_, c₁', hcolon, h⟩ := of_bind_eq_ok h
  obtain ⟨v, c₂, hv, h⟩ := of_bind_eq_ok h
  obtain ⟨ms', c₃, hms, h⟩ := of_bind_eq_ok h
  cases h
  exact ⟨name, v, ms', c₁, c₂, rfl, hkey, (bind_of_ok hcolon).trans hv, hms⟩

/-- Fields put one after the other among fields that are sorted by name. -/
def insertFields (ms acc : List (String × Json)) : List (String × Json) :=
  ms.foldl (fun acc f => insertField f.1 f.2 acc) acc

/-- The fields of an object are those of its text, the later ones put over the earlier. -/
theorem membersFrom_of_fieldsFrom {fuel : Nat} {first : Bool} {acc fs : List (String × Json)}
    {c d : Cursor} (h : fieldsFrom item fuel first acc c = .ok (fs, d)) :
    ∃ ms, membersFrom item fuel first c = .ok (ms, d) ∧ insertFields ms acc = fs := by
  induction fuel generalizing first acc c with
  | zero => cases h
  | succ fuel ih =>
      rw [fieldsFrom] at h
      split at h
      · cases h
      · next c' hnext =>
          cases h
          refine ⟨[], ?_, rfl⟩
          rw [membersFrom, of_inside_eq_ok hnext]
      · next c' hnext =>
          split at h
          · cases h
          next name c₁ hkey =>
          split at h
          · cases h
          next v c₂ hvalue =>
          obtain ⟨ms, hms, rfl⟩ := ih h
          obtain ⟨_, c₃, hcolon, hv⟩ := of_bind_eq_ok hvalue
          refine ⟨(name, v) :: ms, ?_, rfl⟩
          rw [membersFrom, of_inside_eq_ok hnext]
          dsimp only
          rw [bind_of_ok (of_inside_eq_ok hkey), bind_of_ok hcolon, bind_of_ok (of_inside_eq_ok hv),
            bind_of_ok hms]
          rfl

theorem lookup_insertField (name name' : String) (v : Json) (acc : List (String × Json)) :
    lookup name (insertField name' v acc) = if name' = name then some v else lookup name acc := by
  induction acc with
  | nil => rfl
  | cons f acc ih =>
      obtain ⟨n, w⟩ := f
      rw [insertField]
      by_cases hlt : name' < n
      · rw [if_pos hlt]
        rfl
      rw [if_neg hlt]
      by_cases heq : name' = n
      · rw [if_pos heq, ← heq, lookup, lookup]
        split
        · rfl
        · rfl
      · rw [if_neg heq, lookup, lookup, ih]
        by_cases hn : n = name
        · rw [if_pos hn, if_pos hn, if_neg fun h => heq (h.trans hn.symm)]
        · rw [if_neg hn, if_neg hn]

theorem lookup_eq_none {name : String} {ms : List (String × Json)}
    (h : name ∉ ms.map Prod.fst) : lookup name ms = none := by
  induction ms with
  | nil => rfl
  | cons f ms ih =>
      rw [List.map_cons, List.mem_cons, not_or] at h
      rw [lookup, if_neg fun heq => h.1 heq.symm, ih h.2]

/-- Where no name repeats, it does not matter which of its fields counts. -/
theorem lookup_insertFields {name : String} {ms : List (String × Json)}
    (h : (ms.map Prod.fst).count name ≤ 1) (acc : List (String × Json)) :
    lookup name (insertFields ms acc) = (lookup name ms).or (lookup name acc) := by
  induction ms generalizing acc with
  | nil => rfl
  | cons f ms ih =>
      obtain ⟨n, v⟩ := f
      have hstep : insertFields ((n, v) :: ms) acc = insertFields ms (insertField n v acc) := rfl
      rw [List.map_cons] at h
      by_cases hn : n = name
      · subst hn
        rw [List.count_cons_self] at h
        have hnone : n ∉ ms.map Prod.fst := List.count_eq_zero.1 (by omega)
        rw [hstep, ih (by omega), lookup_eq_none hnone, lookup_insertField, lookup, if_pos rfl,
          if_pos rfl]
        rfl
      · rw [List.count_cons_of_ne hn] at h
        rw [hstep, ih h, lookup_insertField, if_neg hn, lookup, if_neg hn]

theorem yields_scalar {a : Char} {r : Reader Json} (hr : scalar? a = some r) :
    r.Yields fun v => ∀ fs, v ≠ .obj fs := by
  have hnumber : ∀ positive, (do let n ← number positive; pure n.toJson : Reader Json).Yields
      fun v => ∀ fs, v ≠ .obj fs :=
    fun _ => .number (fun _ => .pure nofun) fun _ => .pure nofun
  unfold scalar? at hr
  split at hr
  · cases hr
    exact .last fun _ => .last fun _ => .pure nofun
  split at hr
  · cases hr
    exact .last fun _ => .last fun _ => .pure nofun
  split at hr
  · cases hr
    exact .last fun _ => .last fun _ => .pure nofun
  split at hr
  · cases hr
    exact .last fun _ => hnumber false
  split at hr
  · cases hr
    exact hnumber true
  split at hr
  · cases hr
    exact .last fun _ => .last fun _ => .pure nofun
  · cases hr

theorem objectOf_of_value {n : Nat} {fs : List (String × Json)} {c d : Cursor}
    (h : value (n + 1) c = .ok (.obj fs, d)) :
    c.skipBlanks.peek? = some '\x7b' ∧ objectOf (value n) c.skipBlanks = .ok (fs, d) := by
  rw [value, peekAfterBlanks_bind] at h
  cases hpeek : c.skipBlanks.peek? with
  | none =>
      rw [hpeek] at h
      cases h
  | some a =>
      rw [hpeek] at h
      dsimp only at h
      cases ha : scalar? a with
      | some r =>
          rw [ha] at h
          exact absurd rfl (yields_scalar ha _ _ _ h fs)
      | none =>
          rw [ha] at h
          dsimp only at h
          split at h
          · split at h
            · cases h
            · obtain ⟨items, d', -, h⟩ := of_bind_eq_ok h
              cases h
          split at h
          · next hbrace =>
              split at h
              · cases h
              · obtain ⟨fs', d', hfs, h⟩ := of_bind_eq_ok h
                cases h
                exact ⟨by rw [hbrace], hfs⟩
          · cases h

/-- **An object that is read has the fields of its text**, the later ones put over the earlier. -/
theorem membersOf_of_objectOf {fs : List (String × Json)} {c d : Cursor}
    (h : objectOf item c = .ok (fs, d)) :
    ∃ ms, membersOf item c = .ok (ms, d) ∧ insertFields ms [] = fs := by
  obtain ⟨_, c₁, heat, h⟩ := of_bind_eq_ok h
  obtain ⟨fs', c₂, hfields, h⟩ := of_bind_eq_ok h
  obtain ⟨_, c₃, hend, h⟩ := of_bind_eq_ok h
  cases h
  obtain ⟨ms, hms, hinsert⟩ := membersFrom_of_fieldsFrom hfields
  have hall : allMembers item c₁ = .ok (ms, c₂) := hms
  refine ⟨ms, ?_, hinsert⟩
  rw [membersOf, bind_of_ok heat, bind_of_ok hall, bind_of_ok hend]
  rfl

theorem members_of_anyValue {fs : List (String × Json)} {c d : Cursor}
    (h : anyValue c = .ok (.obj fs, d)) :
    ∃ ms, members c = .ok (ms, d) ∧ insertFields ms [] = fs := by
  obtain ⟨hpeek, hobject⟩ := objectOf_of_value h
  obtain ⟨ms, hms, hinsert⟩ := membersOf_of_objectOf hobject
  refine ⟨ms, ?_, hinsert⟩
  rw [members, bind_of_ok (valueStart_of_peek? hpeek), if_pos rfl]
  exact hms

end Members

section Record

/-- What the fields of a text tell of one field, as far as it is known before and after them: there
is one of its name at most and none if it was known before, and that one has its value. -/
structure Tells {α : Type} (write : α → Json) (name : String) (ms : List (String × Json))
    (before after : Option α) : Prop where
  value : after.map write = (before.map write).or (lookup name ms)
  fresh : before.isSome = true → name ∉ ms.map Prod.fst
  once : (ms.map Prod.fst).count name ≤ 1

namespace Tells

variable {α : Type} {write : α → Json} {name : String} {ms : List (String × Json)}
  {before after : Option α}

theorem nil (a : Option α) : Tells write name [] a a where
  value := by rw [lookup, Option.or_none]
  fresh := fun _ hmem => by cases hmem
  once := Nat.zero_le 1

theorem other (h : Tells write name ms before after) {name' : String} (hne : name' ≠ name)
    (v : Json) : Tells write name ((name', v) :: ms) before after where
  value := by rw [h.value, lookup, if_neg hne]
  fresh := by
    intro hbefore hmem
    rcases List.mem_cons.1 hmem with heq | hmem
    · exact hne heq.symm
    · exact h.fresh hbefore hmem
  once := by
    rw [List.map_cons, List.count_cons_of_ne hne]
    exact h.once

theorem own {a : α} (h : Tells write name ms (some a) after) :
    Tells write name ((name, write a) :: ms) none after where
  value := by
    rw [h.value, lookup, if_pos rfl]
    rfl
  fresh := by
    intro hbefore
    cases hbefore
  once := by
    have hnone : (ms.map Prod.fst).count name = 0 := List.count_eq_zero.2 (h.fresh rfl)
    rw [List.map_cons, List.count_cons_self]
    omega

end Tells

variable {K : Type} [DecidableEq K] {L : Layout K} {write : (k : K) → L.Value k → Json}

/-- Every field is found by its name. -/
def Layout.Named (L : Layout K) : Prop := ∀ k, L.field? (L.name k) = some k

/-- **What is read of an object as a record** is told by the fields of its text. -/
theorem objectFields_together (hread : ∀ k, (L.read k).TakesAs (write k)) (hnamed : L.Named)
    {n fuel : Nat} {first : Bool} {f g : L.Filling} {ms : List (String × Json)} {c d e : Cursor}
    (hg : L.objectFields fuel first f c = .ok (g, d))
    (hms : membersFrom (value n) fuel first c = .ok (ms, e)) :
    d = e ∧ ∀ k, Tells (write k) (L.name k) ms (f k) (g k) := by
  induction fuel generalizing first f ms c with
  | zero => cases hg
  | succ fuel ih =>
      rw [Layout.objectFields] at hg
      split at hg
      · cases hg
      · next c' hnext =>
          cases hg
          rw [membersFrom, hnext] at hms
          cases hms
          exact ⟨rfl, fun k => .nil _⟩
      · next c' hnext =>
          obtain ⟨name, v, ms', c₁, c₂, rfl, hkey, hv, hrest⟩ := membersFrom_cons hnext hms
          rw [hkey] at hg
          dsimp only at hg
          split at hg
          · next hunknown =>
              split at hg
              · cases hg
              next c₂' hignored =>
              -- no field has the name, and what is passed over ends where it is read to end
              have hskip := (Together.same colon).bind fun _ _ _ => ignored_together n
              obtain ⟨rfl, -⟩ := hskip _ _ _ _ _ hignored hv
              obtain ⟨hend, hfields⟩ := ih hg hrest
              refine ⟨hend, fun k => (hfields k).other ?_ v⟩
              rintro rfl
              cases hunknown.symm.trans (hnamed k)
          · next k₀ hknown =>
              split at hg
              · cases hg
              next hfresh =>
              split at hg
              · cases hg
              next x c₂' hx =>
              have hname : L.name k₀ = name := by simpa using List.find?_some hknown
              have htake := (Together.same colon).bind fun _ _ _ => hread k₀ n
              obtain ⟨rfl, rfl⟩ := htake _ _ _ _ _ hx hv
              obtain ⟨hend, hfields⟩ := ih hg hrest
              refine ⟨hend, fun k => ?_⟩
              have hk := hfields k
              by_cases hkk : k₀ = k
              · subst hkk
                rw [Layout.Filling.put_self] at hk
                rw [Option.not_isSome_iff_eq_none.1 hfresh, ← hname]
                exact hk.own
              · rw [Layout.Filling.put_of_ne f x hkk] at hk
                refine hk.other ?_ _
                rintro rfl
                exact hkk (Option.some.inj (hknown.symm.trans (hnamed k)))

/-! ### The items of a list -/

theorem nextItem_closing {first : Bool} {c : Cursor} (h : c.skipBlanks.peek? = some ']') :
    nextItem first c = .ok (false, c.skipBlanks) := by
  rw [nextItem, peekAfterBlanks_bind, get_bind, if_neg (by simp [Cursor.atEnd_of_peek? h]),
    if_pos h]
  rfl

/-- The items of a text fill the fields of a list in order; fields at the end may be left out if
something stands for them. -/
inductive Fills (L : Layout K) (write : (k : K) → L.Value k → Json) (g : L.Filling) :
    List K → List Json → Prop
  | nil : Fills L write g [] []
  | item {k : K} {x : L.Value k} {ks : List K} {vs : List Json} (hk : g k = some x)
      (h : Fills L write g ks vs) : Fills L write g (k :: ks) (write k x :: vs)
  | absent {k : K} {x : L.Value k} {ks : List K} (hk : g k = some x)
      (habsent : L.absent k = .defaulted x) (h : Fills L write g ks []) :
      Fills L write g (k :: ks) []

/-- **What is read of a list as a record** is told by the items of its text. -/
theorem listFields_together (hread : ∀ k, (L.read k).TakesAs (write k)) {n fuel i : Nat}
    {ks : List K} (hks : ks.Nodup) {f g : L.Filling} {acc vs : List Json} {c d d' e : Cursor}
    (hg : L.listFields ks i f c = .ok (g, d)) (hend : listEnd d = .ok ((), d'))
    (hvs : itemsFrom (value n) fuel i acc c = .ok (vs, e)) :
    d' = e.skipBlanks.advance ∧ (∀ k, k ∉ ks → g k = f k) ∧
      ∃ ws, vs = acc.reverse ++ ws ∧ Fills L write g ks ws := by
  induction ks generalizing fuel i f acc c with
  | nil =>
      cases hg
      obtain ⟨hclose, rfl⟩ := listEnd_closes hend
      cases fuel with
      | zero => cases hvs
      | succ fuel =>
          rw [itemsFrom, nextItem_closing hclose] at hvs
          cases hvs
          rw [Cursor.skipBlanks_skipBlanks]
          exact ⟨rfl, fun _ _ => rfl, [], (List.append_nil _).symm, .nil⟩
  | cons k ks ih =>
      obtain ⟨hk, hks⟩ := List.nodup_cons.1 hks
      have hothers : ∀ {x : L.Value k}, (∀ j, j ∉ ks → g j = f.put k x j) →
          ∀ j, j ∉ k :: ks → g j = f j := by
        intro x h j hj
        rw [h j fun hmem => hj (List.mem_cons_of_mem _ hmem)]
        exact Layout.Filling.put_of_ne f x fun heq => hj (heq ▸ List.mem_cons_self ..)
      cases fuel with
      | zero => cases hvs
      | succ fuel =>
          rw [Layout.listFields] at hg
          rw [itemsFrom] at hvs
          split at hg
          · cases hg
          · next c' hnext =>
              rw [hnext] at hvs
              cases hvs
              split at hg
              · next x habsent =>
                  -- the bracket stays in place, so no later field has an item either
                  have hhere : c.skipBlanks.skipBlanks.peek? = some ']' ∧ e = c.skipBlanks := by
                    cases next_of_nextItem hnext with
                    | closing h =>
                        rw [Cursor.skipBlanks_skipBlanks]
                        exact ⟨h, rfl⟩
                  obtain ⟨hclose, rfl⟩ := hhere
                  have hvs : itemsFrom (value n) 1 (i + 1) acc c.skipBlanks =
                      .ok (acc.reverse, c.skipBlanks) := by
                    rw [itemsFrom, nextItem_closing hclose, Cursor.skipBlanks_skipBlanks]
                  obtain ⟨hd, hg', ws, hws, hfills⟩ := ih hks hg hvs
                  obtain rfl := List.append_right_eq_self.1 hws.symm
                  refine ⟨hd, hothers hg', [], hws, .absent ?_ habsent hfills⟩
                  rw [hg' k hk, Layout.Filling.put_self]
              · cases hg
          · next c' hnext =>
              rw [hnext] at hvs
              dsimp only at hvs
              split at hg
              · cases hg
              next x c₁ hx =>
              split at hvs
              · cases hvs
              next v c₂ hv =>
              obtain ⟨rfl, rfl⟩ := hread k n _ _ _ _ _ hx (of_inside_eq_ok hv)
              obtain ⟨hd, hg', ws, rfl, hfills⟩ := ih hks hg hvs
              refine ⟨hd, hothers hg', write k x :: ws, ?_, .item ?_ hfills⟩
              · rw [List.reverse_cons, List.append_assoc]
                rfl
              · rw [hg' k hk, Layout.Filling.put_self]

/-! ### Records -/

/-- The value that stands for an absent field, if it may be absent. -/
def Absence.value? {α : Type} (write : α → Json) : Absence α → Option Json
  | .required => none
  | .omittable a => some (write a)
  | .defaulted a => some (write a)

/-- A field as a record that was read holds it: its name, what stands for it if it is absent, and
what is written for its value. -/
structure HeldField where
  name : String
  absent : Option Json
  value : Json

/-- The fields of a text are held by a record: none repeats, and each has its value or is absent. -/
def HeldBy (ms : List (String × Json)) (fields : List HeldField) : Prop :=
  ∀ f ∈ fields, (ms.map Prod.fst).count f.name ≤ 1 ∧ (lookup f.name ms).or f.absent = some f.value

/-- The items of a text are held by a record: there are no more than it has fields, and each has the
value of the field in its position, or is absent. -/
def ListedBy (items : List Json) (fields : List HeldField) : Prop :=
  items.length ≤ fields.length ∧
    ∀ (i : Nat) (f : HeldField), fields[i]? = some f → items[i]?.or f.absent = some f.value

/-- The fields of a layout are those that a record holds. -/
def Layout.Holds (L : Layout K) (write : (k : K) → L.Value k → Json)
    (get : (k : K) → Except Problem (L.Value k)) : List K → List HeldField → Prop :=
  List.Forall₂ fun k f => ∃ x, get k = .ok x ∧
    f = ⟨L.name k, (L.absent k).value? (write k), write k x⟩

omit [DecidableEq K] in
theorem Layout.or_absent_of_resolve {f : L.Filling} {k : K} {x : L.Value k}
    (h : L.resolve f k = .ok x) :
    ((f k).map (write k)).or ((L.absent k).value? (write k)) = some (write k x) := by
  rw [resolve] at h
  split at h
  · next hk =>
      cases h
      rw [hk]
      rfl
  · next hk =>
      rw [hk]
      split at h
      · cases h
      · next habsent =>
          cases h
          rw [habsent]
          rfl
      · next habsent =>
          cases h
          rw [habsent]
          rfl

omit [DecidableEq K] in
theorem Layout.Holds.heldBy {f : L.Filling} {ms : List (String × Json)} {ks : List K}
    {fields : List HeldField} (h : L.Holds write (L.resolve f) ks fields)
    (hf : ∀ k, Tells (write k) (L.name k) ms none (f k)) : HeldBy ms fields := by
  induction h with
  | nil =>
      intro field hfield
      cases hfield
  | cons hk _ ih =>
      intro field hfield
      rcases List.mem_cons.1 hfield with rfl | hfield
      · obtain ⟨x, hx, rfl⟩ := hk
        refine ⟨(hf _).once, ?_⟩
        rw [← or_absent_of_resolve hx, (hf _).value]
        rfl
      · exact ih field hfield

omit [DecidableEq K] in
theorem Fills.listedBy {f : L.Filling} {items : List Json} {ks : List K} {fields : List HeldField}
    (hf : Fills L write f ks items) (h : L.Holds write (L.resolve f) ks fields) :
    ListedBy items fields := by
  induction hf generalizing fields with
  | nil =>
      cases h
      refine ⟨Nat.le_refl 0, fun i field hfield => ?_⟩
      cases hfield
  | item hk _ ih =>
      rcases h with _ | ⟨⟨y, hy, rfl⟩, hrest⟩
      obtain ⟨hlength, hitems⟩ := ih hrest
      refine ⟨Nat.succ_le_succ hlength, fun i field hfield => ?_⟩
      cases i with
      | zero =>
          cases hfield
          rw [← Layout.or_absent_of_resolve hy, hk]
          rfl
      | succ i => exact hitems i field hfield
  | absent hk habsent _ ih =>
      rcases h with _ | ⟨⟨y, hy, rfl⟩, hrest⟩
      obtain ⟨hlength, hitems⟩ := ih hrest
      refine ⟨Nat.zero_le _, fun i field hfield => ?_⟩
      cases i with
      | zero =>
          cases hfield
          rw [Layout.resolve, hk] at hy
          cases hy
          rw [habsent]
          rfl
      | succ i => exact hitems i field hfield

/-- A record is faithful to what its layout reads: each reader takes what is there as the value that
is written, names and positions tell the fields apart, and the record holds the fields that it was
built from. -/
structure Layout.Faithful {α : Type} (L : Layout K) (write : (k : K) → L.Value k → Json)
    (build : ((k : K) → Except Problem (L.Value k)) → Except Problem α)
    (fields : α → List HeldField) : Prop where
  read : ∀ k, (L.read k).TakesAs (write k)
  named : L.Named
  nodup : L.order.Nodup
  holds : ∀ get a, build get = .ok a → L.Holds write get L.order (fields a)

section Together

variable {α : Type} {build : ((k : K) → Except Problem (L.Value k)) → Except Problem α}
  {fields : α → List HeldField} (h : L.Faithful write build fields)

include h

theorem objectRecord_together (n : Nat) :
    (do
      eat
      let f ← fun c => L.objectFields (c.rest.length + 1) true (Layout.Filling.empty L) c
      match build (L.resolve f) with
      | .error p => fun c => .error (p.at (Layout.objectPlace c))
      | .ok a => do
          objectEnd
          pure a : Reader α).Together (membersOf (value n)) fun a ms => HeldBy ms (fields a) := by
  refine (Together.same eat).bind fun _ _ _ => ?_
  have hfields : Reader.Together
      (fun c => L.objectFields (c.rest.length + 1) true (Layout.Filling.empty L) c)
      (allMembers (value n)) fun f ms => ∀ k, Tells (write k) (L.name k) ms none (f k) :=
    fun c _ _ _ _ => objectFields_together h.read h.named
  refine hfields.bind fun f ms hf => ?_
  cases hbuilt : build (L.resolve f) with
  | error p =>
      refine .of_never_left fun c a c' h => ?_
      cases h
  | ok a =>
      exact (Together.same objectEnd).bind fun _ _ _ => .pure ((h.holds _ _ hbuilt).heldBy hf)

/-- **A record holds the fields of an object.** -/
theorem record_together_members :
    (L.record build).Together members fun a ms => HeldBy ms (fields a) := by
  refine (Together.same valueStart).bind ?_
  rintro next _ rfl
  split
  · exact objectRecord_together h _
  · exact .of_never_right (.failPeek _)

/-- A record that is written as a list holds the items of the text. -/
theorem listRecord_together (n : Nat) :
    (do
      eat
      let f ← fun c => L.listFields L.order 0 (Layout.Filling.empty L) c
      match build (L.resolve f) with
      | .error p => failHere p
      | .ok a => do
          listEnd
          pure a : Reader α).Together (listOf (value n)) fun a items =>
        ListedBy items (fields a) := by
  refine (Together.same eat).bind fun _ _ _ c a c₁ items c₂ hrecord hitems => ?_
  obtain ⟨f, d, hf, hrecord⟩ := of_bind_eq_ok hrecord
  obtain ⟨vs, e, hvs, hitems⟩ := of_bind_eq_ok hitems
  obtain ⟨_, e', hend', hitems⟩ := of_bind_eq_ok hitems
  cases hitems
  cases hbuilt : build (L.resolve f) with
  | error p =>
      rw [hbuilt] at hrecord
      cases hrecord
  | ok b =>
      rw [hbuilt] at hrecord
      obtain ⟨_, d', hend, hrecord⟩ := of_bind_eq_ok hrecord
      cases hrecord
      obtain ⟨rfl, -, ws, rfl, hfills⟩ := listFields_together h.read h.nodup hf hend hvs
      exact ⟨(listEnd_closes hend').2.symm, hfills.listedBy (h.holds _ _ hbuilt)⟩

/-- **A record holds the items of a list.** -/
theorem record_together_value (n : Nat) :
    (L.record build).Together (value n) fun a v =>
      (∃ fs, v = .obj fs) ∨ ∃ items, v = .arr items ∧ ListedBy items (fields a) := by
  refine together_of_first (.mismatch _) (fun a r hr => ?_) (fun n => ?_) (fun n => ?_) n
  · split
    · next hbrace =>
        cases hbrace
        cases hr
    split
    · next hbracket =>
        cases hbracket
        cases hr
    · exact .of_never_left (.mismatch _)
  · rw [if_neg (by decide), if_pos rfl]
    exact (listRecord_together h n).map fun a items hitems => .inr ⟨items, rfl, hitems⟩
  · rw [if_pos rfl]
    intro c a c₁ v c₂ hrecord hvalue
    obtain ⟨fs, d, hfs, hvalue⟩ := of_bind_eq_ok hvalue
    cases hvalue
    obtain ⟨ms, hms, -⟩ := membersOf_of_objectOf hfs
    exact ⟨(objectRecord_together h n _ _ _ _ _ hrecord hms).1, .inl ⟨fs, rfl⟩⟩

end Together

end Record

end Json

end TableAccess
