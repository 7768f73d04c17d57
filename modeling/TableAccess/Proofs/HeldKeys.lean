/-
**Who holds a key.**

Keys get into a store in three ways: somebody is given a key when the store is filled, a new key is
created, and a key is rotated.  Each time the key is named, so a key that nobody holds is held by
nobody as long as no act names it.  Each time the record is filed under its owner, so nobody ever
has two tokens.  Both hold whatever else happens, even when a store is filled with keys that
somebody has already.

Main definitions:

* `Store.Act.Supplies` — an act would bring a key into the store;
* `Store.KeyStep` — what an act can make of the records;
* `Store.Unheld`, `Store.Filed` — nobody holds a key, and records are filed under their owners.

Main results:

* `Store.act_keyStep` — an act leaves the records alone, or files one, or takes one out;
* `Store.unheld_acts` — a key that nobody holds stays so until it is supplied;
* `Store.Filed.token_eq` — two tokens that resolve to the same user are equal.
-/
import TableAccess.Proofs.Acts
import TableAccess.Proofs.KeyStore

set_option relaxedAutoImplicit false
set_option autoImplicit false

namespace TableAccess

namespace Store

/-! ### What an act makes of the records -/

/-- The act names a key that it would bring into the store. -/
def Act.Supplies (k : AccessKey) : Act → Prop
  | .putKey _ _ key => key = k
  | .serve _ (.createKey _ key _) => key = k
  | .serve _ (.rotateKey _ key _) => key = k
  | _ => False

/-- What an act can make of the records of a store: it files one with a key that it names, under its
owner or in place of a record of the same owner, or it takes one out. -/
inductive KeyStep (s : Store) : Act → Shelf UserId AccessKeyRecord → Prop
  | idle {a : Act} : KeyStep s a s.accessKeys
  | put {a : Act} {u : UserId} {r : AccessKeyRecord} (hsupplies : a.Supplies r.accessKey)
      (howner : r.userId = u ∨ ∃ q, s.accessKeys.find? u = some q ∧ r.userId = q.userId) :
      KeyStep s a (s.accessKeys.insert u r)
  | remove {a : Act} {u : UserId} : KeyStep s a (s.accessKeys.erase u)

variable {s : Store} {a : Act} {k : AccessKey} {u : UserId}

/-- **An act leaves the records alone, or files one, or takes one out.** -/
theorem act_keyStep (s : Store) (a : Act) : KeyStep s a (s.act a).accessKeys := by
  cases a with
  | putKey now u k => exact .put rfl (.inl rfl)
  | serve now r =>
      by_cases hr : r.changes? = some .keys
      · cases r with
        | createKey u k c =>
            obtain ⟨e, he⟩ | ⟨-, -, -, he⟩ := s.createKey_cases now u k c
            · rw [act, answer, he]
              exact .idle
            · rw [act, answer, he]
              exact .put rfl (.inl rfl)
        | rotateKey u k c =>
            obtain ⟨e, he⟩ | ⟨-, he⟩ | ⟨q, hq, -, he⟩ := s.rotateKey_cases now u k c
            · rw [act, answer, he]
              exact .idle
            · rw [act, answer, he]
              exact .idle
            · rw [act, answer, he]
              exact .put rfl (.inr ⟨q, hq, rfl⟩)
        | deleteKey u => exact .remove
        | _ => cases hr
      · rw [act, answer_accessKeys hr]
        exact .idle
  | _ => exact .idle

/-! ### Keys that nobody holds -/

/-- Nobody holds the key. -/
def Unheld (k : AccessKey) (s : Store) : Prop :=
  ∀ u r, s.accessKeys.find? u = some r → r.accessKey ≠ k

/-- An act that does not supply a key leaves it unheld. -/
theorem unheld_act (ha : ¬ a.Supplies k) (hs : s.Unheld k) : (s.act a).Unheld k := by
  have hstep := s.act_keyStep a
  intro v q hq
  generalize (s.act a).accessKeys = records at hstep hq
  cases hstep with
  | idle => exact hs v q hq
  | put hsupplies _ =>
      rw [Shelf.find?_insert] at hq
      split at hq
      · cases hq
        exact fun hk => ha (hk ▸ hsupplies)
      · exact hs v q hq
  | remove =>
      rw [Shelf.find?_erase] at hq
      split at hq
      · cases hq
      · exact hs v q hq

/-- **A key that nobody holds stays so until it is supplied.** -/
theorem unheld_acts {as : List Act} (has : ∀ a ∈ as, ¬ a.Supplies k) (hs : s.Unheld k) :
    (acts as s).Unheld k :=
  acts_keeps (fun _ _ ha hs => unheld_act ha hs) has hs

theorem Unheld.resolveKey (hs : s.Unheld k) : s.resolveKey k.token = none := by
  rw [Store.resolveKey, Option.map_eq_none_iff]
  cases hq : s.accessKeys.values.find? fun r => r.accessKey.token = k.token with
  | none => rfl
  | some q =>
      obtain ⟨⟨u, hu⟩, htoken⟩ := Shelf.find?_values_eq_some hq
      exact absurd (AccessKey.ext (by simpa using htoken)) (hs u q hu)

/-- A key that was replaced by another is held by nobody: its owner has the other one, and no two
users had the same. -/
theorem KeysSound.unheld_replaced (hs : s.KeysSound) {r r' : AccessKeyRecord}
    (hr : s.accessKeys.find? u = some r) (hnew : r'.accessKey ≠ r.accessKey) :
    Unheld r.accessKey { s with accessKeys := s.accessKeys.insert u r' } := by
  intro v q hq
  rw [Shelf.find?_insert] at hq
  split at hq
  · cases hq
    exact hnew
  · next hvu => exact fun hsame => hvu (hs.distinct u v r q hr hq hsame.symm)

/-- A key that was taken away is held by nobody. -/
theorem KeysSound.unheld_erased (hs : s.KeysSound) {r : AccessKeyRecord}
    (hr : s.accessKeys.find? u = some r) :
    Unheld r.accessKey { s with accessKeys := s.accessKeys.erase u } := by
  intro v q hq
  rw [Shelf.find?_erase] at hq
  split at hq
  · cases hq
  · next hvu => exact fun hsame => hvu (hs.distinct u v r q hr hq hsame.symm)

theorem KeysSound.resolveKey_of_held (hs : s.KeysSound) {r : AccessKeyRecord}
    (hr : s.accessKeys.find? u = some r) :
    s.resolveKey r.accessKey.token = some ⟨r, s.principals.find? u⟩ := by
  have hu : r.userId = u := hs.filed u r hr
  rw [resolveKey, hs.find?_values_eq_some_iff.2 ⟨hu ▸ hr, rfl⟩, ← hu]
  rfl

/-- A token resolves alike in two stores with the same principals in which the same users have
it. -/
theorem KeysSound.resolveKey_eq {t : Store} (hs : s.KeysSound) (ht : t.KeysSound)
    (hprincipals : t.principals = s.principals) {token : String}
    (hsame : ∀ u r, r.accessKey.token = token →
      (t.accessKeys.find? u = some r ↔ s.accessKeys.find? u = some r)) :
    t.resolveKey token = s.resolveKey token := by
  have hfound : t.accessKeys.values.find? (fun r => r.accessKey.token = token) =
      s.accessKeys.values.find? fun r => r.accessKey.token = token := by
    ext1 r
    rw [ht.find?_values_eq_some_iff, hs.find?_values_eq_some_iff]
    exact and_congr_left fun htoken => hsame r.userId r htoken
  rw [resolveKey, resolveKey, hfound, hprincipals]

/-! ### Records under their owners -/

/-- Records are filed under their owners. -/
def Filed (s : Store) : Prop := ∀ u r, s.accessKeys.find? u = some r → r.userId = u

theorem filed_act (a : Act) (hs : s.Filed) : (s.act a).Filed := by
  have hstep := s.act_keyStep a
  intro v q hq
  generalize (s.act a).accessKeys = records at hstep hq
  cases hstep with
  | idle => exact hs v q hq
  | put _ howner =>
      rw [Shelf.find?_insert] at hq
      split at hq
      · next huv =>
          cases hq
          obtain howner | ⟨r, hr, howner⟩ := howner
          · exact howner.trans huv
          · exact (howner.trans (hs _ r hr)).trans huv
      · exact hs v q hq
  | remove =>
      rw [Shelf.find?_erase] at hq
      split at hq
      · cases hq
      · exact hs v q hq

theorem filed_acts (as : List Act) (hs : s.Filed) : (acts as s).Filed :=
  acts_keeps (Q := fun _ => True) (fun a _ _ hs => filed_act a hs) (fun _ _ => trivial) hs

/-- **Two tokens that resolve to the same user are equal.** -/
theorem Filed.token_eq (hs : s.Filed) {token token' : String} {x x' : KeyedPrincipal}
    (hx : s.resolveKey token = some x) (hx' : s.resolveKey token' = some x')
    (huser : x.record.userId = x'.record.userId) : token = token' := by
  obtain ⟨q, hq, rfl⟩ := Option.map_eq_some_iff.1 hx
  obtain ⟨q', hq', rfl⟩ := Option.map_eq_some_iff.1 hx'
  obtain ⟨⟨u, hu⟩, htoken⟩ := Shelf.find?_values_eq_some hq
  obtain ⟨⟨u', hu'⟩, htoken'⟩ := Shelf.find?_values_eq_some hq'
  have hsame : u = u' := (hs u q hu).symm.trans (huser.trans (hs u' q' hu'))
  subst hsame
  cases hu.symm.trans hu'
  simp only [decide_eq_true_eq] at htoken htoken'
  exact htoken.symm.trans htoken'

end Store

end TableAccess
