/-
**The keys in the store.**

Every user has at most one key, and no two users have the same token.  Issuing and rotating both
look for a collision, each in its own way: a new key must not be anybody's, while a rotated one may
not be anybody else's.  Together they keep the invariant of this module over every run of requests,
and the invariant is what makes the look-up of a token, which takes the first record that has it,
the inverse of the look-up of a user.

Main definitions:

* `Store.KeysSound` — records are filed under their owners, with accepted and distinct tokens;
* `Request.KeyAccepted` — a request carries no key that was not accepted.

Main results:

* `Store.KeysSound.answer`, `Store.KeysSound.serve` — one request keeps the invariant, and so does
  every run;
* `Store.KeysSound.resolveKey_eq_some_iff` — looking up a token and looking up a user are inverse;
* `Store.key_store_stays_sound` — what the invariant says about a store after any run.
-/
import TableAccess.Proofs.AcceptedKeys
import TableAccess.Proofs.Serving
import TableAccess.Proofs.Shelves

set_option relaxedAutoImplicit false
set_option autoImplicit false

namespace TableAccess

/-- The key that a request brings, if it brings one, was accepted. -/
def Request.KeyAccepted : Request → Prop
  | .createKey _ k _ => k.Accepted
  | .rotateKey _ k _ => k.Accepted
  | _ => True

/-- Records are filed under their owners, their tokens are accepted ones, and no two have the same
token. -/
structure Store.KeysSound (s : Store) : Prop where
  filed : ∀ u r, s.accessKeys.find? u = some r → r.userId = u
  accepted : ∀ u r, s.accessKeys.find? u = some r → r.accessKey.Accepted
  distinct : ∀ u v q r, s.accessKeys.find? u = some q → s.accessKeys.find? v = some r →
    q.accessKey = r.accessKey → u = v

namespace Store

namespace KeysSound

variable {s t : Store}

/-! ### The invariant depends on the keys alone -/

theorem congr (h : s.KeysSound) (hst : t.accessKeys = s.accessKeys) : t.KeysSound := by
  obtain ⟨hf, ha, hd⟩ := h
  constructor <;> rw [hst] <;> assumption

theorem empty : Store.empty.KeysSound := by
  constructor <;> intro u <;> intros <;> simp_all [Store.empty]

/-! ### Filing and taking out a record -/

/-- Filing a record under its owner keeps the invariant when its token is accepted and no other
user has it. -/
theorem insert (h : s.KeysSound) {u : UserId} {r : AccessKeyRecord} (hu : r.userId = u)
    (hr : r.accessKey.Accepted)
    (hfree : ∀ v q, v ≠ u → s.accessKeys.find? v = some q → q.accessKey ≠ r.accessKey) :
    Store.KeysSound { s with accessKeys := s.accessKeys.insert u r } := by
  constructor
  · intro v q hq
    rw [Shelf.find?_insert] at hq
    split at hq
    · next huv =>
        cases hq
        rw [hu, huv]
    · exact h.filed v q hq
  · intro v q hq
    rw [Shelf.find?_insert] at hq
    split at hq
    · cases hq
      exact hr
    · exact h.accepted v q hq
  · -- at most one of two records with the same token can be the new one, unless both are
    intro v w q q' hq hq' hkey
    rw [Shelf.find?_insert] at hq hq'
    split at hq <;> split at hq'
    · next huv huw => rw [← huv, ← huw]
    · next huv huw =>
        cases hq
        exact absurd hkey.symm (hfree w q' (Ne.symm huw) hq')
    · next huv huw =>
        cases hq'
        exact absurd hkey (hfree v q (Ne.symm huv) hq)
    · exact h.distinct v w q q' hq hq' hkey

theorem erase (h : s.KeysSound) (u : UserId) :
    Store.KeysSound { s with accessKeys := s.accessKeys.erase u } := by
  have hle : ∀ v q, (s.accessKeys.erase u).find? v = some q → s.accessKeys.find? v = some q := by
    intro v q hq
    rw [Shelf.find?_erase] at hq
    split at hq
    · cases hq
    · exact hq
  exact ⟨fun v q hq => h.filed v q (hle v q hq), fun v q hq => h.accepted v q (hle v q hq),
    fun v w q q' hq hq' => h.distinct v w q q' (hle v q hq) (hle w q' hq')⟩

/-- Giving a user a key that nobody else has keeps the invariant. -/
theorem putKey (h : s.KeysSound) (now : Instant) {u : UserId} {k : AccessKey} (hk : k.Accepted)
    (hfree : ∀ v q, v ≠ u → s.accessKeys.find? v = some q → q.accessKey ≠ k) :
    (s.putKey now u k).KeysSound := h.insert rfl hk hfree

/-! ### One request -/

/-- **Every request keeps the invariant**, if the key that it brings was accepted. -/
theorem answer (h : s.KeysSound) {now : Instant} {r : Request} (hr : r.KeyAccepted) :
    (s.answer now r).2.KeysSound := by
  by_cases hkeys : r.changes? = some .keys
  · cases r with
    | createKey u k c =>
        obtain ⟨e, he⟩ | ⟨-, -, hfree, he⟩ := s.createKey_cases now u k c
        · rw [Store.answer, he]
          exact h
        · rw [Store.answer, he]
          exact h.insert rfl hr fun v q _ hq => hfree q (Shelf.mem_values_of_find? hq)
    | rotateKey u k c =>
        obtain ⟨e, he⟩ | ⟨-, he⟩ | ⟨q, hq, hfree, he⟩ := s.rotateKey_cases now u k c
        · rw [Store.answer, he]
          exact h
        · rw [Store.answer, he]
          exact h
        · rw [Store.answer, he]
          refine h.insert (h.filed u q hq) hr fun v q' hv hq' => ?_
          -- the collision check compares owners as they are recorded, which is where they are filed
          have hown : q'.userId ≠ u := by rwa [h.filed v q' hq']
          exact hfree q' (Shelf.mem_values_of_find? hq') hown
    | deleteKey u => exact h.erase u
    | _ => cases hkeys
  · exact h.congr (answer_accessKeys hkeys)

/-- **Every run of requests keeps the invariant.** -/
theorem serve (h : s.KeysSound) {rs : List (Instant × Request)}
    (hrs : ∀ x ∈ rs, x.2.KeyAccepted) : (serve rs s).KeysSound :=
  serve_keeps (fun _ _ _ hr hs => hs.answer hr) hrs h

/-! ### Looking up -/

/-- The record with a token is the one found first. -/
theorem find?_values_eq_some_iff (h : s.KeysSound) {token : String} {r : AccessKeyRecord} :
    s.accessKeys.values.find? (fun q => q.accessKey.token = token) = some r ↔
      s.accessKeys.find? r.userId = some r ∧ r.accessKey.token = token := by
  constructor
  · intro hr
    obtain ⟨⟨u, hu⟩, htoken⟩ := Shelf.find?_values_eq_some hr
    rw [h.filed u r hu]
    exact ⟨hu, by simpa using htoken⟩
  · rintro ⟨hr, htoken⟩
    cases hq : s.accessKeys.values.find? fun q => q.accessKey.token = token with
    | none =>
        rw [List.find?_eq_none] at hq
        exact absurd htoken (by simpa using hq r (Shelf.mem_values_of_find? hr))
    | some q =>
        obtain ⟨⟨u, hu⟩, hqtoken⟩ := Shelf.find?_values_eq_some hq
        have hkey : q.accessKey = r.accessKey :=
          AccessKey.ext ((by simpa using hqtoken : q.accessKey.token = token).trans htoken.symm)
        have huser : u = r.userId := h.distinct u r.userId q r hu hr hkey
        rw [huser, hr] at hu
        exact hu.symm

/-- **Looking up a token and looking up a user are inverse.** -/
theorem resolveKey_eq_some_iff (h : s.KeysSound) {token : String} {r : AccessKeyRecord} :
    (∃ p, s.resolveKey token = some ⟨r, p⟩) ↔
      s.accessKeys.find? r.userId = some r ∧ r.accessKey.token = token := by
  rw [← h.find?_values_eq_some_iff, resolveKey]
  constructor
  · rintro ⟨p, hp⟩
    obtain ⟨q, hq, hqr⟩ := Option.map_eq_some_iff.1 hp
    cases hqr
    exact hq
  · intro hr
    exact ⟨s.principals.find? r.userId, by rw [hr]; rfl⟩

theorem eq_of_token_eq (h : s.KeysSound) {q r : AccessKeyRecord}
    (hq : s.accessKeys.find? q.userId = some q) (hr : s.accessKeys.find? r.userId = some r)
    (htoken : q.accessKey.token = r.accessKey.token) : q = r := by
  have huser := h.distinct q.userId r.userId q r hq hr (AccessKey.ext htoken)
  rw [huser, hr] at hq
  exact (Option.some_inj.1 hq).symm

end KeysSound

/-! ### The store after any run -/

/-- **The keys stay sound over every run of requests.**  Each user has one record at most, filed
under the user; no token occurs twice; each token is not empty, has at most 36 characters and no
blanks around it; and a token resolves to a record exactly when the owner of the record has it, with
that token, so that a token resolves to one record at most. -/
theorem key_store_stays_sound {s : Store} (h : s.KeysSound) {rs : List (Instant × Request)}
    (hrs : ∀ x ∈ rs, x.2.KeyAccepted) :
    (∀ u r, (serve rs s).accessKeys.find? u = some r → r.userId = u) ∧
    ((serve rs s).accessKeys.values.map AccessKeyRecord.userId).Nodup ∧
    ((serve rs s).accessKeys.values.map fun r => r.accessKey.token).Nodup ∧
    (∀ r ∈ (serve rs s).accessKeys.values, r.accessKey.token ≠ "" ∧
      r.accessKey.token.toList.length ≤ 36 ∧ Text.trim r.accessKey.token = r.accessKey.token) ∧
    (∀ now token r,
      (∃ p, ((serve rs s).answer now (.resolveKey token)).1 = .ok (some ⟨r, p⟩)) ↔
        ((serve rs s).answer now (.findKey r.userId)).1 = .ok (some r) ∧
          r.accessKey.token = token) ∧
    (∀ now q r, ((serve rs s).answer now (.findKey q.userId)).1 = .ok (some q) →
      ((serve rs s).answer now (.findKey r.userId)).1 = .ok (some r) →
      q.accessKey.token = r.accessKey.token → q = r) := by
  have hsound : (serve rs s).KeysSound := h.serve hrs
  have hfind : ∀ now u q, ((serve rs s).answer now (.findKey u)).1 = .ok (some q) ↔
      (serve rs s).accessKeys.find? u = some q := fun _ _ _ => ⟨Except.ok.inj, congrArg Except.ok⟩
  refine ⟨hsound.filed, ?_, ?_, ?_, ?_, ?_⟩
  · refine Shelf.nodup_map_values _ fun u v q r hq hr huser => ?_
    rw [← hsound.filed u q hq, ← hsound.filed v r hr, huser]
  · refine Shelf.nodup_map_values _ fun u v q r hq hr htoken => ?_
    exact hsound.distinct u v q r hq hr (AccessKey.ext htoken)
  · intro r hr
    obtain ⟨u, hu⟩ := Shelf.mem_values_iff.1 hr
    exact AccessKey.accepted_iff.1 (hsound.accepted u r hu)
  · intro now token r
    rw [hfind, ← hsound.resolveKey_eq_some_iff]
    exact exists_congr fun p => ⟨Except.ok.inj, congrArg Except.ok⟩
  · intro now q r hq hr htoken
    exact hsound.eq_of_token_eq ((hfind now _ q).1 hq) ((hfind now _ r).1 hr) htoken

/-- Two users with a key each. -/
def twoKeys : Store :=
  (empty.putKey .year1970 ⟨1⟩ ⟨"alpha"⟩).putKey .year1970 ⟨2⟩ ⟨"beta"⟩

theorem twoKeys_sound : twoKeys.KeysSound := by
  have halpha : (⟨"alpha"⟩ : AccessKey).Accepted := ⟨"alpha", by decide⟩
  have hbeta : (⟨"beta"⟩ : AccessKey).Accepted := ⟨"beta", by decide⟩
  refine (KeysSound.empty.putKey _ halpha fun v q _ hq => by cases hq).putKey _ hbeta ?_
  intro v q _ hq
  rw [putKey, Shelf.find?_insert] at hq
  split at hq
  · cases hq
    decide
  · cases hq

/-- A token moves from one user to another: as long as the first user has it the rotation is
refused, and once that key is deleted it goes through. -/
def moveToken : List (Instant × Request) :=
  [(.year1970, .rotateKey ⟨2⟩ ⟨"alpha"⟩ ⟨1⟩), (.year1970, .deleteKey ⟨1⟩),
    (.year1970, .rotateKey ⟨2⟩ ⟨"alpha"⟩ ⟨1⟩)]

theorem key_store_stays_sound_moveToken :
    twoKeys.KeysSound ∧ (∀ x ∈ moveToken, x.2.KeyAccepted) ∧
    ((serve moveToken twoKeys).accessKeys.values.map AccessKeyRecord.userId).Nodup ∧
    ∃ p, ((serve moveToken twoKeys).answer .year1970 (.resolveKey "alpha")).1 =
      .ok (some ⟨⟨⟨2⟩, ⟨"alpha"⟩, .year1970, .year1970, some ⟨1⟩⟩, p⟩) := by
  have hrs : ∀ x ∈ moveToken, x.2.KeyAccepted := by
    have halpha : (⟨"alpha"⟩ : AccessKey).Accepted := ⟨"alpha", by decide⟩
    simp [moveToken, Request.KeyAccepted, halpha]
  obtain ⟨-, husers, -, -, hresolve, -⟩ := key_store_stays_sound twoKeys_sound hrs
  exact ⟨twoKeys_sound, hrs, husers, (hresolve _ _ _).2 ⟨rfl, rfl⟩⟩

end Store

end TableAccess
