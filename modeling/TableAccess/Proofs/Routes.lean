/-
**Where a resource hangs decides who may use it.**

Paths below `/api/admin/` are for administrators, paths below `/api/v1/` for active principals, and
every other path that names a resource is for anyone.  This is read off the words of a path, which
are cut at its slashes.

Main results:

* `Text.splitOn_append`, `Text.splitOn_eq_cons_cons` — the first word of a text, both ways;
* `Http.Route.access_of_ofPath?` — the beginning of a path decides who may use its resource.
-/
import TableAccess.Http.Route

set_option relaxedAutoImplicit false
set_option autoImplicit false

namespace TableAccess

namespace Text

/-! ### Words -/

theorem splitOn_ne_nil (sep : Char) (cs : List Char) : splitOn sep cs ≠ [] := by
  induction cs with
  | nil =>
      intro h
      cases h
  | cons c cs ih =>
      rw [splitOn]
      split
      · intro h
        cases h
      · split
        · intro h
          cases h
        · intro h
          cases h

/-- A text that begins with a word and the separator. -/
theorem splitOn_append {sep : Char} {a : List Char} (ha : sep ∉ a) (cs : List Char) :
    splitOn sep (a ++ sep :: cs) = a :: splitOn sep cs := by
  induction a with
  | nil => rw [List.nil_append, splitOn, if_pos rfl]
  | cons c a ih =>
      have hc : c ≠ sep := fun h => ha (h ▸ List.mem_cons_self ..)
      have ha' : sep ∉ a := fun h => ha (List.mem_cons_of_mem c h)
      rw [List.cons_append, splitOn, if_neg hc, ih ha']

/-- A text of several words begins with the first of them and the separator. -/
theorem splitOn_eq_cons_cons {sep : Char} {cs a b : List Char} {ws : List (List Char)}
    (h : splitOn sep cs = a :: b :: ws) :
    ∃ rest, cs = a ++ sep :: rest ∧ splitOn sep rest = b :: ws := by
  induction cs generalizing a with
  | nil => cases h
  | cons c cs ih =>
      -- the first character ends the first word, which is empty then, or belongs to it
      rw [splitOn] at h
      split at h
      · next hc =>
          obtain ⟨rfl, hws⟩ := List.cons.inj h
          exact ⟨cs, by rw [hc, List.nil_append], hws⟩
      · split at h
        · cases h
        · next p ps hps =>
            cases h
            obtain ⟨rest, rfl, hrest⟩ := ih hps
            exact ⟨rest, rfl, hrest⟩

end Text

namespace Http

namespace Route

/-! ### The beginning of a path -/

/-- A path begins with two words when these are its first two and not its last. -/
theorem isPrefix_iff_words {a b rest : List Char} (ha : '/' ∉ a) (hb : '/' ∉ b) :
    ('/' :: (a ++ '/' :: (b ++ ['/']))) <+: '/' :: rest ↔
      ∃ c ws, Text.splitOn '/' rest = a :: b :: c :: ws := by
  rw [List.cons_prefix_cons]
  constructor
  · rintro ⟨-, cs, rfl⟩
    have hsplit : Text.splitOn '/' (a ++ '/' :: (b ++ ['/']) ++ cs) =
        a :: b :: Text.splitOn '/' cs := by
      rw [List.append_assoc, List.cons_append, Text.splitOn_append ha, List.append_assoc,
        List.singleton_append, Text.splitOn_append hb]
    cases hcs : Text.splitOn '/' cs with
    | nil => exact absurd hcs (Text.splitOn_ne_nil '/' cs)
    | cons c ws => exact ⟨c, ws, hsplit.trans (by rw [hcs])⟩
  · rintro ⟨c, ws, hwords⟩
    obtain ⟨rest', rfl, hwords'⟩ := Text.splitOn_eq_cons_cons hwords
    obtain ⟨cs, rfl, -⟩ := Text.splitOn_eq_cons_cons hwords'
    exact ⟨rfl, cs, by simp⟩

theorem access_of_ofAdminWords? {ws : List (List Char)} {r : Route}
    (h : ofAdminWords? ws = some r) : r.access = .administrator ∧ ws ≠ [] := by
  unfold ofAdminWords? at h
  split at h
  · refine ⟨?_, List.cons_ne_nil _ _⟩
    split at h
    · cases h
      rfl
    · split at h
      · cases h
        rfl
      · split at h <;> cases h
        rfl
  · refine ⟨?_, List.cons_ne_nil _ _⟩
    split at h
    · unfold ofKeyWord? at h
      split at h
      · cases h
        rfl
      · split at h
        · cases h
          rfl
        · split at h <;> cases h
          rfl
    · split at h
      · unfold ofGrantWord? at h
        split at h
        · cases h
          rfl
        · split at h
          · cases h
            rfl
          · split at h <;> cases h
            rfl
      · cases h
  · cases h

/-- Two texts that differ in one of their first two words. -/
theorem words_ne {a b a' b' : List Char} {rest : List (List Char)} (h : a ≠ a' ∨ b ≠ b') :
    ¬ ∃ c ws, a :: b :: rest = a' :: b' :: c :: ws := by
  rintro ⟨c, ws, hwords⟩
  obtain ⟨ha, hwords⟩ := List.cons.inj hwords
  obtain ⟨hb, -⟩ := List.cons.inj hwords
  obtain hne | hne := h
  · exact hne ha
  · exact hne hb

theorem access_of_ofWords? {words : List (List Char)} {r : Route} (h : ofWords? words = some r) :
    (r.access = .administrator ↔
        ∃ c ws, words = "api".toList :: "admin".toList :: c :: ws) ∧
      (r.access = .activePrincipal ↔
        ∃ c ws, words = "api".toList :: "v1".toList :: c :: ws) := by
  have hauth : "auth".toList ≠ "api".toList := by decide
  have hv1 : "v1".toList ≠ "admin".toList := by decide
  have hanyone : Access.anyone ≠ .administrator ∧ Access.anyone ≠ .activePrincipal := by decide
  have hactive : Access.activePrincipal ≠ .administrator := by decide
  unfold ofWords? at h
  split at h
  · -- a single word
    have hsingle : ∀ {a a' b' : List Char}, ¬ ∃ c ws, [a] = a' :: b' :: c :: ws := by
      rintro a a' b' ⟨c, ws, hwords⟩
      cases hwords
    split at h <;> cases h
    exact ⟨iff_of_false hanyone.1 hsingle, iff_of_false hanyone.2 hsingle⟩
  · next a b rest =>
      split at h
      · next hwords =>
          rw [Bool.and_eq_true, decide_eq_true_eq, decide_eq_true_eq] at hwords
          obtain ⟨rfl, -⟩ := hwords
          split at h
          · split at h <;> cases h
            exact ⟨iff_of_false hanyone.1 (words_ne (.inl hauth)),
              iff_of_false hanyone.2 (words_ne (.inl hauth))⟩
          · cases h
      · split at h
        · next hwords =>
            rw [Bool.and_eq_true, decide_eq_true_eq, decide_eq_true_eq] at hwords
            obtain ⟨rfl, rfl⟩ := hwords
            split at h
            · split at h
              · cases h
                exact ⟨iff_of_false hactive (words_ne (.inr hv1)), iff_of_true rfl ⟨_, _, rfl⟩⟩
              · split at h <;> cases h
                exact ⟨iff_of_false hactive (words_ne (.inr hv1)), iff_of_true rfl ⟨_, _, rfl⟩⟩
            · cases h
        · split at h
          · next hwords =>
              rw [Bool.and_eq_true, decide_eq_true_eq, decide_eq_true_eq] at hwords
              obtain ⟨rfl, rfl⟩ := hwords
              obtain ⟨haccess, hrest⟩ := access_of_ofAdminWords? h
              obtain ⟨c, ws, rfl⟩ := List.exists_cons_of_ne_nil hrest
              rw [haccess]
              exact ⟨iff_of_true rfl ⟨c, ws, rfl⟩,
                iff_of_false hactive.symm (words_ne (.inr hv1.symm))⟩
          · cases h
  · cases h

/-- **The beginning of a path decides who may use its resource.** -/
theorem access_of_ofPath? {path : List Char} {r : Route} (h : ofPath? path = some r) :
    (r.access = .administrator ↔ "/api/admin/".toList <+: path) ∧
      (r.access = .activePrincipal ↔ "/api/v1/".toList <+: path) := by
  have hadmin : "/api/admin/".toList =
      '/' :: ("api".toList ++ '/' :: ("admin".toList ++ ['/'])) := by
    decide
  have hv1 : "/api/v1/".toList = '/' :: ("api".toList ++ '/' :: ("v1".toList ++ ['/'])) := by
    decide
  unfold ofPath? at h
  split at h
  · rw [hadmin, hv1, isPrefix_iff_words (by decide) (by decide),
      isPrefix_iff_words (by decide) (by decide)]
    exact access_of_ofWords? h
  · cases h

end Route

end Http

end TableAccess
