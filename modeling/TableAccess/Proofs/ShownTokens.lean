/-
**How a token travels.**

Whoever has a token shows it to the gate in one of two ways: in the JSON body of a request, or after
the word `Bearer` in the header field `authorization` of a request without a body.  On its way a
token is escaped and encoded, or put behind the word and trimmed again.  A token in the stored form
arrives as it was.

Main definitions:

* `Http.tokenRecord` — the record with a token;
* `Http.Message.Shows` — a request shows a token.

Main results:

* `Json.takesBack_value_single` — an object with one field is taken back;
* `Http.Message.carries_tokenRecord` — a body with the text of the record carries the record;
* `Http.Guard.bearerToken?_of_header` — a token behind the word `Bearer` is found;
* `Http.Message.Shows.presents` — **the gate is presented with the token that is shown**.
-/
import TableAccess.Proofs.AcceptedKeys
import TableAccess.Proofs.Clearance
import TableAccess.Proofs.TextBytes
import TableAccess.Proofs.WrittenValues

set_option relaxedAutoImplicit false
set_option autoImplicit false

namespace TableAccess

/-! ### Values that are read as such -/

namespace Json

open Reader
open Utf8 (Piece ofString)

theorem takesBack_value_str (depth : Nat) (s : String) :
    (value (depth + 1)).TakesBack (.str s) (.str s) := by
  obtain ⟨hopens, -⟩ := takesBack_string s
  refine ⟨hopens, fun xs _ => ?_⟩
  have hread : (key >>= fun s => pure (.str s) : Reader Json).Reads
      (ofString (Json.str s).render ++ xs) (.str s) xs := (reads_text s xs).bind (.pure _ xs)
  have hscalar : scalar? '"' = some (key >>= fun s => pure (.str s)) := rfl
  have hquote : ofString (Json.str s).render ++ xs =
      .char '"' :: ((s.toList.flatMap escapeChar ++ ['"']).map .char ++ xs) :=
    congrArg (· ++ xs) (ofString_quote s)
  rw [hquote] at hread ⊢
  refine (Reads.peekAfterBlanks rfl _).bind ?_
  dsimp only
  rw [hscalar]
  exact hread

theorem reads_fieldsFrom_single {item : Reader Json} {v : Json} (hv : item.TakesBack v v)
    (name : String) (xs : List Piece) {fuel : Nat} (hfuel : 2 ≤ fuel) (p : Place) :
    ∃ q, fieldsFrom item fuel true [] ⟨fieldPieces name v (.char '\x7d' :: xs), p⟩ =
      .ok ([(name, v)], ⟨.char '\x7d' :: xs, q⟩) := by
  obtain ⟨fuel, rfl⟩ : ∃ n, fuel = n + 2 := ⟨fuel - 2, by omega⟩
  have hcloses : Closes (.char '\x7d' :: xs) := closes_cons (.inr (.inr rfl)) xs
  obtain ⟨ys, hys⟩ := fieldPieces_eq_cons name v (.char '\x7d' :: xs)
  obtain ⟨p₁, hnext⟩ := (reads_nextKey_first ys).inside .unnamed p
  obtain ⟨p₂, hkey⟩ := (reads_text name (.char ':' :: (ofString v.render ++
    .char '\x7d' :: xs))).inside .unnamed p₁
  have hfield : (do colon; inside (.field name) item : Reader Json).Reads
      (.char ':' :: (ofString v.render ++ .char '\x7d' :: xs)) v (.char '\x7d' :: xs) :=
    (reads_colon _).bind ((hv.reads _ hcloses).inside (.field name))
  obtain ⟨p₃, hvalue⟩ := hfield p₂
  obtain ⟨p₄, hend⟩ := (reads_nextKey_end xs).inside .unnamed p₃
  refine ⟨p₄, ?_⟩
  rw [fieldsFrom, hys, hnext, ← hys]
  dsimp only
  rw [fieldPieces, hkey]
  dsimp only
  rw [hvalue]
  dsimp only
  rw [fieldsFrom, hend]
  rfl

/-- **An object with one field is taken back**, if the value of the field is. -/
theorem takesBack_value_single {depth : Nat} {v : Json} (hv : (value (depth + 1)).TakesBack v v)
    (name : String) : (value (depth + 2)).TakesBack (.obj [(name, v)]) (.obj [(name, v)]) := by
  have htext : ∀ xs, ofString (Json.obj [(name, v)]).render ++ xs =
      .char '\x7b' :: fieldPieces name v (.char '\x7d' :: xs) := ofString_render_obj name v []
  refine ⟨⟨'\x7b', ?_, ?_, by decide, by decide⟩, fun xs _ => ?_⟩
  · exact (quote name).toList ++ ":".toList ++ v.render.toList ++ "\x7d".toList
  · simp [render, renderFields]
  have hfields : (objectOf (value (depth + 1))).Reads
      (.char '\x7b' :: fieldPieces name v (.char '\x7d' :: xs)) [(name, v)] xs := by
    refine (Reads.eat _ _).bind (Reads.bind (fun p => ?_) ((reads_objectEnd xs).bind (.pure _ xs)))
    refine reads_fieldsFrom_single hv name xs ?_ p
    obtain ⟨ys, hys⟩ := fieldPieces_eq_cons name v (.char '\x7d' :: xs)
    simp [hys]
  rw [htext]
  refine (Reads.peekAfterBlanks rfl _).bind ?_
  have hscalar : scalar? '\x7b' = none := rfl
  dsimp only
  rw [hscalar]
  dsimp only
  rw [if_neg (by decide), if_pos rfl, if_neg (Nat.succ_ne_zero depth)]
  exact hfields.bind (.pure _ xs)

/-- No character is written with more than six. -/
theorem length_escapeChar_le (c : Char) : (escapeChar c).length ≤ 6 := by
  have hdigits : c.toNat < 0x20 → (Numeral.hexPadded 4 c.toNat).toList.length = 4 :=
    fun h => congrArg List.length (toList_hexPadded_control h)
  unfold escapeChar
  grind

theorem length_flatMap_escapeChar_le (cs : List Char) :
    (cs.flatMap escapeChar).length ≤ 6 * cs.length := by
  induction cs with
  | nil => exact Nat.le_refl 0
  | cons c cs ih =>
      have hone := length_escapeChar_le c
      rw [List.flatMap_cons, List.length_append, List.length_cons]
      omega

end Json

/-! ### Tokens in the stored form -/

namespace Text

theorem dropPrefix?_append (ps cs : List Char) : dropPrefix? ps (ps ++ cs) = some cs := by
  induction ps with
  | nil => rfl
  | cons p ps ih => exact (if_pos rfl).trans ih

end Text

/-- A key in the stored form has no blanks around it. -/
theorem AccessKey.Accepted.trimChars {k : AccessKey} (hk : k.Accepted) :
    Text.trimChars k.token.toList = k.token.toList := by
  obtain ⟨-, -, htrim⟩ := accepted_iff.1 hk
  rw [← Text.toList_trim, htrim]

/-! ### Requests that show a token -/

namespace Http

/-- The record with a token. -/
def tokenRecord (token : String) : Json := .obj [("access_key", .str token)]

/-- The text of the record: a fixed beginning, the characters of the token, and a fixed end. -/
theorem toList_render_tokenRecord (token : String) : (tokenRecord token).render.toList =
    '\x7b' :: ("\"access_key\":\"".toList ++ token.toList.flatMap Json.escapeChar ++
      ['"', '\x7d']) := by
  have hname : Json.quote "access_key" = "\"access_key\"" := by decide
  rw [tokenRecord, Json.render, hname]
  simp [Json.render, Json.renderFields, Json.quote, Json.quoteChars]

/-- **A body with the text of the record carries the record.** -/
theorem Message.carries_tokenRecord {m : Message} {k : AccessKey} (hk : k.Accepted)
    (hbody : m.body = Utf8.encode (tokenRecord k.token).render) :
    m.Carries (tokenRecord k.token) := by
  have htext := toList_render_tokenRecord k.token
  refine ⟨?_, .inr ⟨?_, ?_⟩⟩
  · -- six characters for one of the token at most, and four bytes for each of these
    obtain ⟨-, hlength, -⟩ := AccessKey.accepted_iff.1 hk
    have hmax : AccessKey.maxLength = 36 := rfl
    have hescaped := Json.length_flatMap_escapeChar_le k.token.toList
    have hbytes := Utf8.length_encode_le (tokenRecord k.token).render
    have hbegin : "\"access_key\":\"".toList.length = 14 := by decide
    rw [htext, List.length_cons, List.length_append, List.length_append, hbegin] at hbytes
    rw [hbody]
    simp only [List.length_cons, List.length_nil] at hbytes
    omega
  · rw [hbody, Utf8.encode_eq, htext]
    rfl
  · rw [hbody, Utf8.pieces_encode]
    exact (Json.takesBack_value_single (Json.takesBack_value_str 126 k.token) "access_key").run

/-- **A token behind the word `Bearer` is found** in the first header field with the right name, if
all of its characters are visible there. -/
theorem Guard.bearerToken?_of_header {m : Message} {k : AccessKey} (hk : k.Accepted) {name : String}
    (hheader : m.headers.find? (fun h => Text.lowerAscii h.1.toList = "authorization".toList) =
      some (name, "Bearer " ++ k.token))
    (hvisible : ∀ c ∈ k.token.toList, isVisible c = true) :
    bearerToken? m = some k.token := by
  obtain ⟨hne, -, -⟩ := AccessKey.accepted_iff.1 hk
  have hshown : ("Bearer " ++ k.token).toList.all isVisible = true := by
    rw [String.toList_append, List.all_append, List.all_eq_true.2 hvisible]
    decide
  have hfield : m.header? "authorization" = some ("Bearer " ++ k.token) := by
    rw [Message.header?, hheader]
    exact if_pos hshown
  have hfilter : (some k.token).filter (fun s => !s.isEmpty) = some k.token := by
    simp [Option.filter, hne]
  rw [bearerToken?, hfield, Option.bind_some, String.toList_append, Text.dropPrefix?_append,
    Option.map_some, hk.trimChars, String.ofList_toList, hfilter]

/-- **A request shows a token**: in its body, in whatever form, as the text of an object with the
token in its field `access_key`, or as the compact text of the record; or, without a body, after the
word `Bearer` in its first header field `authorization`, where a token with other than visible
characters cannot be shown. -/
inductive Message.Shows (m : Message) (token : String) : Prop
  | inBody {v : Json} (hbody : m.Carries v) (hfield : v.get? "access_key" = some (.str token))
  | inText (hbody : m.body = Utf8.encode (tokenRecord token).render)
  | inHeader {name : String} (hbody : m.body = [])
      (hheader : m.headers.find? (fun h => Text.lowerAscii h.1.toList = "authorization".toList) =
        some (name, "Bearer " ++ token))
      (hvisible : ∀ c ∈ token.toList, isVisible c = true)

/-- **The gate is presented with the token that is shown.** -/
theorem Message.Shows.presents {m : Message} {k : AccessKey} (hk : k.Accepted)
    (h : m.Shows k.token) : m.Presents k.token := by
  obtain ⟨hne, -, -⟩ := AccessKey.accepted_iff.1 hk
  cases h with
  | inBody hbody hfield => exact ⟨hne, _, hbody, by rw [hfield]; rfl⟩
  | inText hbody => exact ⟨hne, _, carries_tokenRecord hk hbody, rfl⟩
  | inHeader hbody hheader hvisible =>
      have hcarries : m.Carries (.obj []) := by
        rw [Carries, hbody]
        exact ⟨Nat.zero_le _, .inl ⟨rfl, rfl⟩⟩
      exact ⟨hne, _, hcarries, Guard.bearerToken?_of_header hk hheader hvisible⟩

end Http

end TableAccess
