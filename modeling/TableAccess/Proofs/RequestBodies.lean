/-
**The gate and the operation read the same request.**

The body of a request is read twice: the gate reads a value, and the operation behind it a record.
Both readings take the same text, which is that of a record without fields where the body is blank.
Whenever both succeed, each field of the record is the one that the value has for it: by its name if
the value is an object, by its position if it is a list, and what stands for an absent field where
the value has none.  A body whose readings would differ, as one that repeats a field would, is
refused by one of them, so no operation is called on its account.

Main definitions:

* `Http.BodyKind` — the requests whose body is read as a record, with the fields of the records;
* `Http.Payload.text` — the text of a body;
* `Http.Payload.Holds` — the value in a body has the fields of a record.

Main results:

* `Http.Payload.holds_of_read` — a body that is read both ways has the fields of the record;
* `Http.readings_agree` — **the two readings agree, for bodies and for requests that are acted
  upon**.
-/
import TableAccess.Proofs.AuditTrail
import TableAccess.Proofs.RecordReadings
import TableAccess.Proofs.TextBytes

set_option relaxedAutoImplicit false
set_option autoImplicit false

namespace TableAccess

theorem Except.mapError_eq_ok_iff {ε δ α : Type} {f : ε → δ} {x : Except ε α} {a : α} :
    x.mapError f = .ok a ↔ x = .ok a := by
  cases x <;> simp [Except.mapError]

theorem Except.toOption_eq_some_iff {ε α : Type} {x : Except ε α} {a : α} :
    x.toOption = some a ↔ x = .ok a := by
  cases x <;> simp [Except.toOption]

namespace Http

open Json (Reader HeldField HeldBy ListedBy)
open Utf8 (Piece)

/-! ### The records of bodies -/

/-- The requests whose body is read as a record. -/
inductive BodyKind where
  | issueKey
  | rotateKey
  | createGrant
  | updateGrant
deriving DecidableEq

namespace BodyKind

/-- The record in the body. -/
abbrev Record : BodyKind → Type
  | .issueKey => IssueBody
  | .rotateKey => RotateBody
  | .createGrant => CreateGrantBody
  | .updateGrant => UpdateGrantBody

/-- The reader of the record. -/
def reader : (kind : BodyKind) → Reader kind.Record
  | .issueKey => IssueBody.reader
  | .rotateKey => RotateBody.reader
  | .createGrant => CreateGrantBody.reader
  | .updateGrant => UpdateGrantBody.reader

/-- What the record is called in a refusal. -/
def label : BodyKind → String
  | .issueKey => "access key issue"
  | .rotateKey => "access key rotation"
  | .createGrant => "permission grant"
  | .updateGrant => "permission grant update"

/-- The record in a body, as the operation reads it. -/
def read : (kind : BodyKind) → List UInt8 → Outcome kind.Record
  | .issueKey => IssueBody.read
  | .rotateKey => RotateBody.read
  | .createGrant => CreateGrantBody.read
  | .updateGrant => UpdateGrantBody.read

/-- The fields of the record, in order: the name of each, what stands for it if it is absent, and
its value in the record. -/
def fields : (kind : BodyKind) → kind.Record → List HeldField
  | .issueKey, b =>
      [⟨"user_id", none, .int b.userId⟩, ⟨"new_access_key", some .null, .ofText? b.newAccessKey⟩]
  | .rotateKey, b => [⟨"new_access_key", some .null, .ofText? b.newAccessKey⟩]
  | .createGrant, b =>
      [⟨"user_id", none, .int b.userId⟩,
        ⟨"capability_ids", none, .arr (b.capabilityIds.map .int)⟩,
        ⟨"apply_date", some .null, .ofText? b.applyDate⟩,
        ⟨"expire_date", some .null, .ofText? b.expireDate⟩]
  | .updateGrant, b => [⟨"force_revoke", some (.bool false), .bool b.forceRevoke⟩]

/-- The requests that call an operation with a body. -/
def ofOperation? : Operation → Option BodyKind
  | .issueKey .. => some .issueKey
  | .rotateKey .. => some .rotateKey
  | .createGrant _ => some .createGrant
  | .updateGrant .. => some .updateGrant
  | _ => none

/-- An operation is called with what a record asks for. -/
inductive Asks : (kind : BodyKind) → kind.Record → Operation → Prop
  | issueKey (b : IssueBody) : Asks .issueKey b (.issueKey ⟨b.userId⟩ b.newAccessKey)
  | rotateKey (b : RotateBody) (user : UserId) :
      Asks .rotateKey b (.rotateKey user b.newAccessKey)
  | createGrant (b : CreateGrantBody) {input : GrantAdministration.CreateInput}
      (hinput : Endpoint.createInput b = .ok input) : Asks .createGrant b (.createGrant input)
  | updateGrant (b : UpdateGrantBody) (grant : GrantId) :
      Asks .updateGrant b (.updateGrant grant b.forceRevoke)

end BodyKind

/-! ### The records hold what is read -/

theorem IssueBody.faithful : IssueBody.layout.Faithful
    (fun
      | .userId => Json.int
      | .newAccessKey => Json.ofText?)
    (fun get => do
      let userId ← get .userId
      let newAccessKey ← get .newAccessKey
      pure (⟨userId, newAccessKey⟩ : IssueBody))
    (BodyKind.fields .issueKey) where
  read
    | .userId => Json.takesAs_integer
    | .newAccessKey => Json.takesAs_nullable Json.takesAs_string
  named := by
    rintro (_ | _)
    · rfl
    · rfl
  nodup := by decide
  holds := by
    intro get a ha
    obtain ⟨userId, huser, ha⟩ := Except.of_bind_eq_ok ha
    obtain ⟨newAccessKey, hkey, ha⟩ := Except.of_bind_eq_ok ha
    cases ha
    exact .cons ⟨_, huser, rfl⟩ (.cons ⟨_, hkey, rfl⟩ .nil)

theorem RotateBody.faithful : RotateBody.layout.Faithful
    (fun | .newAccessKey => Json.ofText?)
    (fun get => do
      let newAccessKey ← get .newAccessKey
      pure (⟨newAccessKey⟩ : RotateBody))
    (BodyKind.fields .rotateKey) where
  read
    | .newAccessKey => Json.takesAs_nullable Json.takesAs_string
  named := by
    rintro ⟨_⟩
    rfl
  nodup := by decide
  holds := by
    intro get a ha
    obtain ⟨newAccessKey, hkey, ha⟩ := Except.of_bind_eq_ok ha
    cases ha
    exact .cons ⟨_, hkey, rfl⟩ .nil

theorem CreateGrantBody.faithful : CreateGrantBody.layout.Faithful
    (fun
      | .userId => Json.int
      | .capabilityIds => fun ids => Json.arr (ids.map .int)
      | .applyDate => Json.ofText?
      | .expireDate => Json.ofText?)
    (fun get => do
      let userId ← get .userId
      let capabilityIds ← get .capabilityIds
      let applyDate ← get .applyDate
      let expireDate ← get .expireDate
      pure (⟨userId, capabilityIds, applyDate, expireDate⟩ : CreateGrantBody))
    (BodyKind.fields .createGrant) where
  read
    | .userId => Json.takesAs_integer
    | .capabilityIds => Json.takesAs_list Json.takesAs_integer
    | .applyDate => Json.takesAs_nullable Json.takesAs_string
    | .expireDate => Json.takesAs_nullable Json.takesAs_string
  named := by
    rintro (_ | _ | _ | _)
    · rfl
    · rfl
    · rfl
    · rfl
  nodup := by decide
  holds := by
    intro get a ha
    obtain ⟨userId, huser, ha⟩ := Except.of_bind_eq_ok ha
    obtain ⟨capabilityIds, hids, ha⟩ := Except.of_bind_eq_ok ha
    obtain ⟨applyDate, happly, ha⟩ := Except.of_bind_eq_ok ha
    obtain ⟨expireDate, hexpire, ha⟩ := Except.of_bind_eq_ok ha
    cases ha
    exact .cons ⟨_, huser, rfl⟩ (.cons ⟨_, hids, rfl⟩ (.cons ⟨_, happly, rfl⟩
      (.cons ⟨_, hexpire, rfl⟩ .nil)))

theorem UpdateGrantBody.faithful : UpdateGrantBody.layout.Faithful
    (fun | .forceRevoke => Json.bool)
    (fun get => do
      let forceRevoke ← get .forceRevoke
      pure (⟨forceRevoke⟩ : UpdateGrantBody))
    (BodyKind.fields .updateGrant) where
  read
    | .forceRevoke => Json.takesAs_boolean
  named := by
    rintro ⟨_⟩
    rfl
  nodup := by decide
  holds := by
    intro get a ha
    obtain ⟨forceRevoke, hrevoke, ha⟩ := Except.of_bind_eq_ok ha
    cases ha
    exact .cons ⟨_, hrevoke, rfl⟩ .nil

namespace BodyKind

theorem read_eq (kind : BodyKind) (body : List UInt8) :
    kind.read body = Payload.record kind.reader kind.label body := by
  cases kind <;> rfl

theorem together_members (kind : BodyKind) :
    kind.reader.Together Json.members fun b ms => HeldBy ms (kind.fields b) := by
  cases kind with
  | issueKey => exact Json.record_together_members IssueBody.faithful
  | rotateKey => exact Json.record_together_members RotateBody.faithful
  | createGrant => exact Json.record_together_members CreateGrantBody.faithful
  | updateGrant => exact Json.record_together_members UpdateGrantBody.faithful

theorem together_value (kind : BodyKind) (n : Nat) :
    kind.reader.Together (Json.value n) fun b v =>
      (∃ fs, v = .obj fs) ∨ ∃ items, v = .arr items ∧ ListedBy items (kind.fields b) := by
  cases kind with
  | issueKey => exact Json.record_together_value IssueBody.faithful n
  | rotateKey => exact Json.record_together_value RotateBody.faithful n
  | createGrant => exact Json.record_together_value CreateGrantBody.faithful n
  | updateGrant => exact Json.record_together_value UpdateGrantBody.faithful n

end BodyKind

/-! ### One text, read twice -/

namespace Payload

/-- The text of a body. -/
def text (body : List UInt8) : List Piece :=
  if isBlank body then Utf8.pieces (Utf8.encode "\x7b\x7d") else Utf8.pieces body

/-- The value in a body has the fields of a record: by name and without repetition if it is an
object, by position if it is a list.  What is absent has what stands for it. -/
inductive Holds (body : List UInt8) (v : Json) (fields : List HeldField) : Prop
  | object {ms : List (String × Json)} (hms : Json.members.run (text body) = .ok ms)
      (hv : v = .ofFields ms)
      (hfields : ∀ f ∈ fields, (ms.map Prod.fst).count f.name ≤ 1 ∧
        (v.get? f.name).or f.absent = some f.value)
  | list {items : List Json} (hv : v = .arr items) (hlength : items.length ≤ fields.length)
      (hfields : ∀ (i : Nat) (f : HeldField), fields[i]? = some f →
        items[i]?.or f.absent = some f.value)

theorem isBlank_iff {body : List UInt8} :
    isBlank body = true ↔ ∀ b ∈ body, b ∈ [0x20, 0x09, 0x0a, 0x0c, 0x0d] := by
  simp [isBlank, isBlankByte, or_assoc]

theorem pieces_empty : Utf8.pieces (Utf8.encode "\x7b\x7d") = emptyRecord := Utf8.pieces_encode _

theorem parse_empty : Json.parse emptyRecord = .ok (.obj []) := rfl

theorem value_eq (body : List UInt8) :
    value body = (Json.parse (text body)).mapError fun f =>
      ⟨.validation, "request body must be JSON: " ++ f.message⟩ := by
  unfold value text
  by_cases hblank : isBlank body = true
  · rw [if_pos hblank, if_pos hblank, pieces_empty, parse_empty]
    rfl
  · rw [if_neg hblank, if_neg hblank]
    cases Json.parse (Utf8.pieces body) <;> rfl

theorem record_eq {α : Type} (r : Reader α) (label : String) (body : List UInt8) :
    record r label body = (r.run (text body)).mapError fun f =>
      ⟨.validation, "invalid " ++ label ++ " payload: " ++ f.message⟩ := by
  have htext : (if isBlank body then emptyRecord else Utf8.pieces body) = text body := by
    unfold text
    rw [pieces_empty]
  unfold record
  rw [htext]
  cases r.run (text body) <;> rfl

/-- **A body that is read both ways** has the fields of the record. -/
theorem holds_of_read {kind : BodyKind} {body : List UInt8} {v : Json} {b : kind.Record}
    (hv : value body = .ok v) (hb : kind.read body = .ok b) : Holds body v (kind.fields b) := by
  rw [value_eq, Except.mapError_eq_ok_iff] at hv
  rw [kind.read_eq, record_eq, Except.mapError_eq_ok_iff] at hb
  obtain ⟨fs, rfl⟩ | ⟨items, rfl, hlength, hitems⟩ := (kind.together_value _).run hb hv
  · obtain ⟨c, hobject, hend⟩ := Reader.run_eq_ok_iff.1 hv
    obtain ⟨ms, hms, rfl⟩ := Json.members_of_anyValue hobject
    have hms : Json.members.run (text body) = .ok ms := Reader.run_eq_ok_iff.2 ⟨c, hms, hend⟩
    refine .object hms rfl fun f hf => ?_
    obtain ⟨honce, hvalue⟩ := kind.together_members.run hb hms f hf
    refine ⟨honce, ?_⟩
    rw [Json.get?, Json.lookup_insertFields honce, Json.lookup, Option.or_none]
    exact hvalue
  · exact .list rfl hlength hitems

end Payload

/-! ### Requests that are acted upon -/

section Requests

variable {w : World} {r : Route} {m : Message} {p : Principal} {op : Operation} {kind : BodyKind}

/-- The gate has read the body of a request that is passed on. -/
theorem carries_of_passesOn (h : PassesOn w r m p) : ∃ v, m.Carries v := by
  cases hrequest : Guard.gateRequest m with
  | error e =>
      rw [PassesOn, Guard.check, hrequest] at h
      cases h
  | ok request =>
      obtain ⟨v, hv, -⟩ := Guard.gateRequest_eq_ok_iff.1 hrequest
      exact ⟨v, hv⟩

theorem asks_of_operation? (hop : Endpoint.operation? r m = some op)
    (hkind : BodyKind.ofOperation? op = some kind) :
    ∃ b, kind.read m.body = .ok b ∧ BodyKind.Asks kind b op := by
  unfold Endpoint.operation? at hop
  split at hop
  · obtain ⟨b, hb, hop⟩ := Option.bind_eq_some_iff.1 hop
    cases hop
    cases hkind
    exact ⟨b, Except.toOption_eq_some_iff.1 hb, .issueKey b⟩
  · cases hop
    cases hkind
  · cases hop
    cases hkind
  · cases hop
    cases hkind
  · obtain ⟨u, -, hu⟩ := Option.bind_eq_some_iff.1 hop
    obtain ⟨b, hb, hop⟩ := Option.bind_eq_some_iff.1 hu
    cases hop
    cases hkind
    exact ⟨b, Except.toOption_eq_some_iff.1 hb, .rotateKey b ⟨u⟩⟩
  · obtain ⟨u, -, hop⟩ := Option.bind_eq_some_iff.1 hop
    cases hop
    cases hkind
  · obtain ⟨b, hb, hi⟩ := Option.bind_eq_some_iff.1 hop
    obtain ⟨input, hinput, hop⟩ := Option.bind_eq_some_iff.1 hi
    cases hop
    cases hkind
    exact ⟨b, Except.toOption_eq_some_iff.1 hb,
      .createGrant b (Except.toOption_eq_some_iff.1 hinput)⟩
  · obtain ⟨f, -, hop⟩ := Option.bind_eq_some_iff.1 hop
    cases hop
    cases hkind
  · cases hop
    cases hkind
  · cases hop
    cases hkind
  · obtain ⟨g, -, hg⟩ := Option.bind_eq_some_iff.1 hop
    obtain ⟨b, hb, hop⟩ := Option.bind_eq_some_iff.1 hg
    cases hop
    cases hkind
    exact ⟨b, Except.toOption_eq_some_iff.1 hb, .updateGrant b ⟨g⟩⟩
  · obtain ⟨g, -, hop⟩ := Option.bind_eq_some_iff.1 hop
    cases hop
    cases hkind
  · obtain ⟨g, -, hop⟩ := Option.bind_eq_some_iff.1 hop
    cases hop
    cases hkind
  · obtain ⟨f, -, hop⟩ := Option.bind_eq_some_iff.1 hop
    cases hop
    cases hkind
  · cases hop

end Requests

/-- **The gate and the operation read the same request.**  Both take the same text from a body, and
a blank body has that of an empty object.  When both succeed, the record has the fields that the
value has for it, none of them repeated.  A request that reaches an operation with a body was read
both ways, and the operation is called with what the record asks for. -/
theorem readings_agree :
    (∀ body, Payload.value body = (Json.parse (Payload.text body)).mapError (fun f =>
        ⟨.validation, "request body must be JSON: " ++ f.message⟩) ∧
      ∀ kind : BodyKind, kind.read body = (kind.reader.run (Payload.text body)).mapError fun f =>
        ⟨.validation, "invalid " ++ kind.label ++ " payload: " ++ f.message⟩) ∧
    (∀ body, (∀ b ∈ body, b ∈ [0x20, 0x09, 0x0a, 0x0c, 0x0d]) →
      Payload.text body = Utf8.pieces (Utf8.encode "\x7b\x7d") ∧
        Payload.value body = .ok (.obj [])) ∧
    (∀ body, (∃ b ∈ body, b ∉ [0x20, 0x09, 0x0a, 0x0c, 0x0d]) →
      Payload.text body = Utf8.pieces body) ∧
    (∀ (kind : BodyKind) body v b, Payload.value body = .ok v → kind.read body = .ok b →
      Payload.Holds body v (kind.fields b)) ∧
    ∀ w m p op kind, Reaches w m p op → BodyKind.ofOperation? op = some kind →
      ∃ v b, m.Carries v ∧ kind.read m.body = .ok b ∧ BodyKind.Asks kind b op ∧
        Payload.Holds m.body v (kind.fields b) := by
  refine ⟨fun body => ⟨Payload.value_eq body, fun kind => ?_⟩, fun body hblank => ?_,
    fun body hother => ?_, fun kind body v b => Payload.holds_of_read, ?_⟩
  · rw [kind.read_eq, Payload.record_eq]
  · have hblank : Payload.isBlank body = true := Payload.isBlank_iff.2 hblank
    refine ⟨if_pos hblank, ?_⟩
    rw [Payload.value, if_pos hblank]
  · refine if_neg fun hblank => ?_
    obtain ⟨b, hb, hnot⟩ := hother
    exact hnot (Payload.isBlank_iff.1 hblank b hb)
  · rintro w m p op kind ⟨r, -, -, hpass, hop⟩ hkind
    obtain ⟨v, hv⟩ := carries_of_passesOn hpass
    obtain ⟨b, hb, hasks⟩ := asks_of_operation? hop hkind
    exact ⟨v, b, hv, hb, hasks, Payload.holds_of_read (Guard.value_eq_ok_iff.2 hv.2) hb⟩

/-- A body with a field that the record does not know, whose value has lists, an escape and a number
that is not whole. -/
def annotatedIssue : List UInt8 :=
  Utf8.encode "\x7b\"note\": [\x7b\"by\": \"\\ud83d\\ude00\"\x7d, 1.5e3], \"user_id\": 7\x7d"

theorem readings_agree_annotatedIssue :
    IssueBody.read annotatedIssue = .ok ⟨7, none⟩ ∧
    ∃ v, Payload.value annotatedIssue = .ok v ∧
      Payload.Holds annotatedIssue v
        [⟨"user_id", none, .int 7⟩, ⟨"new_access_key", some .null, .null⟩] := by
  have hread : IssueBody.read annotatedIssue = .ok ⟨7, none⟩ := by decide +kernel
  have hvalue : (Payload.value annotatedIssue).isOk = true := by decide +kernel
  obtain ⟨-, -, -, hholds, -⟩ := readings_agree
  cases hv : Payload.value annotatedIssue with
  | error e =>
      rw [hv] at hvalue
      cases hvalue
  | ok v => exact ⟨hread, v, rfl, hholds .issueKey annotatedIssue v _ hv hread⟩

/-- A field that is repeated is no obstacle for the gate, but there is no record to act upon. -/
example :
    (Payload.value (Utf8.encode "\x7b\"user_id\": 1, \"user_id\": 2\x7d")).isOk = true ∧
    (IssueBody.read (Utf8.encode "\x7b\"user_id\": 1, \"user_id\": 2\x7d")).isOk = false := by
  decide +kernel

end Http

end TableAccess
