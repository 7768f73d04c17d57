/-
**Values of the domain survive their JSON forms.**

Whatever is written is read back: every grant, principal and capability, every key, state, action
and identifier, as long as its integers fit 64 bits.  And whatever is read, from any text, is such a
value.  So writing it and reading that gives the same value once more, and the text that is written
is the normal form of all texts that stand for the value.

Main definitions:

* `Form`, `Form.encode`, `Form.decode` — a JSON form, and its two directions;
* `Form.Faithful` — what is written is read back, and what was read survives being written;
* `Grant.form`, `Principal.form`, `Capability.form`, … — the forms of the domain.

Main results:

* `Grant.takesBack`, `Principal.takesBack`, … — values are taken back from their written forms;
* `Grant.yields_reader`, `Principal.yields_reader`, … — what is read fits 64 bits;
* `Form.domain_faithful` — **all forms of the domain are faithful**.
-/
import TableAccess.Json.Forms
import TableAccess.Proofs.ReadValues
import TableAccess.Proofs.WrittenDates

set_option relaxedAutoImplicit false
set_option autoImplicit false

namespace TableAccess

open Json (Reader Layout Problem)

/-! ### Identifiers, keys and names -/

/-- The identifier fits 64 bits. -/
def Id.Fits {kind : Id.Kind} (i : Id kind) : Prop := Numeral.integer64.admits i.value = true

theorem Id.takesBack {kind : Id.Kind} {i : Id kind} (hi : i.Fits) :
    (Id.reader : Reader (Id kind)).TakesBack i.toJson i :=
  (Json.takesBack_integer hi).bind fun xs => .pure i xs

theorem Id.yields_reader {kind : Id.Kind} : (Id.reader : Reader (Id kind)).Yields Id.Fits :=
  Json.yields_integer.bind fun _ hn => .pure hn

theorem AccessKey.takesBack (k : AccessKey) : AccessKey.reader.TakesBack k.toJson k :=
  (Json.takesBack_string k.token).bind fun xs => .pure k xs

theorem Json.takesBack_variant {α : Type} {known : List (String × α)} {name : String} {a : α}
    (h : Json.named? known name = some a) : (Json.variant known).TakesBack (.str name) a := by
  have hname : (Json.variantName known).TakesBack (.str name) a := by
    refine (Json.takesBack_stringFor _ name).bind fun xs => ?_
    rw [h]
    exact .pure a xs
  refine ⟨hname.opens, fun xs hxs => ?_⟩
  have hread := hname.reads xs hxs
  have htext : (Json.str name).render = Json.quote name := by rw [Json.render]
  rw [htext, Json.ofString_quote] at hread ⊢
  refine (Reader.Reads.valueStart rfl _).bind ?_
  rw [if_pos rfl]
  exact hread

theorem Json.head_quote_ne (s : String) {c : Char} (hc : c ≠ '"') :
    (Json.str s).render.toList.head? ≠ some c := by
  rw [Json.render, Json.quote, String.toList_ofList]
  intro h
  exact hc (Option.some.inj h).symm

theorem Json.takesBack_ofText? (s : Option String) :
    (Json.nullable Json.string).TakesBack (Json.ofText? s) s := by
  cases s with
  | none => exact Json.takesBack_nullable_none _
  | some s =>
      exact Json.takesBack_nullable_some (Json.takesBack_string s)
        (Json.head_quote_ne _ (by decide))

theorem GrantStatus.takesBack (s : GrantStatus) : GrantStatus.reader.TakesBack s.toJson s := by
  refine Json.takesBack_variant ?_
  cases s <;> decide

theorem AuditAction.takesBack (a : AuditAction) : AuditAction.reader.TakesBack a.toJson a := by
  refine Json.takesBack_variant ?_
  cases a <;> decide

/-! ### Dates -/

theorem Date.takesBack (d : Date) : Date.reader.TakesBack d.toJson d := by
  refine Json.takesBack_parsed ?_
  rw [Date.readLoose_write]
  rfl

theorem Instant.takesBack (t : Instant) : Instant.reader.TakesBack t.toJson t := by
  refine Json.takesBack_parsed ?_
  rw [Instant.read_writeZulu]
  rfl

/-! ### Capabilities -/

namespace Capability

/-- The identifier of the capability fits 64 bits. -/
def Fits (c : Capability) : Prop := c.id.Fits

def field (c : Capability) : (k : Field) → layout.Value k
  | .id => c.id
  | .permissionName => c.permissionName
  | .resourceName => c.resourceName

def writtenField (c : Capability) : Field → Json
  | .id => c.id.toJson
  | .permissionName => .str c.permissionName
  | .resourceName => .str c.resourceName

/-- What is known of the fields of a capability that is read. -/
def FieldFits : (k : Field) → layout.Value k → Prop
  | .id => Id.Fits
  | _ => fun _ => True

theorem takesBack {c : Capability} (hc : c.Fits) : reader.TakesBack c.toJson c := by
  refine layout.takesBack_record c.writtenField c.field (by decide) ?_ (by decide) ?_ ?_ rfl
  · rintro ⟨⟩ <;> decide
  · rintro ⟨⟩ <;> decide
  · rintro ⟨⟩
    · exact Id.takesBack hc
    · exact Json.takesBack_string c.permissionName
    · exact Json.takesBack_string c.resourceName

theorem yields_reader : reader.Yields Fits := by
  refine Layout.yields_record (P := FieldFits) ?_ ?_ ?_
  · rintro ⟨⟩
    · exact Id.yields_reader
    · exact .trivial _
    · exact .trivial _
  · rintro ⟨⟩ v (hv | hv) <;> cases hv
  · intro get c hget hc
    obtain ⟨id, hid, hc⟩ := Except.of_bind_eq_ok hc
    obtain ⟨permissionName, -, hc⟩ := Except.of_bind_eq_ok hc
    obtain ⟨resourceName, -, hc⟩ := Except.of_bind_eq_ok hc
    cases hc
    exact hget .id id hid

end Capability

/-! ### Grants -/

namespace Grant

/-- The identifiers of the grant, its owner and its capabilities fit 64 bits. -/
structure Fits (g : Grant) : Prop where
  id : g.id.Fits
  userId : g.userId.Fits
  capabilities : ∀ c ∈ g.capabilities, c.Fits

def field (g : Grant) : (k : Field) → layout.Value k
  | .id => g.id
  | .userId => g.userId
  | .applyDate => g.applyDate
  | .expireDate => g.expireDate
  | .forceTerminateAt => g.forceTerminateAt
  | .isActive => g.isActive
  | .capabilities => g.capabilities

def writtenField (g : Grant) : Field → Json
  | .id => g.id.toJson
  | .userId => g.userId.toJson
  | .applyDate => g.applyDate.toJson
  | .expireDate => g.expireDate.toJson
  | .forceTerminateAt => Json.ofOption Instant.toJson g.forceTerminateAt
  | .isActive => .bool g.isActive
  | .capabilities => .arr (g.capabilities.map Capability.toJson)

/-- What is known of the fields of a grant that is read. -/
def FieldFits : (k : Field) → layout.Value k → Prop
  | .id => Id.Fits
  | .userId => Id.Fits
  | .capabilities => fun (cs : List Capability) => ∀ c ∈ cs, c.Fits
  | _ => fun _ => True

theorem takesBack_forceTerminateAt (t : Option Instant) :
    (Json.nullable Instant.reader).TakesBack (Json.ofOption Instant.toJson t) t := by
  cases t with
  | none => exact Json.takesBack_nullable_none _
  | some t => exact Json.takesBack_nullable_some t.takesBack (Json.head_quote_ne _ (by decide))

theorem takesBack {g : Grant} (hg : g.Fits) : reader.TakesBack g.toJson g := by
  refine layout.takesBack_record g.writtenField g.field (by decide) ?_ (by decide) ?_ ?_ rfl
  · rintro ⟨⟩ <;> decide
  · rintro ⟨⟩ <;> decide
  · rintro ⟨⟩
    · exact Id.takesBack hg.id
    · exact Id.takesBack hg.userId
    · exact g.applyDate.takesBack
    · exact g.expireDate.takesBack
    · exact takesBack_forceTerminateAt g.forceTerminateAt
    · exact Json.takesBack_boolean g.isActive
    · exact Json.takesBack_list fun c hc => Capability.takesBack (hg.capabilities c hc)

theorem yields_reader : reader.Yields Fits := by
  refine Layout.yields_record (P := FieldFits) ?_ ?_ ?_
  · rintro ⟨⟩
    · exact Id.yields_reader
    · exact Id.yields_reader
    · exact .trivial _
    · exact .trivial _
    · exact .trivial _
    · exact .trivial _
    · exact Json.yields_list Capability.yields_reader
  · rintro ⟨⟩ v (hv | hv) <;> cases hv
    exact True.intro
  · intro get g hget hg
    obtain ⟨id, hid, hg⟩ := Except.of_bind_eq_ok hg
    obtain ⟨userId, huser, hg⟩ := Except.of_bind_eq_ok hg
    obtain ⟨applyDate, -, hg⟩ := Except.of_bind_eq_ok hg
    obtain ⟨expireDate, -, hg⟩ := Except.of_bind_eq_ok hg
    obtain ⟨forceTerminateAt, -, hg⟩ := Except.of_bind_eq_ok hg
    obtain ⟨isActive, -, hg⟩ := Except.of_bind_eq_ok hg
    obtain ⟨capabilities, hcapabilities, hg⟩ := Except.of_bind_eq_ok hg
    cases hg
    exact ⟨hget .id id hid, hget .userId userId huser,
      hget .capabilities capabilities hcapabilities⟩

end Grant

/-! ### Principals -/

/-- A list that ascends is the list of its own members. -/
theorem Ascending.ofList_toList {α : Type} [LT α] [DecidableLT α] [LE α] [Std.IsLinearOrder α]
    [Std.LawfulOrderLT α] (s : Ascending α) : Ascending.ofList s.toList = s := by
  obtain ⟨as, has⟩ := s
  refine Ascending.ext ?_
  induction as with
  | nil => rfl
  | cons a as ih =>
      obtain ⟨hlt, has⟩ := List.pairwise_cons.1 has
      rw [Ascending.ofList_cons, Ascending.toList_insert, ih has]
      cases as with
      | nil => rfl
      | cons b bs => rw [Ascending.place, if_pos (hlt b (List.mem_cons_self ..))]

namespace Principal

/-- The identifier of the principal fits 64 bits. -/
def Fits (p : Principal) : Prop := p.id.Fits

def field (p : Principal) : (k : Field) → layout.Value k
  | .id => p.id
  | .username => p.username
  | .firstName => p.firstName
  | .lastName => p.lastName
  | .email => p.email
  | .active => p.active
  | .roles => p.roles.toList

def writtenField (p : Principal) : Field → Json
  | .id => p.id.toJson
  | .username => .str p.username
  | .firstName => .str p.firstName
  | .lastName => .str p.lastName
  | .email => Json.ofText? p.email
  | .active => .bool p.active
  | .roles => .arr (p.roles.toList.map Json.str)

/-- What is known of the fields of a principal that is read. -/
def FieldFits : (k : Field) → layout.Value k → Prop
  | .id => Id.Fits
  | _ => fun _ => True

theorem takesBack {p : Principal} (hp : p.Fits) : reader.TakesBack p.toJson p := by
  refine layout.takesBack_record p.writtenField p.field (by decide) ?_ (by decide) ?_ ?_ ?_
  · rintro ⟨⟩ <;> decide
  · rintro ⟨⟩ <;> decide
  · rintro ⟨⟩
    · exact Id.takesBack hp
    · exact Json.takesBack_string p.username
    · exact Json.takesBack_string p.firstName
    · exact Json.takesBack_string p.lastName
    · exact Json.takesBack_ofText? p.email
    · exact Json.takesBack_boolean p.active
    · exact Json.takesBack_list fun s _ => Json.takesBack_string s
  · -- the roles are put into a set again, which they are already
    have hroles := p.roles.ofList_toList
    change Except.ok (Principal.mk p.id p.username p.firstName p.lastName p.email p.active
      (.ofList p.roles.toList)) = _
    rw [hroles]

theorem yields_reader : reader.Yields Fits := by
  refine Layout.yields_record (P := FieldFits) ?_ ?_ ?_
  · rintro ⟨⟩
    · exact Id.yields_reader
    all_goals exact .trivial _
  · rintro ⟨⟩ v (hv | hv) <;> cases hv
    exact True.intro
  · intro get p hget hp
    obtain ⟨id, hid, hp⟩ := Except.of_bind_eq_ok hp
    obtain ⟨username, -, hp⟩ := Except.of_bind_eq_ok hp
    obtain ⟨firstName, -, hp⟩ := Except.of_bind_eq_ok hp
    obtain ⟨lastName, -, hp⟩ := Except.of_bind_eq_ok hp
    obtain ⟨email, -, hp⟩ := Except.of_bind_eq_ok hp
    obtain ⟨active, -, hp⟩ := Except.of_bind_eq_ok hp
    obtain ⟨roles, -, hp⟩ := Except.of_bind_eq_ok hp
    cases hp
    exact hget .id id hid

end Principal

/-! ### Forms -/

/-- A JSON form: how values are written, how they are read, and for which values it is. -/
structure Form (α : Type) where
  write : α → Json
  read : Reader α
  Fits : α → Prop

namespace Form

variable {α : Type}

/-- The compact text of a value. -/
def encode (F : Form α) (a : α) : String := (F.write a).render

/-- The value of a text. -/
def decode (F : Form α) (text : String) : Except Json.Fault α := F.read.run (Utf8.ofString text)

/-- What is written is read back, and gives the same text when it is written again.  Whatever is
read, from any text, is a value that the form is for; so it survives being written and read. -/
structure Faithful (F : Form α) : Prop where
  decode_encode : ∀ a, F.Fits a → F.decode (F.encode a) = .ok a
  encode_decode : ∀ a, F.Fits a → (F.decode (F.encode a)).map F.encode = .ok (F.encode a)
  normal : ∀ text a, F.decode text = .ok a → F.Fits a ∧ F.decode (F.encode a) = .ok a

theorem faithful_of {F : Form α} (hback : ∀ a, F.Fits a → F.read.TakesBack (F.write a) a)
    (hyields : F.read.Yields F.Fits) : F.Faithful := by
  have hdecode : ∀ a, F.Fits a → F.decode (F.encode a) = .ok a := fun a ha => (hback a ha).run
  refine ⟨hdecode, fun a ha => ?_, fun text a ha => ?_⟩
  · rw [hdecode a ha]
    rfl
  · have hfits : F.Fits a := hyields.run ha
    exact ⟨hfits, hdecode a hfits⟩

end Form

/-- The form of identifiers, which are integers. -/
def Id.form (kind : Id.Kind) : Form (Id kind) := ⟨Id.toJson, Id.reader, Id.Fits⟩

/-- The form of keys, which are texts. -/
def AccessKey.form : Form AccessKey := ⟨AccessKey.toJson, AccessKey.reader, fun _ => True⟩

/-- The form of states, which are names. -/
def GrantStatus.form : Form GrantStatus := ⟨GrantStatus.toJson, GrantStatus.reader, fun _ => True⟩

/-- The form of actions, which are names. -/
def AuditAction.form : Form AuditAction := ⟨AuditAction.toJson, AuditAction.reader, fun _ => True⟩

def Capability.form : Form Capability := ⟨Capability.toJson, Capability.reader, Capability.Fits⟩

def Grant.form : Form Grant := ⟨Grant.toJson, Grant.reader, Grant.Fits⟩

def Principal.form : Form Principal := ⟨Principal.toJson, Principal.reader, Principal.Fits⟩

/-- **All forms of the domain are faithful.** -/
theorem Form.domain_faithful :
    Grant.form.Faithful ∧ Principal.form.Faithful ∧ Capability.form.Faithful ∧
      AccessKey.form.Faithful ∧ GrantStatus.form.Faithful ∧ AuditAction.form.Faithful ∧
      ∀ kind, (Id.form kind).Faithful := by
  refine ⟨?_, ?_, ?_, ?_, ?_, ?_, fun kind => ?_⟩
  · exact faithful_of (fun _ => Grant.takesBack) Grant.yields_reader
  · exact faithful_of (fun _ => Principal.takesBack) Principal.yields_reader
  · exact faithful_of (fun _ => Capability.takesBack) Capability.yields_reader
  · exact faithful_of (fun k _ => k.takesBack) (.trivial _)
  · exact faithful_of (fun s _ => s.takesBack) (.trivial _)
  · exact faithful_of (fun a _ => a.takesBack) (.trivial _)
  · exact faithful_of (fun _ => Id.takesBack) Id.yields_reader

end TableAccess
