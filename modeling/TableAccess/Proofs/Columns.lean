/-
**What a row tells.**

The values of a row are read one column after the other, and the first that cannot be read ends
this.  So what is read of a row is just what its columns hold: nothing is made up where a value is
absent.

Main definitions:

* `Row.Holds` — a column is there, and this is what is read of its value;
* `KeyRow.ReadFrom`, `OwnedKeyRow.ReadFrom` — what the columns hold of a key, and of its owner;
* `GrantRow.ReadFrom`, `LinkReadFrom` — what they hold of a grant, and of a capability of one.

Main results:

* `Row.required_eq_ok_iff`, `Row.optional_eq_ok_iff` — a value is read just when the column holds
  it;
* `readOwnedKey_eq_ok_iff` — a key with its owner is read just when the columns hold all of it;
* `readGrant_eq_ok_iff`, `readLink_eq_ok_iff` — so are a grant and a capability of one;
* `everyRow_eq_ok_iff` — rows are read one by one, in order.
-/
import Mathlib.Data.List.Forall2
import TableAccess.Database.Answer

set_option relaxedAutoImplicit false
set_option autoImplicit false

namespace TableAccess

namespace Database

/-! ### Columns -/

/-- What a value is as one of a type with null. -/
inductive Cell.Is (t : CellType) : Cell → Option t.Value → Prop where
  | null : Is t .null none
  | value {c : Cell} {a : t.Value} (h : c.as? t = some a) : Is t c (some a)

namespace Cell

variable {t : CellType} {c : Cell} {a : t.Value} {v : Option t.Value}

theorem as?_null (t : CellType) : null.as? t = none := by
  cases t <;> rfl

theorem is_some_iff : c.Is t (some a) ↔ c.as? t = some a := by
  constructor
  · intro h
    cases h with
    | value h => exact h
  · exact .value

theorem is_none_iff : c.Is t none ↔ c = .null := by
  constructor
  · intro h
    cases h
    rfl
  · rintro rfl
    exact .null

theorem null_is_iff : null.Is t v ↔ v = none := by
  cases v with
  | none => simp [is_none_iff]
  | some a => simp [is_some_iff, as?_null]

theorem read_eq_ok_iff {name : String} {nullable : Bool} :
    c.read name nullable t = .ok a ↔ c.Is t (some a) := by
  rw [is_some_iff, read]
  cases c.as? t <;> simp

end Cell

namespace Row

variable {kind : Id.Kind} {t : CellType} {r : Row} {name : String}

/-- The column is there and holds a value of the type, or null. -/
def Holds (t : CellType) (r : Row) (name : String) (v : Option t.Value) : Prop :=
  ∃ c, r.cell name = .ok c ∧ c.Is t v

/-- **A value that must be there is read just when the column holds it.** -/
theorem required_eq_ok_iff {a : t.Value} :
    r.required t name = .ok a ↔ r.Holds t name (some a) := by
  unfold required Holds
  cases r.cell name with
  | error f => simp
  | ok c => simp [Cell.read_eq_ok_iff]

/-- **A value that may be null is read just when the column holds it**, or null. -/
theorem optional_eq_ok_iff {v : Option t.Value} :
    r.optional t name = .ok v ↔ r.Holds t name v := by
  unfold optional Holds
  cases r.cell name with
  | error f => simp
  | ok c =>
      simp only [Except.ok.injEq, exists_eq_left']
      split
      · next h => cases h
      · next h =>
          cases h
          rw [Cell.null_is_iff, Except.ok.injEq, eq_comm]
      · next hnull h =>
          cases h
          have hne : c ≠ .null := hnull
          cases v with
          | none => cases c.read name true t <;> simp [Except.map, Cell.is_none_iff, hne]
          | some a =>
              have hread : c.read name true t = .ok a ↔ c.Is t (some a) := Cell.read_eq_ok_iff
              rw [← hread]
              cases c.read name true t <;> simp [Except.map]

theorem id_eq_ok_iff {i : Id kind} :
    r.id name = .ok i ↔ r.Holds .integer name (some i.value) := by
  rw [← required_eq_ok_iff]
  change (r.integer name).map _ = _ ↔ r.integer name = _
  cases r.integer name with
  | error f => simp [Except.map]
  | ok n => simp [Except.map, Id.ext_iff]

theorem id?_eq_ok_iff {i : Option (Id kind)} :
    r.id? name = .ok i ↔ r.Holds .integer name (i.map Id.value) := by
  rw [← optional_eq_ok_iff, id?]
  cases r.optional .integer name with
  | error f => simp [Except.map]
  | ok n => cases n <;> cases i <;> simp [Except.map, Id.ext_iff]

end Row

/-! ### Keys -/

/-- What the columns hold of a key. -/
structure KeyRow.ReadFrom (k : KeyRow) (r : Row) : Prop where
  userId : r.Holds .integer "user_id" (some k.userId.value)
  token : r.Holds .text "access_key" (some k.token)
  createdAt : r.Holds .instant "created_at" (some k.createdAt)
  changedAt : r.Holds .instant "changed_at" (some k.changedAt)
  changedBy : r.Holds .integer "changed_by" (k.changedBy.map Id.value)

/-- What the columns hold of a key and of its owner. -/
structure OwnedKeyRow.ReadFrom (k : OwnedKeyRow) (r : Row) : Prop where
  key : k.key.ReadFrom r
  principalId : r.Holds .integer "principal_id" (k.principalId.map Id.value)
  username : r.Holds .text "username" k.username
  firstName : r.Holds .text "first_name" k.firstName
  lastName : r.Holds .text "last_name" k.lastName
  email : r.Holds .text "email" k.email
  active : r.Holds .boolean "active" k.active
  roles : r.Holds .texts "roles" (some k.roles)

variable {r : Row}

/-- **A key is read just when the columns hold all of it.** -/
theorem readKey_eq_ok_iff {k : KeyRow} : readKey r = .ok k ↔ k.ReadFrom r := by
  constructor
  · intro h
    obtain ⟨userId, huserId, h⟩ := Except.of_bind_eq_ok h
    obtain ⟨token, htoken, h⟩ := Except.of_bind_eq_ok h
    obtain ⟨createdAt, hcreatedAt, h⟩ := Except.of_bind_eq_ok h
    obtain ⟨changedAt, hchangedAt, h⟩ := Except.of_bind_eq_ok h
    obtain ⟨changedBy, hchangedBy, h⟩ := Except.of_bind_eq_ok h
    cases h
    exact ⟨Row.id_eq_ok_iff.1 huserId, Row.required_eq_ok_iff.1 htoken,
      Row.required_eq_ok_iff.1 hcreatedAt, Row.required_eq_ok_iff.1 hchangedAt,
      Row.id?_eq_ok_iff.1 hchangedBy⟩
  · intro h
    rw [readKey, Row.id_eq_ok_iff.2 h.userId, Row.text, Row.required_eq_ok_iff.2 h.token,
      Row.instant, Row.required_eq_ok_iff.2 h.createdAt, Row.instant,
      Row.required_eq_ok_iff.2 h.changedAt, Row.id?_eq_ok_iff.2 h.changedBy]
    rfl

theorem readOwnedKey_eq_ok_iff {k : OwnedKeyRow} : readOwnedKey r = .ok k ↔ k.ReadFrom r := by
  constructor
  · intro h
    obtain ⟨key, hkey, h⟩ := Except.of_bind_eq_ok h
    obtain ⟨principalId, hprincipalId, h⟩ := Except.of_bind_eq_ok h
    obtain ⟨username, husername, h⟩ := Except.of_bind_eq_ok h
    obtain ⟨firstName, hfirstName, h⟩ := Except.of_bind_eq_ok h
    obtain ⟨lastName, hlastName, h⟩ := Except.of_bind_eq_ok h
    obtain ⟨email, hemail, h⟩ := Except.of_bind_eq_ok h
    obtain ⟨active, hactive, h⟩ := Except.of_bind_eq_ok h
    obtain ⟨roles, hroles, h⟩ := Except.of_bind_eq_ok h
    cases h
    exact ⟨readKey_eq_ok_iff.1 hkey, Row.id?_eq_ok_iff.1 hprincipalId,
      Row.optional_eq_ok_iff.1 husername, Row.optional_eq_ok_iff.1 hfirstName,
      Row.optional_eq_ok_iff.1 hlastName, Row.optional_eq_ok_iff.1 hemail,
      Row.optional_eq_ok_iff.1 hactive, Row.required_eq_ok_iff.1 hroles⟩
  · intro h
    rw [readOwnedKey, readKey_eq_ok_iff.2 h.key, Row.id?_eq_ok_iff.2 h.principalId, Row.text?,
      Row.optional_eq_ok_iff.2 h.username, Row.text?, Row.optional_eq_ok_iff.2 h.firstName,
      Row.text?, Row.optional_eq_ok_iff.2 h.lastName, Row.text?, Row.optional_eq_ok_iff.2 h.email,
      Row.boolean?, Row.optional_eq_ok_iff.2 h.active, Row.texts, Row.required_eq_ok_iff.2 h.roles]
    rfl

/-! ### Grants -/

/-- What the columns hold of a grant. -/
structure GrantRow.ReadFrom (g : GrantRow) (r : Row) : Prop where
  id : r.Holds .integer "grant_id" (some g.id.value)
  userId : r.Holds .integer "user_id" (some g.userId.value)
  applyDate : r.Holds .date "apply_date" (some g.applyDate)
  expireDate : r.Holds .date "expire_date" (some g.expireDate)
  forceTerminateAt : r.Holds .instant "force_terminate_at" g.forceTerminateAt
  isActive : r.Holds .boolean "is_active" (some g.isActive)

/-- What the columns hold of a capability and of the grant that it belongs to. -/
structure LinkReadFrom (l : GrantId × Capability) (r : Row) : Prop where
  grant : r.Holds .integer "grant_id" (some l.1.value)
  id : r.Holds .integer "capability_id" (some l.2.id.value)
  permissionName : r.Holds .text "permission_name" (some l.2.permissionName)
  resourceName : r.Holds .text "resource_name" (some l.2.resourceName)

/-- **A grant is read just when the columns hold all of it.** -/
theorem readGrant_eq_ok_iff {g : GrantRow} : readGrant r = .ok g ↔ g.ReadFrom r := by
  constructor
  · intro h
    obtain ⟨id, hid, h⟩ := Except.of_bind_eq_ok h
    obtain ⟨userId, huserId, h⟩ := Except.of_bind_eq_ok h
    obtain ⟨applyDate, happlyDate, h⟩ := Except.of_bind_eq_ok h
    obtain ⟨expireDate, hexpireDate, h⟩ := Except.of_bind_eq_ok h
    obtain ⟨forceTerminateAt, hforce, h⟩ := Except.of_bind_eq_ok h
    obtain ⟨isActive, hisActive, h⟩ := Except.of_bind_eq_ok h
    cases h
    exact ⟨Row.id_eq_ok_iff.1 hid, Row.id_eq_ok_iff.1 huserId, Row.required_eq_ok_iff.1 happlyDate,
      Row.required_eq_ok_iff.1 hexpireDate, Row.optional_eq_ok_iff.1 hforce,
      Row.required_eq_ok_iff.1 hisActive⟩
  · intro h
    rw [readGrant, Row.id_eq_ok_iff.2 h.id, Row.id_eq_ok_iff.2 h.userId, Row.date,
      Row.required_eq_ok_iff.2 h.applyDate, Row.date, Row.required_eq_ok_iff.2 h.expireDate,
      Row.instant?, Row.optional_eq_ok_iff.2 h.forceTerminateAt, Row.boolean,
      Row.required_eq_ok_iff.2 h.isActive]
    rfl

theorem readLink_eq_ok_iff {l : GrantId × Capability} : readLink r = .ok l ↔ LinkReadFrom l r := by
  constructor
  · intro h
    obtain ⟨grant, hgrant, h⟩ := Except.of_bind_eq_ok h
    obtain ⟨capability, hcapability, h⟩ := Except.of_bind_eq_ok h
    cases h
    obtain ⟨id, hid, h⟩ := Except.of_bind_eq_ok hcapability
    obtain ⟨permissionName, hpermission, h⟩ := Except.of_bind_eq_ok h
    obtain ⟨resourceName, hresource, h⟩ := Except.of_bind_eq_ok h
    cases h
    exact ⟨Row.id_eq_ok_iff.1 hgrant, Row.id_eq_ok_iff.1 hid,
      Row.required_eq_ok_iff.1 hpermission, Row.required_eq_ok_iff.1 hresource⟩
  · intro h
    rw [readLink, Row.id_eq_ok_iff.2 h.grant, readCapability, Row.id_eq_ok_iff.2 h.id, Row.text,
      Row.required_eq_ok_iff.2 h.permissionName, Row.text,
      Row.required_eq_ok_iff.2 h.resourceName]
    rfl

/-! ### Every row -/

/-- **Rows are read one by one**, and what is read of them comes in their order. -/
theorem everyRow_eq_ok_iff {α : Type} {read : Row → Except Fault α} {r : Result} {as : List α} :
    Attempt.everyRow read r = .ok as ↔
      List.Forall₂ (fun row a => read row = .ok a) r.rows as := by
  obtain ⟨rows, affected⟩ := r
  change rows.mapM read = .ok as ↔ List.Forall₂ _ rows as
  induction rows generalizing as with
  | nil =>
      rw [List.mapM_nil, List.forall₂_nil_left_iff]
      exact ⟨fun h => (Except.ok.inj h).symm, fun h => congrArg _ h.symm⟩
  | cons row rows ih =>
      rw [List.mapM_cons, List.forall₂_cons_left_iff]
      constructor
      · intro h
        obtain ⟨a, ha, h⟩ := Except.of_bind_eq_ok h
        obtain ⟨rest, hrest, h⟩ := Except.of_bind_eq_ok h
        cases h
        exact ⟨a, rest, ha, ih.1 hrest, rfl⟩
      · rintro ⟨a, rest, ha, hrest, rfl⟩
        rw [ha, ih.2 hrest]
        rfl

end Database

end TableAccess
