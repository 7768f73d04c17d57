/-
**Identifiers.**

Principals, capabilities and grants are known by integers.  Each kind has a type of its own, so one
cannot stand for another.

Main definitions:

* `Id` — an identifier of a kind, with the order of its integer;
* `UserId`, `CapabilityId`, `GrantId` — the three kinds.
-/
import TableAccess.Text.Numeral

set_option relaxedAutoImplicit false
set_option autoImplicit false

namespace TableAccess

/-- What an identifier names. -/
inductive Id.Kind where
  | user
  | capability
  | grant

/-- An identifier. -/
@[ext] structure Id (kind : Id.Kind) where
  value : Int
deriving DecidableEq, Repr, Inhabited

/-- Names a principal. -/
abbrev UserId := Id .user

/-- Names a capability. -/
abbrev CapabilityId := Id .capability

/-- Names a grant. -/
abbrev GrantId := Id .grant

namespace Id

variable {kind : Id.Kind}

def write (i : Id kind) : String := Numeral.write i.value

instance : ToString (Id kind) := ⟨write⟩

/-! ### Order -/

instance : LT (Id kind) := ⟨fun i j => i.value < j.value⟩
instance : LE (Id kind) := ⟨fun i j => i.value ≤ j.value⟩
instance (i j : Id kind) : Decidable (i < j) := inferInstanceAs (Decidable (i.value < j.value))
instance (i j : Id kind) : Decidable (i ≤ j) := inferInstanceAs (Decidable (i.value ≤ j.value))

theorem lt_def {i j : Id kind} : i < j ↔ i.value < j.value := Iff.rfl

theorem le_def {i j : Id kind} : i ≤ j ↔ i.value ≤ j.value := Iff.rfl

instance : Std.IsLinearOrder (Id kind) where
  le_refl i := Int.le_refl i.value
  le_trans _ _ _ h k := Int.le_trans (le_def.1 h) (le_def.1 k)
  le_antisymm _ _ h k := Id.ext (Int.le_antisymm (le_def.1 h) (le_def.1 k))
  le_total i j := Int.le_total i.value j.value

instance : Std.LawfulOrderLT (Id kind) where
  lt_iff i j := by
    show i.value < j.value ↔ i.value ≤ j.value ∧ ¬ j.value ≤ i.value
    omega

end Id

end TableAccess
