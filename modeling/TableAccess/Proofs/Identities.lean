/-
**When the local names of two accounts meet.**

The local user name and the address that is made for a profile without one depend on the account
alone: the provider and the login.  They do not keep accounts apart.  A login of the organisation's
provider gets a prefix, and the public provider takes logins that begin with that prefix; an address
is made of the login and the domain, with no prefix.  This module says exactly which accounts meet.

Main definitions:

* `Provider.Account` — an account with a provider;
* `Provider.Names` — a provider's profile names an account;
* `Provider.Account.Shadows` — a public login reads like an organisation login with its prefix.

Main results:

* `Provider.Names.unique` — a profile names at most one account;
* `Provider.identify_eq_ok_iff` — who names an account is given its names, and nobody else is;
* `Provider.Account.username_eq_iff` — user names meet for one account and for shadows only;
* `Provider.octo_meets` — both ways in which the names of two accounts meet;
* `Provider.identities_meet_iff` — the names of two identities meet in these ways only.
-/
import TableAccess.ProviderProfile

set_option relaxedAutoImplicit false
set_option autoImplicit false

namespace TableAccess

namespace Provider

/-! ### Accounts -/

/-- An account with a provider. -/
structure Account where
  provider : Provider
  login : String
deriving DecidableEq, Repr

/-- The profile that a provider sends, known by its identifier, names an account: its login is a
text that is not blank, and the account has it without the blanks around it. -/
def Names (provider : String) (profile : Json) (a : Account) : Prop :=
  provider = a.provider.identifier ∧ filledText? profile "login" = some a.login

namespace Account

/-- The user name of an account. -/
def username (a : Account) : String := a.provider.usernameFor a.login

/-- The address made for an account whose profile has none. -/
def madeAddress (a : Account) (domain : String) : String := a.login ++ "@" ++ domain

/-- A public account has the login that an organisation account gets with its prefix. -/
def Shadows (a b : Account) : Prop :=
  a.provider = .github ∧ b.provider = .githubAics ∧ a.login = "github_" ++ b.login

end Account

/-- A provider is known by its identifier only. -/
theorem ofText_eq_ok_iff {s : String} {p : Provider} : ofText s = .ok p ↔ s = p.identifier := by
  unfold ofText
  constructor
  · intro h
    split at h
    · next hs => cases h; exact hs
    · split at h
      · next hs => cases h; exact hs
      · cases h
  · rintro rfl
    cases p <;> simp [identifier]

theorem Names.unique {provider : String} {profile : Json} {a b : Account}
    (ha : Names provider profile a) (hb : Names provider profile b) : a = b := by
  obtain ⟨ha, hla⟩ := ha
  obtain ⟨hb, hlb⟩ := hb
  have hp : a.provider = b.provider :=
    Except.ok.inj ((ofText_eq_ok_iff.2 ha).symm.trans (ofText_eq_ok_iff.2 hb))
  have hl : a.login = b.login := Option.some.inj (hla.symm.trans hlb)
  cases a
  cases b
  simp_all

/-- **Who names an account is given its names, and nobody else is**: the user name of the account,
and the address of the profile or else the one made for the account. -/
theorem identify_eq_ok_iff {provider domain : String} {profile : Json} {i : LocalIdentity} :
    identify provider profile domain = .ok i ↔
      ∃ a, Names provider profile a ∧
        i = ⟨a.username, (filledText? profile "email").getD (a.madeAddress domain)⟩ := by
  constructor
  · intro h
    cases hp : ofText provider with
    | error e => simp [identify, hp, bind, Except.bind] at h
    | ok p =>
        cases hl : filledText? profile "login" with
        | none => simp [identify, hp, bind, Except.bind, localNames, hl] at h
        | some l =>
            simp only [identify, hp, bind, Except.bind, localNames, hl, Except.ok.injEq] at h
            exact ⟨⟨p, l⟩, ⟨ofText_eq_ok_iff.1 hp, hl⟩, h.symm⟩
  · rintro ⟨a, ⟨hp, hl⟩, rfl⟩
    simp [identify, ofText_eq_ok_iff.2 hp, bind, Except.bind, localNames, hl, Account.username,
      Account.madeAddress]

/-! ### Accounts that meet -/

namespace Account

variable {a b : Account}

/-- **User names meet for one account and for shadows only.** -/
theorem username_eq_iff : a.username = b.username ↔ a = b ∨ a.Shadows b ∨ b.Shadows a := by
  obtain ⟨p, l⟩ := a
  obtain ⟨q, m⟩ := b
  -- a prefix on both sides cancels, so what remains are the two mixed pairs
  cases p <;> cases q <;>
    simp [username, usernameFor, Shadows, String.append_right_inj, eq_comm]

/-- **Made addresses meet when the logins do**, whatever the providers are. -/
theorem madeAddress_eq_iff {domain : String} :
    a.madeAddress domain = b.madeAddress domain ↔ a.login = b.login := by
  simp [madeAddress, String.append_left_inj]

end Account

def ofLogin (login : String) : Json := .obj [("login", .str login)]

/-- **Both ways in which the names of two accounts meet**: `octo` of the public provider and `octo`
of the organisation are given one address, and `github_octo` of the public provider has the user
name of the organisation's `octo`. -/
theorem octo_meets :
    identify "github" (ofLogin "octo") "example.com" = .ok ⟨"octo", "octo@example.com"⟩ ∧
      identify "github_aics" (ofLogin "octo") "example.com" =
        .ok ⟨"github_octo", "octo@example.com"⟩ ∧
      identify "github" (ofLogin "github_octo") "example.com" =
        .ok ⟨"github_octo", "github_octo@example.com"⟩ :=
  ⟨rfl, rfl, rfl⟩

/-- **The names of two identities meet in these ways only.**  The user names of two accounts are the
same exactly for one account and for an account and its shadow; if neither profile has an address,
the addresses are the same exactly if the logins are. -/
theorem identities_meet_iff {p q domain : String} {v w : Json} {i j : LocalIdentity}
    (hi : identify p v domain = .ok i) (hj : identify q w domain = .ok j) :
    ∃ a b, Names p v a ∧ Names q w b ∧
      (i.username = j.username ↔ a = b ∨ a.Shadows b ∨ b.Shadows a) ∧
      (filledText? v "email" = none → filledText? w "email" = none →
        (i.email = j.email ↔ a.login = b.login)) := by
  obtain ⟨a, ha, rfl⟩ := identify_eq_ok_iff.1 hi
  obtain ⟨b, hb, rfl⟩ := identify_eq_ok_iff.1 hj
  refine ⟨a, b, ha, hb, Account.username_eq_iff, ?_⟩
  intro hv hw
  simp only [hv, hw, Option.getD_none]
  exact Account.madeAddress_eq_iff

/-- The shadow of the organisation's `octo`: one user name and two addresses. -/
theorem identities_meet_iff_octo :
    identify "github" (ofLogin "github_octo") "example.com" =
        .ok ⟨"github_octo", "github_octo@example.com"⟩ ∧
      identify "github_aics" (ofLogin "octo") "example.com" =
        .ok ⟨"github_octo", "octo@example.com"⟩ ∧
      ∃ a b, Names "github" (ofLogin "github_octo") a ∧ Names "github_aics" (ofLogin "octo") b ∧
        (a = b ∨ a.Shadows b ∨ b.Shadows a) ∧ a.login ≠ b.login := by
  have hi : identify "github" (ofLogin "github_octo") "example.com" =
      .ok ⟨"github_octo", "github_octo@example.com"⟩ := rfl
  have hj : identify "github_aics" (ofLogin "octo") "example.com" =
      .ok ⟨"github_octo", "octo@example.com"⟩ := rfl
  obtain ⟨a, b, ha, hb, names, addresses⟩ := identities_meet_iff hi hj
  refine ⟨hi, hj, a, b, ha, hb, names.1 rfl, ?_⟩
  intro h
  have : "github_octo@example.com" = "octo@example.com" :=
    (addresses (by decide) (by decide)).2 h
  exact absurd this (by decide)

end Provider

end TableAccess
