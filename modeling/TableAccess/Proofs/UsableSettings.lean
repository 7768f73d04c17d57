/-
**Which settings are usable.**

The program starts with an environment just when three values in it can be used: the address of the
database is there, the lifetime of grants is a positive number if it is there, and the form of log
lines is a known one.  Of several values that cannot be used the first is reported.  The other
values never keep the program from starting: numbers that cannot be used give way to the usual ones,
and so does a blank domain.

Main definitions:

* `Settings.Takes` — a number is taken from a value, or is the usual one;
* `Settings.Reads` — what the settings of an environment are;
* `Settings.Refuses` — why an environment is refused.

Main results:

* `Settings.readMaxConnections_takes`, `Settings.readPort_takes` — numbers are taken from numerals
  in their range only;
* `Settings.load_spec` — an environment has its settings, or is refused;
* `Settings.accepts_usable` — **an environment is accepted just when it is usable**.
-/
import TableAccess.Proofs.AcceptedKeys
import TableAccess.Proofs.NumeralTexts
import TableAccess.Startup.Settings

set_option relaxedAutoImplicit false
set_option autoImplicit false

namespace TableAccess

open Numeral (Denotes Fails)

namespace Settings

variable {value : Option String} {low high usual n n' : Nat} {d d' name : String}
  {format format' : LogFormat} {arguments : List String} {e : Environment} {s s' : Settings}
  {err : AppError}

/-! ### What the values stand for -/

/-- A number is taken from a value as it is, if that is a numeral of a number in the range; if not,
it is the usual one. -/
structure Takes (low high usual : Nat) (value : Option String) (n : Nat) : Prop where
  given : ∀ v m, value = some v → Denotes v m → low ≤ m → m ≤ high → n = m
  otherwise : (∀ v m, value = some v → Denotes v m → ¬ (low ≤ m ∧ m ≤ high)) → n = usual

/-- A domain is taken from a value without the blanks around it, unless nothing is left then. -/
inductive NamesDomain : Option String → String → Prop
  | absent : NamesDomain none "example.com"
  | blank {v : String} (hblank : Text.trim v = "") : NamesDomain (some v) "example.com"
  | given {v : String} (hgiven : Text.trim v ≠ "") : NamesDomain (some v) (Text.trim v)

/-- The days that a grant lasts: those that a value says, with blanks around them or not, of which
there is one at least; or half a year. -/
inductive NamesLifetime : Option String → Nat → Prop
  | absent : NamesLifetime none 183
  | given {v : String} {n : Nat} (hn : Denotes (Text.trim v) n) (hpos : 1 ≤ n)
      (hle : n ≤ Nat.pow 2 64 - 1) : NamesLifetime (some v) n

/-- The names of the forms of log lines. -/
inductive NamesFormat (name : String) : LogFormat → Prop
  | blank (hname : name = "") : NamesFormat name .compact
  | compact (hname : name = "compact") : NamesFormat name .compact
  | json (hname : name = "json") : NamesFormat name .json

/-- The value for the form of log lines, without blanks around it and in lower case. -/
def formatName (e : Environment) : String :=
  String.ofList (Text.lowerAscii (Text.trim ((e.get? "LOG_FORMAT").getD "")).toList)

/-- The settings of an environment. -/
structure Reads (arguments : List String) (e : Environment) (s : Settings) : Prop where
  migrateOnly : s.migrateOnly = true ↔ arguments.head? = some "migrate"
  databaseUrl : e.get? "DATABASE_URL" = some s.databaseUrl
  maxConnections :
    Takes 1 (Nat.pow 2 32 - 1) 10 (e.get? "DATABASE_MAX_CONNECTIONS") s.maxConnections
  frontendUrl : s.frontendUrl = (e.get? "FRONTEND_URL").getD "http://localhost:3000"
  host : s.host = (e.get? "API_HOST").getD "127.0.0.1"
  port : Takes 0 (Nat.pow 2 16 - 1) 3001 (e.get? "API_PORT") s.port.toNat
  fallbackDomain : NamesDomain (e.get? "SSO_FALLBACK_EMAIL_DOMAIN") s.fallbackDomain
  lifetimeDays : NamesLifetime (e.get? "DEFAULT_GRANT_LIFETIME_DAYS") s.lifetimeDays
  logFormat : NamesFormat (formatName e) s.logFormat

/-! ### What keeps the program from starting -/

/-- The address of the database is not there. -/
def LacksDatabase (e : Environment) : Prop := e.get? "DATABASE_URL" = none

/-- The lifetime of grants is there, and is not a positive number. -/
def SpoilsLifetime (e : Environment) : Prop :=
  ∃ v, e.get? "DEFAULT_GRANT_LIFETIME_DAYS" = some v ∧
    ∀ n, Denotes (Text.trim v) n → ¬ (1 ≤ n ∧ n ≤ Nat.pow 2 64 - 1)

/-- The form of log lines is none that is known. -/
def SpoilsFormat (e : Environment) : Prop := formatName e ∉ ["", "compact", "json"]

/-- Why an environment is refused: the first value that cannot be used decides. -/
inductive Refuses (e : Environment) : AppError → Prop
  | database (hdatabase : LacksDatabase e) : Refuses e ⟨.validation, "DATABASE_URL is required"⟩
  | noNumber {v : String} {f : Numeral.Fault} (hdatabase : ¬ LacksDatabase e)
      (hv : e.get? "DEFAULT_GRANT_LIFETIME_DAYS" = some v)
      (hf : Fails (Nat.pow 2 64 - 1) (Text.trim v) f) :
      Refuses e ⟨.validation, "invalid DEFAULT_GRANT_LIFETIME_DAYS: " ++ f.message⟩
  | noDay {v : String} (hdatabase : ¬ LacksDatabase e)
      (hv : e.get? "DEFAULT_GRANT_LIFETIME_DAYS" = some v) (hzero : Denotes (Text.trim v) 0) :
      Refuses e ⟨.validation, "DEFAULT_GRANT_LIFETIME_DAYS must be at least 1"⟩
  | format (hdatabase : ¬ LacksDatabase e) (hlifetime : ¬ SpoilsLifetime e)
      (hformat : SpoilsFormat e) :
      Refuses e ⟨.validation,
        "LOG_FORMAT must be either 'compact' or 'json', got '" ++ formatName e ++ "'"⟩

/-! ### Numbers -/

theorem Takes.of_numeral {v : String} (hv : value = some v) (hn : Denotes v n) (hlow : low ≤ n)
    (hhigh : n ≤ high) : Takes low high usual value n where
  given := by
    intro w m hw hm _ _
    cases hv.symm.trans hw
    exact hn.unique hm
  otherwise := fun h => absurd ⟨hlow, hhigh⟩ (h v n hv hn)

theorem Takes.of_none (h : ∀ v m, value = some v → Denotes v m → ¬ (low ≤ m ∧ m ≤ high)) :
    Takes low high usual value usual where
  given := fun v m hv hm hlow hhigh => absurd ⟨hlow, hhigh⟩ (h v m hv hm)
  otherwise := fun _ => rfl

theorem Takes.cases (h : Takes low high usual value n) :
    (∃ v, value = some v ∧ Denotes v n ∧ low ≤ n ∧ n ≤ high) ∨
    ((∀ v m, value = some v → Denotes v m → ¬ (low ≤ m ∧ m ≤ high)) ∧ n = usual) := by
  by_cases hnone : ∀ v m, value = some v → Denotes v m → ¬ (low ≤ m ∧ m ≤ high)
  · exact .inr ⟨hnone, h.otherwise hnone⟩
  · simp only [not_forall, Decidable.not_not] at hnone
    obtain ⟨v, m, hv, hm, hlow, hhigh⟩ := hnone
    obtain rfl := h.given v m hv hm hlow hhigh
    exact .inl ⟨v, hv, hm, hlow, hhigh⟩

theorem Takes.unique (h : Takes low high usual value n) (h' : Takes low high usual value n') :
    n = n' := by
  obtain ⟨v, hv, hn, hlow, hhigh⟩ | ⟨hnone, rfl⟩ := h.cases
  · exact (h'.given v n hv hn hlow hhigh).symm
  · exact (h'.otherwise hnone).symm

theorem Takes.low_le (h : Takes low high usual value n) (husual : low ≤ usual) : low ≤ n := by
  obtain ⟨-, -, -, hlow, -⟩ | ⟨-, rfl⟩ := h.cases
  · exact hlow
  · exact husual

/-- The largest number of so many bits. -/
theorem natural_high (bits : Nat) : Int.pow 2 bits - 1 = ((Nat.pow 2 bits - 1 : Nat) : Int) := by
  have hpos : 1 ≤ Nat.pow 2 bits := Nat.one_le_two_pow
  rw [Int.ofNat_sub hpos]
  exact congrArg (· - 1) (Int.natCast_pow 2 bits).symm

/-- A value is read if it is a numeral up to the bound, and only then. -/
theorem map_read_cases {b : Numeral.Bounds} (hlow : b.low = 0) (hhigh : b.high = high)
    (value : Option String) :
    (∃ v n, value = some v ∧ Denotes v n ∧ n ≤ high ∧
      value.map (Numeral.read b) = some (.ok (n : Int))) ∨
    ((∀ v n, value = some v → Denotes v n → ¬ n ≤ high) ∧
      ∀ m, value.map (Numeral.read b) ≠ some (.ok m)) := by
  by_cases hsome : ∃ v n, value = some v ∧ Denotes v n ∧ n ≤ high
  · obtain ⟨v, n, rfl, hn, hle⟩ := hsome
    exact .inl ⟨v, n, rfl, hn, hle,
      congrArg some ((Numeral.read_eq_ok_iff hlow hhigh).2 ⟨n, hn, hle, rfl⟩)⟩
  · refine .inr ⟨fun v n hv hn hle => hsome ⟨v, n, hv, hn, hle⟩, fun m hm => ?_⟩
    obtain ⟨v, rfl, hread⟩ := Option.map_eq_some_iff.1 hm
    obtain ⟨n, hn, hle, -⟩ := (Numeral.read_eq_ok_iff hlow hhigh).1 hread
    exact hsome ⟨v, n, rfl, hn, hle⟩

theorem readMaxConnections_takes (value : Option String) :
    Takes 1 (Nat.pow 2 32 - 1) 10 value (readMaxConnections value) := by
  unfold readMaxConnections
  obtain ⟨v, n, hv, hn, hle, hread⟩ | ⟨hnone, hread⟩ :=
    map_read_cases (b := Numeral.natural32) rfl (natural_high 32) value
  · rw [hread]
    dsimp only
    by_cases hpos : 0 < n
    · rw [if_pos (by omega)]
      exact .of_numeral hv hn hpos hle
    · -- zero connections are as good as no number
      rw [if_neg (by omega)]
      refine .of_none fun w m hw hm hrange => ?_
      cases hv.symm.trans hw
      have hn_eq := hn.unique hm
      omega
  · split
    · next m hm => exact absurd hm (hread m)
    · exact .of_none fun v m hv hm hrange => hnone v m hv hm hrange.2

theorem readPort_takes (value : Option String) :
    Takes 0 (Nat.pow 2 16 - 1) 3001 value (readPort value).toNat := by
  unfold readPort
  obtain ⟨v, n, hv, hn, hle, hread⟩ | ⟨hnone, hread⟩ :=
    map_read_cases (b := Numeral.natural16) rfl (natural_high 16) value
  · rw [hread]
    dsimp only
    have hlt : n < Nat.pow 2 16 := Nat.lt_of_le_of_lt hle (by decide)
    rw [Int.toNat_natCast, UInt16.toNat_ofNat', Nat.mod_eq_of_lt hlt]
    exact .of_numeral hv hn (Nat.zero_le n) hle
  · split
    · next m hm => exact absurd hm (hread m)
    · exact .of_none fun v m hv hm hrange => hnone v m hv hm hrange.2

/-! ### Texts -/

theorem readFallbackDomain_names (value : Option String) :
    NamesDomain value (readFallbackDomain value) := by
  cases value with
  | none => exact .absent
  | some v =>
      unfold readFallbackDomain
      dsimp only [Option.map_some]
      by_cases hblank : Text.trim v = ""
      · rw [hblank]
        exact .blank hblank
      · rw [if_neg (mt String.isEmpty_iff.1 hblank)]
        exact .given hblank

theorem NamesDomain.unique (h : NamesDomain value d) (h' : NamesDomain value d') : d = d' := by
  cases h with
  | absent =>
      cases h'
      rfl
  | blank hblank =>
      cases h' with
      | blank => rfl
      | given hgiven => exact absurd hblank hgiven
  | given hgiven =>
      cases h' with
      | blank hblank => exact absurd hblank hgiven
      | given => rfl

theorem NamesDomain.trimmed (h : NamesDomain value d) : Text.trim d = d ∧ d ≠ "" := by
  cases h with
  | absent => exact ⟨by decide, by decide⟩
  | blank => exact ⟨by decide, by decide⟩
  | given hgiven => exact ⟨Text.trim_trim _, hgiven⟩

theorem NamesFormat.eq_ite (h : NamesFormat name format) :
    format = if name = "json" then .json else .compact := by
  cases h with
  | _ hname => simp [hname]

theorem NamesFormat.unique (h : NamesFormat name format) (h' : NamesFormat name format') :
    format = format' :=
  h.eq_ite.trans h'.eq_ite.symm

/-- The form of log lines is named, or is none that is known. -/
theorem readLogFormat_cases (e : Environment) :
    (∃ format, readLogFormat (e.get? "LOG_FORMAT") = .ok format ∧
      NamesFormat (formatName e) format) ∨
    (SpoilsFormat e ∧ readLogFormat (e.get? "LOG_FORMAT") = .error ⟨.validation,
      "LOG_FORMAT must be either 'compact' or 'json', got '" ++ formatName e ++ "'"⟩) := by
  unfold readLogFormat SpoilsFormat
  dsimp only
  rw [← formatName]
  by_cases hblank : formatName e = ""
  · exact .inl ⟨.compact, if_pos (.inl hblank), .blank hblank⟩
  by_cases hcompact : formatName e = "compact"
  · exact .inl ⟨.compact, if_pos (.inr hcompact), .compact hcompact⟩
  rw [if_neg (by simp [hblank, hcompact])]
  by_cases hjson : formatName e = "json"
  · exact .inl ⟨.json, if_pos hjson, .json hjson⟩
  · exact .inr ⟨by simp [hblank, hcompact, hjson], if_neg hjson⟩

theorem NamesFormat.not_spoils (h : NamesFormat (formatName e) format) : ¬ SpoilsFormat e := by
  unfold SpoilsFormat
  cases h with
  | _ hname => simp [hname]

/-! ### The lifetime of grants -/

theorem NamesLifetime.unique (h : NamesLifetime value n) (h' : NamesLifetime value n') :
    n = n' := by
  cases h with
  | absent =>
      cases h'
      rfl
  | given hn =>
      cases h' with
      | given hn' => exact hn.unique hn'

theorem NamesLifetime.pos (h : NamesLifetime value n) : 1 ≤ n := by
  cases h with
  | absent => decide
  | given _ hpos => exact hpos

theorem spoilsLifetime_of_fails {v : String} {f : Numeral.Fault}
    (hv : e.get? "DEFAULT_GRANT_LIFETIME_DAYS" = some v)
    (hf : Fails (Nat.pow 2 64 - 1) (Text.trim v) f) : SpoilsLifetime e :=
  ⟨v, hv, fun _ hn hrange => hf.not_denotes hn hrange.2⟩

theorem spoilsLifetime_of_zero {v : String} (hv : e.get? "DEFAULT_GRANT_LIFETIME_DAYS" = some v)
    (hzero : Denotes (Text.trim v) 0) : SpoilsLifetime e := by
  refine ⟨v, hv, fun n hn hrange => ?_⟩
  have hn_eq := hn.unique hzero
  omega

/-- The lifetime is a positive number, or its value is no number in the range, or zero. -/
theorem readLifetimeDays_cases (value : Option String) :
    (∃ n, readLifetimeDays value = .ok n ∧ NamesLifetime value n) ∨
    (∃ v f, value = some v ∧ Fails (Nat.pow 2 64 - 1) (Text.trim v) f ∧ readLifetimeDays value =
      .error ⟨.validation, "invalid DEFAULT_GRANT_LIFETIME_DAYS: " ++ f.message⟩) ∨
    (∃ v, value = some v ∧ Denotes (Text.trim v) 0 ∧ readLifetimeDays value =
      .error ⟨.validation, "DEFAULT_GRANT_LIFETIME_DAYS must be at least 1"⟩) := by
  cases value with
  | none => exact .inl ⟨183, rfl, .absent⟩
  | some v =>
      rw [readLifetimeDays]
      cases hread : Numeral.read Numeral.natural64 (Text.trim v) with
      | error f =>
          have hf := (Numeral.read_eq_error_iff rfl (natural_high 64)).1 hread
          exact .inr (.inl ⟨v, f, rfl, hf, rfl⟩)
      | ok m =>
          obtain ⟨n, hn, hle, rfl⟩ := (Numeral.read_eq_ok_iff rfl (natural_high 64)).1 hread
          dsimp only
          by_cases hzero : n = 0
          · subst hzero
            exact .inr (.inr ⟨v, rfl, hn, if_pos rfl⟩)
          · rw [if_neg (by omega)]
            exact .inl ⟨n, rfl, .given hn (Nat.one_le_iff_ne_zero.2 hzero) hle⟩

/-! ### All values -/

/-- **An environment has its settings, or is refused.** -/
theorem load_spec (arguments : List String) (e : Environment) :
    (∃ s, load arguments e = .ok s ∧ Reads arguments e s) ∨
    (∃ err, load arguments e = .error err ∧ Refuses e err) := by
  unfold load
  cases hdatabase : e.get? "DATABASE_URL" with
  | none =>
      rw [required, hdatabase]
      exact .inr ⟨_, rfl, .database hdatabase⟩
  | some url =>
      have hthere : ¬ LacksDatabase e := by
        rw [LacksDatabase, hdatabase]
        exact Option.some_ne_none url
      rw [required, hdatabase]
      obtain ⟨n, hread, hlifetime⟩ | ⟨v, f, hv, hf, hread⟩ | ⟨v, hv, hzero, hread⟩ :=
        readLifetimeDays_cases (e.get? "DEFAULT_GRANT_LIFETIME_DAYS")
      · rw [hread]
        obtain ⟨format, hread', hformat⟩ | ⟨hspoils, hread'⟩ := readLogFormat_cases e
        · rw [hread']
          exact .inl ⟨_, rfl,
            { migrateOnly := by simp
              databaseUrl := hdatabase
              maxConnections := readMaxConnections_takes _
              frontendUrl := rfl
              host := rfl
              port := readPort_takes _
              fallbackDomain := readFallbackDomain_names _
              lifetimeDays := hlifetime
              logFormat := hformat }⟩
        · rw [hread']
          refine .inr ⟨_, rfl, .format hthere ?_ hspoils⟩
          rintro ⟨v, hv, hnone⟩
          rw [hv] at hlifetime
          cases hlifetime with
          | given hn hpos hle => exact hnone n hn ⟨hpos, hle⟩
      · rw [hread]
        exact .inr ⟨_, rfl, .noNumber hthere hv hf⟩
      · rw [hread]
        exact .inr ⟨_, rfl, .noDay hthere hv hzero⟩

theorem Reads.unique (h : Reads arguments e s) (h' : Reads arguments e s') : s = s' := by
  have hmigrate : s.migrateOnly = s'.migrateOnly :=
    Bool.eq_iff_iff.2 (h.migrateOnly.trans h'.migrateOnly.symm)
  have hurl : s.databaseUrl = s'.databaseUrl :=
    Option.some.inj (h.databaseUrl.symm.trans h'.databaseUrl)
  have hport : s.port = s'.port := UInt16.toNat_inj.1 (h.port.unique h'.port)
  cases s
  cases s'
  rw [mk.injEq]
  exact ⟨hmigrate, hurl, h.maxConnections.unique h'.maxConnections,
    h.frontendUrl.trans h'.frontendUrl.symm, h.host.trans h'.host.symm, hport,
    h.fallbackDomain.unique h'.fallbackDomain, h.lifetimeDays.unique h'.lifetimeDays,
    h.logFormat.unique h'.logFormat⟩

/-- Whoever has settings can use what has to be usable. -/
theorem Reads.usable (h : Reads arguments e s) :
    ¬ (LacksDatabase e ∨ SpoilsLifetime e ∨ SpoilsFormat e) := by
  rintro (hlacks | ⟨v, hv, hnone⟩ | hspoils)
  · cases hlacks.symm.trans h.databaseUrl
  · have hlifetime := h.lifetimeDays
    rw [hv] at hlifetime
    cases hlifetime with
    | given hn hpos hle => exact hnone _ hn ⟨hpos, hle⟩
  · exact h.logFormat.not_spoils hspoils

theorem Refuses.not_usable (h : Refuses e err) :
    LacksDatabase e ∨ SpoilsLifetime e ∨ SpoilsFormat e := by
  cases h with
  | database hdatabase => exact .inl hdatabase
  | noNumber _ hv hf => exact .inr (.inl (spoilsLifetime_of_fails hv hf))
  | noDay _ hv hzero => exact .inr (.inl (spoilsLifetime_of_zero hv hzero))
  | format _ _ hformat => exact .inr (.inr hformat)

/-- What stands against an environment is what it is refused with. -/
theorem load_of_refuses (h : Refuses e err) : load arguments e = .error err := by
  unfold load
  cases h with
  | database hdatabase =>
      rw [required, hdatabase]
      rfl
  | noNumber hthere hv hf =>
      obtain ⟨url, hurl⟩ := Option.ne_none_iff_exists'.1 hthere
      rw [required, hurl, hv, readLifetimeDays,
        (Numeral.read_eq_error_iff rfl (natural_high 64)).2 hf]
      rfl
  | noDay hthere hv hzero =>
      obtain ⟨url, hurl⟩ := Option.ne_none_iff_exists'.1 hthere
      rw [required, hurl, hv, readLifetimeDays,
        (Numeral.read_eq_ok_iff rfl (natural_high 64)).2 ⟨0, hzero, Nat.zero_le _, rfl⟩]
      rfl
  | format hthere hlifetime hformat =>
      obtain ⟨url, hurl⟩ := Option.ne_none_iff_exists'.1 hthere
      obtain ⟨n, hread, -⟩ | ⟨v, f, hv, hf, -⟩ | ⟨v, hv, hzero, -⟩ :=
        readLifetimeDays_cases (e.get? "DEFAULT_GRANT_LIFETIME_DAYS")
      · obtain ⟨format, -, hnames⟩ | ⟨-, hread'⟩ := readLogFormat_cases e
        · exact absurd hformat hnames.not_spoils
        · rw [required, hurl, hread, hread']
          rfl
      · exact absurd (spoilsLifetime_of_fails hv hf) hlifetime
      · exact absurd (spoilsLifetime_of_zero hv hzero) hlifetime

/-- **The settings of an environment** are what its values say. -/
theorem load_eq_ok_iff : load arguments e = .ok s ↔ Reads arguments e s := by
  obtain ⟨s', hload, hreads⟩ | ⟨err, hload, hrefuses⟩ := load_spec arguments e
  · rw [hload, Except.ok.injEq]
    exact ⟨fun heq => heq ▸ hreads, hreads.unique⟩
  · rw [hload]
    exact iff_of_false (fun h => by cases h) fun h => h.usable hrefuses.not_usable

/-- **An environment is refused** for the first value that cannot be used. -/
theorem load_eq_error_iff : load arguments e = .error err ↔ Refuses e err := by
  refine ⟨fun h => ?_, load_of_refuses⟩
  obtain ⟨s, hload, -⟩ | ⟨err', hload, hrefuses⟩ := load_spec arguments e
  · cases hload.symm.trans h
  · cases hload.symm.trans h
    exact hrefuses

/-- An environment is refused just when something in it cannot be used. -/
theorem exists_error_iff : (∃ err, load arguments e = .error err) ↔
    LacksDatabase e ∨ SpoilsLifetime e ∨ SpoilsFormat e := by
  constructor
  · rintro ⟨err, hload⟩
    exact (load_eq_error_iff.1 hload).not_usable
  · intro h
    obtain ⟨s, hload, hreads⟩ | ⟨err, hload, -⟩ := load_spec arguments e
    · exact absurd h hreads.usable
    · exact ⟨err, hload⟩

/-- **An environment is accepted just when it is usable.**  It is refused just when the address of
the database is not there, or the lifetime of grants is there and is no number from 1 on that has
room in 64 bits, or the form of log lines is none of those known; and the first of these is
reported.  Otherwise the settings are what the values say: numbers and the domain come from values
that can be used, and are the usual ones else.  So grants last a day at least, there is a connection
at least, and the domain is not blank and has no blanks around it. -/
theorem accepts_usable (arguments : List String) (e : Environment) :
    ((∃ err, load arguments e = .error err) ↔
      LacksDatabase e ∨ SpoilsLifetime e ∨ SpoilsFormat e) ∧
    (∀ err, load arguments e = .error err ↔ Refuses e err) ∧
    (∀ s, load arguments e = .ok s ↔ Reads arguments e s) ∧
    (∀ s, load arguments e = .ok s → 1 ≤ s.lifetimeDays ∧ 1 ≤ s.maxConnections ∧
      Text.trim s.fallbackDomain = s.fallbackDomain ∧ s.fallbackDomain ≠ "") := by
  refine ⟨exists_error_iff, fun _ => load_eq_error_iff, fun _ => load_eq_ok_iff, fun s hload => ?_⟩
  have hreads := load_eq_ok_iff.1 hload
  exact ⟨hreads.lifetimeDays.pos, hreads.maxConnections.low_le (by decide),
    hreads.fallbackDomain.trimmed⟩

/-- Everything is set, and nothing as usual: a lifetime with a sign and zeros before it, a port that
is too large, no connections, and a domain of blanks. -/
def strange : Environment :=
  [("DATABASE_URL", ""), ("DEFAULT_GRANT_LIFETIME_DAYS", "\t+007\n"), ("API_PORT", "65536"),
    ("DATABASE_MAX_CONNECTIONS", "0"), ("SSO_FALLBACK_EMAIL_DOMAIN", " \t"),
    ("LOG_FORMAT", " JSON ")]

/-- The lifetime and the form of log lines cannot be used. -/
def twiceWrong : Environment :=
  [("DATABASE_URL", "postgres://localhost"),
    ("DEFAULT_GRANT_LIFETIME_DAYS", "18446744073709551616 days"), ("LOG_FORMAT", "pretty")]

/-- Blanks around a number do no harm, and of two wrong values the first is reported. -/
theorem accepts_usable_strange :
    (∃ s, load ["migrate"] strange = .ok s ∧ Reads ["migrate"] strange s ∧ 1 ≤ s.lifetimeDays ∧
      s.lifetimeDays = 7 ∧ s.port = 3001 ∧ s.maxConnections = 10 ∧
      s.fallbackDomain = "example.com") ∧
    Refuses twiceWrong ⟨.validation,
      "invalid DEFAULT_GRANT_LIFETIME_DAYS: number too large to fit in target type"⟩ := by
  obtain ⟨-, -, hreads, hbounds⟩ := accepts_usable ["migrate"] strange
  have hload : load ["migrate"] strange = .ok
      ⟨true, "", 10, "http://localhost:3000", "127.0.0.1", 3001, "example.com", 7, .json⟩ := by
    decide +kernel
  refine ⟨⟨_, hload, (hreads _).1 hload, (hbounds _ hload).1, rfl, rfl, rfl, rfl⟩, ?_⟩
  exact ((accepts_usable [] twiceWrong).2.1 _).1 (by decide +kernel)

end Settings

end TableAccess
