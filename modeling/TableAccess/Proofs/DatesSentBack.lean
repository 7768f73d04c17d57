/-
**Dates that are shown can be sent back.**

A response shows the first and the last day of a grant as texts.  Whoever puts such a text into a
request to create a grant, with blanks around it or not, asks for just that day, whichever day of
the calendar it is.  A date that is blank or absent is not asked for; and a request with a date that
cannot be read ends there, before any call, and leaves everything as it is.

Main definitions:

* `Http.Endpoint.StandsFor` — a text stands for a date in requests;
* `Http.Endpoint.Unreadable` — a request to create a grant has a date that cannot be read;
* `Http.CreateGrantBody.toJson` — the body of such a request.

Main results:

* `Http.Endpoint.date?_cases` — what a text stands for;
* `Http.Endpoint.operation?_of_sends` — dates that are sent are asked for;
* `Http.Router.respond_of_unreadable` — dates that cannot be read are refused;
* `Http.dates_can_be_sent_back` — **dates that are shown can be sent back**.
-/
import TableAccess.Proofs.AuditTrail
import TableAccess.Proofs.DateForms
import TableAccess.Proofs.DayByDay
import TableAccess.Proofs.DomainForms
import TableAccess.Proofs.TextBytes

set_option relaxedAutoImplicit false
set_option autoImplicit false

namespace TableAccess

namespace Http

open Json (Layout)

/-! ### What a text stands for -/

namespace Endpoint

variable {field t : String} {text : Option String} {d : Date} {e : AppError}

/-- Nothing is said: the text is absent, or blank. -/
def SaysNothing (text : Option String) : Prop :=
  ∀ t, text = some t → ∀ c ∈ t.toList, Text.isBlank c = true

/-- In requests a text stands for a date, with blanks around it or not. -/
def StandsFor (t : String) (d : Date) : Prop :=
  ∀ field t', Text.Surrounds t t' → date? field (some t') = .ok (some d)

/-- **What a text stands for**: for no date, for a date, or for nothing that can be read. -/
theorem date?_cases (field : String) (text : Option String) :
    (SaysNothing text ∧ date? field text = .ok none) ∨
    (∃ t d, text = some t ∧ Text.trim t ≠ "" ∧ Date.readForm (Text.trim t) = .ok d ∧
      date? field text = .ok (some d)) ∨
    (∃ t f, text = some t ∧ Text.trim t ≠ "" ∧ Date.readForm (Text.trim t) = .error f ∧
      date? field text = .error (badDate field (Text.trim t) f)) := by
  cases text with
  | none =>
      refine .inl ⟨fun t ht => ?_, rfl⟩
      cases ht
  | some t =>
      unfold date?
      by_cases hblank : Text.trim t = ""
      · refine .inl ⟨fun t' ht => ?_, ?_⟩
        · cases ht
          exact Text.trim_eq_empty_iff.1 hblank
        · rw [Option.map_some, hblank]
          rfl
      · -- something is left between the blanks, so it has to be a date
        have hthere : (some (Text.trim t)).filter (fun s => !s.isEmpty) = some (Text.trim t) := by
          simp [Option.filter, hblank]
        rw [Option.map_some, hthere]
        dsimp only
        cases hread : Date.readForm (Text.trim t) with
        | ok d => exact .inr (.inl ⟨t, d, rfl, hblank, hread, rfl⟩)
        | error f => exact .inr (.inr ⟨t, f, rfl, hblank, hread, rfl⟩)

theorem date?_eq_none_iff : date? field text = .ok none ↔ SaysNothing text := by
  obtain ⟨hnothing, hdate⟩ | ⟨t, d, rfl, hne, -, hdate⟩ | ⟨t, f, rfl, hne, -, hdate⟩ :=
    date?_cases field text
  · exact iff_of_true hdate hnothing
  · rw [hdate]
    exact iff_of_false (fun h => by cases h) fun h => hne (Text.trim_eq_empty_iff.2 (h t rfl))
  · rw [hdate]
    exact iff_of_false (fun h => by cases h) fun h => hne (Text.trim_eq_empty_iff.2 (h t rfl))

theorem kind_of_date? (h : date? field text = .error e) : e.kind = .validation := by
  obtain ⟨-, hdate⟩ | ⟨t, d, -, -, -, hdate⟩ | ⟨t, f, -, -, -, hdate⟩ := date?_cases field text
  · cases hdate.symm.trans h
  · cases hdate.symm.trans h
  · cases hdate.symm.trans h
    rfl

/-- **A written date stands for itself.** -/
theorem standsFor_write (d : Date) : StandsFor d.write d := by
  intro field t' hsurrounds
  have hread := Date.readForm_trim_of_surrounds hsurrounds
  obtain ⟨hnothing, -⟩ | ⟨t, d', ht, -, hread', hdate⟩ | ⟨t, f, ht, -, hread', -⟩ :=
    date?_cases field (some t')
  · rw [Text.trim_eq_empty_iff.2 (hnothing t' rfl)] at hread
    cases hread
  · cases ht
    cases hread.symm.trans hread'
    exact hdate
  · cases ht
    cases hread.symm.trans hread'

end Endpoint

/-! ### Requests with dates -/

namespace CreateGrantBody

/-- The integers of the record fit 64 bits. -/
structure Fits (b : CreateGrantBody) : Prop where
  userId : Numeral.integer64.admits b.userId = true
  capabilityIds : ∀ n ∈ b.capabilityIds, Numeral.integer64.admits n = true

def field (b : CreateGrantBody) : (k : Field) → layout.Value k
  | .userId => b.userId
  | .capabilityIds => b.capabilityIds
  | .applyDate => b.applyDate
  | .expireDate => b.expireDate

def writtenField (b : CreateGrantBody) : Field → Json
  | .userId => .int b.userId
  | .capabilityIds => .arr (b.capabilityIds.map Json.int)
  | .applyDate => Json.ofText? b.applyDate
  | .expireDate => Json.ofText? b.expireDate

def toJson (b : CreateGrantBody) : Json :=
  .obj (layout.order.map fun k => (layout.name k, b.writtenField k))

theorem takesBack {b : CreateGrantBody} (hb : b.Fits) : reader.TakesBack b.toJson b := by
  refine layout.takesBack_record b.writtenField b.field (by decide) ?_ (by decide) ?_ ?_ rfl
  · rintro ⟨⟩ <;> decide
  · rintro ⟨⟩ <;> decide
  · rintro ⟨⟩
    · exact Json.takesBack_integer hb.userId
    · exact Json.takesBack_list fun n hn => Json.takesBack_integer (hb.capabilityIds n hn)
    · exact Json.takesBack_ofText? b.applyDate
    · exact Json.takesBack_ofText? b.expireDate

/-- **A record that is sent is read.** -/
theorem read_encode {b : CreateGrantBody} (hb : b.Fits) :
    read (Utf8.encode b.toJson.render) = .ok b := by
  -- the body begins with a brace, so it is not blank
  have hblank : Payload.isBlank (Utf8.encode b.toJson.render) = false := by
    rw [Utf8.encode_eq, toJson, layout]
    simp only [List.map_cons, Json.render, String.toList_append]
    rfl
  rw [read, Payload.record, hblank, if_neg Bool.false_ne_true, Utf8.pieces_encode,
    (takesBack hb).run]

end CreateGrantBody

/-- A request sends a record in its body, with a date in each of the two fields for dates, and with
blanks around the dates or not. -/
structure Message.Sends (m : Message) (b : CreateGrantBody) (first last : Date) : Prop where
  method : m.method = .post
  body : m.body = Utf8.encode b.toJson.render
  fits : b.Fits
  applyDate : ∃ t, b.applyDate = some t ∧ Text.Surrounds first.write t
  expireDate : ∃ t, b.expireDate = some t ∧ Text.Surrounds last.write t

namespace Endpoint

variable {m : Message} {b : CreateGrantBody} {e : AppError} {first last : Date}

/-- **Dates that are sent are asked for.** -/
theorem operation?_of_sends (h : m.Sends b first last) :
    operation? .grants m = some (.createGrant
      { userId := ⟨b.userId⟩
        capabilityIds := b.capabilityIds.map fun n => ⟨n⟩
        applyDate := some first
        expireDate := some last }) := by
  obtain ⟨t, happly, ht⟩ := h.applyDate
  obtain ⟨t', hexpire, ht'⟩ := h.expireDate
  have hread : CreateGrantBody.read m.body = .ok b := by
    rw [h.body]
    exact CreateGrantBody.read_encode h.fits
  have hinput : createInput b = .ok
      { userId := ⟨b.userId⟩
        capabilityIds := b.capabilityIds.map fun n => ⟨n⟩
        applyDate := some first
        expireDate := some last } := by
    rw [createInput, happly, hexpire, standsFor_write first _ _ ht, standsFor_write last _ _ ht']
    rfl
  unfold operation?
  rw [h.method]
  dsimp only
  rw [hread]
  change (createInput b).toOption.bind _ = _
  rw [hinput]
  rfl

/-- A date of a request to create a grant cannot be read; of two the first is reported. -/
inductive Unreadable (b : CreateGrantBody) (e : AppError) : Prop
  | applyDate (h : date? "apply_date" b.applyDate = .error e)
  | expireDate {d : Option Date} (hfirst : date? "apply_date" b.applyDate = .ok d)
      (h : date? "expire_date" b.expireDate = .error e)

theorem Unreadable.createInput_eq (h : Unreadable b e) : createInput b = .error e := by
  unfold createInput
  cases h with
  | applyDate h =>
      rw [h]
      rfl
  | expireDate hfirst h =>
      rw [hfirst, h]
      rfl

theorem Unreadable.kind_eq (h : Unreadable b e) : e.kind = .validation := by
  cases h with
  | applyDate h => exact kind_of_date? h
  | expireDate _ h => exact kind_of_date? h

/-- **Dates that cannot be read end a request before any call.** -/
theorem guarded_of_unreadable (s : Settings) (p : Principal) (hmethod : m.method = .post)
    (hread : CreateGrantBody.read m.body = .ok b) (h : Unreadable b e) :
    guarded s p .grants m = pure (.ofError e) ∧ operation? .grants m = none := by
  unfold guarded operation?
  rw [hmethod]
  dsimp only
  rw [createGrant, hread]
  constructor
  · rw [whenOk, h.createInput_eq]
    rfl
  · change (createInput b).toOption.bind _ = _
    rw [h.createInput_eq]
    rfl

end Endpoint

/-! ### Responses -/

/-- A response shows the dates of a grant as these texts. -/
structure ShowsDates (shown : Json) (g : Grant) (first last : String) : Prop where
  applyDate : shown.get? "apply_date" = some (.str first)
  expireDate : shown.get? "expire_date" = some (.str last)
  expireOrTerminate : g.forceTerminateAt = none →
    shown.get? "exp_or_terminate_date" = some (.str last)

/-- **What a response shows** of the dates of a grant; without a revocation the day on which the
grant ends is the last one, in the same words. -/
theorem showsDates_view (g : Grant) (name : String) (now : Instant) :
    ShowsDates (View.grant (GrantAdministration.view g name now)) g g.applyDate.write
      g.expireDate.write where
  applyDate := by simp [View.grant, GrantAdministration.view, Json.get?, Json.lookup]
  expireDate := by simp [View.grant, GrantAdministration.view, Json.get?, Json.lookup]
  expireOrTerminate := by
    intro hforced
    have htext : g.expireOrTerminateText = g.expireDate.write := by
      rw [Grant.expireOrTerminateText, hforced, ← g.expireDate.format_isoPattern]
    simp [View.grant, GrantAdministration.view, Json.get?, Json.lookup, htext]

namespace Router

variable {w : World} {m : Message} {p : Principal} {b : CreateGrantBody} {e : AppError}

/-- **Dates that cannot be read are refused**, and leave everything as it is. -/
theorem respond_of_unreadable (router : Router) (hr : Route.ofPath? m.path = some .grants)
    (hmethod : m.method = .post) (hpass : PassesOn w .grants m p)
    (hread : CreateGrantBody.read m.body = .ok b) (h : Endpoint.Unreadable b e) :
    (w.call (router.respond m)).1 = router.finish m (.ofError e) ∧
      (w.call (router.respond m)).2.store = w.store := by
  obtain ⟨hguarded, hoperation⟩ :=
    Endpoint.guarded_of_unreadable router.settings p hmethod hread h
  refine ⟨?_, store_of_unlogged router (.undecodable hr hpass hoperation)⟩
  have hmem : Route.grants.methods.contains m.method = true := by
    rw [hmethod]
    decide
  have hperform : perform router.settings (some p) .grants m = pure (.ofError e) := by
    rw [perform, hmem, ← hguarded]
    rfl
  rw [call_respond, call_dispatch_guarded _ w hr (by simp [hmethod]) (by decide)]
  rcases hcheck : w.call (Guard.check (Route.grants.access = .administrator) m) with ⟨verdict, w'⟩
  rw [PassesOn, hcheck] at hpass
  cases hpass
  dsimp only
  rw [hperform, withAllow, if_pos hmem]
  rfl

end Router

/-- **Dates that are shown can be sent back.**  Every day of the calendar is spelled with four
digits of its year at least, and with a sign if it needs one; in a request this text stands for the
day, in whichever of its fields and with blanks around it or not.  These are the texts that a
response shows of the dates of a grant, the day on which the grant ends with them, so a request that
sends them back asks for a grant from and to the same days.  A text that is absent or blank asks for
no day.  A request to create a grant, passed on on behalf of whomever, with a date that cannot be
read is refused as invalid without any call, and leaves everything as it is. -/
theorem dates_can_be_sent_back :
    (∀ d : Date, DateText.Spells d d.write ∧ Endpoint.StandsFor d.write d) ∧
    (∀ (g : Grant) (name : String) (now : Instant),
      ShowsDates (View.grant (GrantAdministration.view g name now)) g g.applyDate.write
        g.expireDate.write) ∧
    (∀ (m : Message) (b : CreateGrantBody) (first last : Date), m.Sends b first last →
      Endpoint.operation? .grants m = some (.createGrant
        { userId := ⟨b.userId⟩
          capabilityIds := b.capabilityIds.map fun n => ⟨n⟩
          applyDate := some first
          expireDate := some last })) ∧
    (∀ (field : String) (text : Option String),
      Endpoint.date? field text = .ok none ↔ Endpoint.SaysNothing text) ∧
    (∀ (router : Router) (w : World) (m : Message) (p : Principal) (b : CreateGrantBody)
      (e : AppError), Route.ofPath? m.path = some .grants → m.method = .post →
      PassesOn w .grants m p → CreateGrantBody.read m.body = .ok b → Endpoint.Unreadable b e →
      e.kind = .validation ∧
        Endpoint.guarded router.settings p .grants m = pure (.ofError e) ∧
        (w.call (router.respond m)).1 = router.finish m (.ofError e) ∧
        (w.call (router.respond m)).1.status = 400 ∧
        (w.call (router.respond m)).2.store = w.store) := by
  refine ⟨fun d => ⟨DateText.spells_write d, Endpoint.standsFor_write d⟩, showsDates_view,
    fun m b first last => Endpoint.operation?_of_sends,
    fun field text => Endpoint.date?_eq_none_iff, ?_⟩
  intro router w m p b e hr hmethod hpass hread h
  obtain ⟨hresponse, hstore⟩ := router.respond_of_unreadable hr hmethod hpass hread h
  have hguarded := (Endpoint.guarded_of_unreadable router.settings p hmethod hread h).1
  refine ⟨h.kind_eq, hguarded, hresponse, ?_, hstore⟩
  rw [hresponse, Router.status_finish, Response.ofError, h.kind_eq]
  rfl

/-- The days from the first of the calendar, with blanks around it, to the last. -/
def wholeCalendar : CreateGrantBody :=
  ⟨1, [3], some "\t-262143-01-01 ", some "+262142-12-31"⟩

/-- A word in place of a day. -/
def fromTomorrow : CreateGrantBody := ⟨1, [3], some "tomorrow", none⟩

/-- The request of the administrator with a record. -/
def requestFor (b : CreateGrantBody) : Message where
  method := .post
  path := "/api/admin/permission-grants".toList
  query := []
  headers := [("Authorization", "Bearer alpha")]
  body := Utf8.encode b.toJson.render

/-- Both ends of the calendar are asked for, and a day in words is refused. -/
theorem dates_can_be_sent_back_ends :
    (requestFor wholeCalendar).Sends wholeCalendar Date.first Date.last ∧
    Endpoint.operation? .grants (requestFor wholeCalendar) =
      some (.createGrant ⟨⟨1⟩, [⟨3⟩], some Date.first, some Date.last⟩) ∧
    PassesOn Router.soleKey .grants (requestFor fromTomorrow) .root ∧
    (Router.soleKey.call (Router.local8080.respond (requestFor fromTomorrow))).1.status = 400 ∧
    (Router.soleKey.call (Router.local8080.respond (requestFor fromTomorrow))).2.store =
      Router.soleKey.store := by
  obtain ⟨-, -, hasked, -, hrefused⟩ := dates_can_be_sent_back
  have hsends : (requestFor wholeCalendar).Sends wholeCalendar Date.first Date.last :=
    { method := rfl
      body := rfl
      fits := ⟨by decide, by decide⟩
      applyDate := ⟨_, rfl, ['\t'], [' '], List.all_eq_true.1 rfl, by decide +kernel⟩
      expireDate := ⟨_, rfl, [], [], by simp, by decide +kernel⟩ }
  have hpass : PassesOn Router.soleKey .grants (requestFor fromTomorrow) .root := by
    with_unfolding_all rfl
  have hunreadable : Endpoint.Unreadable fromTomorrow
      (Endpoint.badDate "apply_date" "tomorrow" .invalid) := .applyDate (by decide +kernel)
  obtain ⟨-, -, -, hstatus, hstore⟩ := hrefused Router.local8080 Router.soleKey
    (requestFor fromTomorrow) .root fromTomorrow _ (by decide) rfl hpass
    (CreateGrantBody.read_encode ⟨by decide, by decide⟩) hunreadable
  exact ⟨hsends, hasked _ _ _ _ hsends, hpass, hstatus, hstore⟩

end Http

end TableAccess
