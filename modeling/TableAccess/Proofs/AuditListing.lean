/-
**The listing of the audit log.**

Events are only ever added to the log, so the place of an event never changes.  An administrator
reads the events newest first, and may ask for those of one action or of one actor only.  Each entry
carries the number of its event in the whole log, whatever was asked for: numbers are given before
anything is left out.

Main definitions:

* `Store.Act.added?` — what an act adds to the log;
* `AuditEntry.Shows` — an entry shows the event at a place of a log;
* `AuditEntry.NewestFirst` — entries show the events of a log that pass some filters;
* `World.entries` — all that a query finds.

Main results:

* `Store.auditLog_acts` — the log of a store has what was added, in order;
* `World.run_readAudit` — a page is a window on all that a query finds;
* `World.newestFirst_entries` — a query finds the events that pass its filters, newest first;
* `World.entries_append` — as the log grows, entries come in front of those that were there;
* `World.audit_log_is_read_faithfully` — what the pages show.
-/
import Mathlib.Data.List.Forall2
import TableAccess.AuditReading
import TableAccess.Proofs.Acts
import TableAccess.Proofs.CallsMade
import TableAccess.Proofs.Pages
import TableAccess.Proofs.QuietWorld

set_option relaxedAutoImplicit false
set_option autoImplicit false

namespace TableAccess

/-! ### The log of a store -/

namespace Store

/-- What an act adds to the audit log. -/
def Act.added? : Act → Option (AuditEvent × Instant)
  | .serve now (.appendEvent e) => some (e, now)
  | _ => none

/-- An act adds to the end of the log and does nothing else to it. -/
theorem auditLog_act (s : Store) (a : Act) :
    (s.act a).auditLog = s.auditLog ++ a.added?.toList := by
  cases a with
  | serve now r =>
      by_cases hr : r.changes? = some .log
      · cases r with
        | appendEvent e => rfl
        | _ => cases hr
      · have hnone : Act.added? (.serve now r) = none := by
          cases r with
          | appendEvent e => exact absurd rfl hr
          | _ => rfl
        rw [act, answer_auditLog hr, hnone, Option.toList_none, List.append_nil]
  | _ => exact (List.append_nil _).symm

/-- **The log of a store has what was added, in order.** -/
theorem auditLog_acts (s : Store) (as : List Act) :
    (acts as s).auditLog = s.auditLog ++ as.filterMap Act.added? := by
  induction as generalizing s with
  | nil => exact (List.append_nil _).symm
  | cons a as ih =>
      rw [acts_cons, ih, auditLog_act, List.append_assoc]
      cases ha : a.added? with
      | none => rw [List.filterMap_cons_none ha, Option.toList_none, List.nil_append]
      | some x => rw [List.filterMap_cons_some ha, Option.toList_some, List.singleton_append]

end Store

/-! ### What entries show -/

def AuditEvent.Passes (e : AuditEvent) (action : Option String) (actorId : Option UserId) : Prop :=
  (∀ a ∈ action, e.action.identifier = a) ∧ ∀ u ∈ actorId, e.actorId = some u

namespace AuditEntry

/-- An entry passes two filters, each of which may be absent. -/
def Passes (x : AuditEntry) (action : Option String) (actorId : Option UserId) : Prop :=
  (∀ a ∈ action, x.action = a) ∧ ∀ u ∈ actorId, x.actorId = some u

instance (x : AuditEntry) (action : Option String) (actorId : Option UserId) :
    Decidable (x.Passes action actorId) :=
  inferInstanceAs (Decidable (_ ∧ _))

/-- An entry shows the event at a place of a log, where the first place is place 0.  It shows the
number of the event, and the milliseconds that it took, as far as it can show them. -/
structure Shows (log : List (AuditEvent × Instant)) (i : Nat) (x : AuditEntry) : Prop where
  event : ∃ e addedAt, log[i]? = some (e, addedAt) ∧ x.action = e.action.identifier ∧
    x.actorId = e.actorId ∧ x.payload = e.payload ∧ x.error = e.error ∧
    x.durationMs = (min e.durationMs Store.maxShown : Nat) ∧ x.createdAt = addedAt
  number : x.eventId = (min (i + 1) Store.maxShown : Nat)

/-- Entries show the events of a log that pass two filters, one after the other and the newest
first. -/
def NewestFirst (log : List (AuditEvent × Instant)) (action : Option String)
    (actorId : Option UserId) (xs : List AuditEntry) : Prop :=
  ∃ places : List Nat, places.Pairwise (· > ·) ∧
    (∀ i, i ∈ places ↔ ∃ e addedAt, log[i]? = some (e, addedAt) ∧ e.Passes action actorId) ∧
    List.Forall₂ (Shows log) places xs

variable {log : List (AuditEvent × Instant)} {action : Option String} {actorId : Option UserId}

theorem shows_entry {e : AuditEvent} {addedAt : Instant} {i : Nat}
    (h : log[i]? = some (e, addedAt)) : Shows log i (Store.entry (i + 1) e addedAt) :=
  ⟨⟨e, addedAt, h, rfl, rfl, rfl, rfl, rfl, rfl⟩, rfl⟩

/-- In a log that is not too long, an entry shows the number of its event as it is. -/
theorem Shows.eventId_eq {i : Nat} {x : AuditEntry} (h : Shows log i x)
    (hlog : log.length ≤ Store.maxShown) : x.eventId = i + 1 := by
  obtain ⟨e, addedAt, hi, -⟩ := h.event
  have hlt : i < log.length := (List.getElem?_eq_some_iff.1 hi).1
  rw [h.number]
  omega

theorem NewestFirst.pairwise {xs : List AuditEntry} (h : NewestFirst log action actorId xs)
    (hlog : log.length ≤ Store.maxShown) : xs.Pairwise fun x y => y.eventId < x.eventId := by
  obtain ⟨places, hplaces, -, hshows⟩ := h
  have hids : xs.map eventId = places.map fun i : Nat => (i : Int) + 1 := by
    clear hplaces
    induction hshows with
    | nil => rfl
    | cons hshow _ ih => rw [List.map_cons, List.map_cons, hshow.eventId_eq hlog, ih]
  have hfall : (xs.map eventId).Pairwise fun m n => n < m := by
    rw [hids, List.pairwise_map]
    exact hplaces.imp fun hlt => by omega
  exact List.pairwise_map.1 hfall

end AuditEntry

/-! ### Reading -/

/-- For an administrator, reading the audit log is one request. -/
theorem AuditReading.run_list {actor : Principal} (hactor : actor.active && actor.isAdmin)
    (q : AuditQuery) : (list actor q).run =
      .ask (.store (.listRecentEntries { q with limit := Paging.clamp q.limit })) .done :=
  (Service.run_requireAdmin_bind actor _).trans (if_pos hactor)

namespace World

variable {w w' : World} {action : Option String} {actorId : Option UserId}

/-- The entries of the audit log that match a query, newest first. -/
def entries (w : World) (action : Option String) (actorId : Option UserId) : List AuditEntry :=
  (((w.store.auditLog.zipIdx 1).reverse).filter fun x =>
    Store.selectsEvent ⟨1, 0, action, actorId⟩ x.1.1).map fun x => Store.entry x.2 x.1.1 x.1.2

/-- **A page of the audit log is a window on all that matches**, and reading it changes nothing. -/
theorem run_readAudit (hw : w.script = .empty) {actor : Principal}
    (hactor : actor.active && actor.isAdmin) (q : AuditQuery) :
    w.run (AuditReading.list actor q) =
      (.ok (Paging.slice q.offset (Paging.clamp q.limit) (w.entries q.action q.actorId)), w) := by
  have hcall :=
    call_ask_quiet hw (.listRecentEntries { q with limit := Paging.clamp q.limit }) .done
  rw [run, AuditReading.run_list hactor, entries, ← Paging.map_slice]
  exact hcall

theorem selectsEvent_iff {limit offset : Nat} {e : AuditEvent} :
    Store.selectsEvent ⟨limit, offset, action, actorId⟩ e = true ↔ e.Passes action actorId := by
  rw [Store.selectsEvent, Bool.and_eq_true]
  cases action <;> cases actorId <;> simp [AuditEvent.Passes]

/-- **A query finds the events that pass its filters, newest first.** -/
theorem newestFirst_entries (w : World) (action : Option String) (actorId : Option UserId) :
    AuditEntry.NewestFirst w.store.auditLog action actorId (w.entries action actorId) := by
  -- the events that are left, each with its number in the whole log
  let numbered := (w.store.auditLog.zipIdx 1).reverse.filter fun x =>
    Store.selectsEvent ⟨1, 0, action, actorId⟩ x.1.1
  have hmem : ∀ x, x ∈ numbered ↔ (1 ≤ x.2 ∧ w.store.auditLog[x.2 - 1]? = some x.1) ∧
      x.1.1.Passes action actorId := fun x => by
    rw [List.mem_filter, List.mem_reverse, List.mem_zipIdx_iff_le_and_getElem?_sub,
      selectsEvent_iff]
  have hrise : (w.store.auditLog.zipIdx 1).Pairwise fun x y => x.2 < y.2 := by
    rw [← List.pairwise_map (f := Prod.snd), List.zipIdx_map_snd]
    exact List.pairwise_lt_range' 1
  have hfall : numbered.Pairwise fun x y => y.2 < x.2 :=
    (List.pairwise_reverse.2 hrise).filter _
  refine ⟨numbered.map fun x => x.2 - 1, ?_, fun i => ?_, ?_⟩
  · refine List.pairwise_map.2 (hfall.imp_of_mem fun {x y} hx hy hlt => ?_)
    have hx1 := ((hmem x).1 hx).1.1
    have hy1 := ((hmem y).1 hy).1.1
    omega
  · rw [List.mem_map]
    constructor
    · rintro ⟨x, hx, rfl⟩
      obtain ⟨⟨-, hi⟩, hpasses⟩ := (hmem x).1 hx
      exact ⟨x.1.1, x.1.2, hi, hpasses⟩
    · rintro ⟨e, addedAt, hi, hpasses⟩
      exact ⟨((e, addedAt), i + 1), (hmem _).2 ⟨⟨Nat.le_add_left 1 i, hi⟩, hpasses⟩, rfl⟩
  · change List.Forall₂ _ (numbered.map _) (numbered.map _)
    rw [List.forall₂_map_left_iff, List.forall₂_map_right_iff, List.forall₂_same]
    intro x hx
    obtain ⟨⟨hpos, hi⟩, -⟩ := (hmem x).1 hx
    have hshows := AuditEntry.shows_entry hi
    rwa [Nat.sub_add_cancel hpos] at hshows

/-- A filter leaves entries out and changes none. -/
theorem entries_eq_filter (w : World) (action : Option String) (actorId : Option UserId) :
    w.entries action actorId =
      (w.entries none none).filter fun x => x.Passes action actorId := by
  have hall : ((w.store.auditLog.zipIdx 1).reverse).filter (fun x =>
      Store.selectsEvent ⟨1, 0, none, none⟩ x.1.1) = (w.store.auditLog.zipIdx 1).reverse :=
    List.filter_eq_self.2 fun _ _ => rfl
  rw [entries, entries, hall, List.filter_map]
  congr 2
  funext x
  rw [Bool.eq_iff_iff, selectsEvent_iff, Function.comp_apply, decide_eq_true_iff]
  rfl

/-- **As the log grows, entries come in front of those that were there.** -/
theorem entries_append {added : List (AuditEvent × Instant)}
    (h : w'.store.auditLog = w.store.auditLog ++ added) (action : Option String)
    (actorId : Option UserId) :
    ∃ newer, w'.entries action actorId = newer ++ w.entries action actorId := by
  rw [entries, h, List.zipIdx_append, List.reverse_append, List.filter_append, List.map_append]
  exact ⟨_, rfl⟩

/-- **Reading the audit log shows the events faithfully, newest first.**  After any run, let all
the entries be those that show the events that were added and pass the filters, newest first, each
with its content as it was added and its number in the whole log.  Then an administrator is
shown a window on them, of 1 to 200 entries; and who asks for one page after the other, until a page
is empty, has read all of them once.  Among the entries that are read without filters, these are the
ones that pass; their numbers fall; and they are shown behind newer ones after anything that happens
later. -/
theorem audit_log_is_read_faithfully {as : List Store.Act} (hstore : w.store = Store.acts as .empty)
    (hw : w.script = .empty) {actor : Principal} (hactor : actor.active && actor.isAdmin) :
    ∃ all : Option String → Option UserId → List AuditEntry, ∀ action actorId,
      AuditEntry.NewestFirst (as.filterMap Store.Act.added?) action actorId (all action actorId) ∧
      (∀ limit offset, w.run (AuditReading.list actor ⟨limit, offset, action, actorId⟩) =
        (.ok (Paging.slice offset (max 1 (min limit 200)) (all action actorId)), w)) ∧
      (∀ limit, ∃ pages,
        Paging.ReadOut (fun offset => Paging.slice offset (max 1 (min limit 200))
          (all action actorId)) (max 1 (min limit 200)) 0 pages ∧
        Paging.Partition (max 1 (min limit 200)) (all action actorId) pages) ∧
      all action actorId = (all none none).filter (fun x => x.Passes action actorId) ∧
      ((as.filterMap Store.Act.added?).length ≤ Store.maxShown →
        (∀ i x, AuditEntry.Shows (as.filterMap Store.Act.added?) i x → x.eventId = i + 1) ∧
        (all action actorId).Pairwise fun x y => y.eventId < x.eventId) ∧
      ∀ (later : List Store.Act) (w' : World), w'.store = Store.acts later w.store →
        w'.script = .empty → ∃ newer, ∀ limit offset,
          w'.run (AuditReading.list actor ⟨limit, offset, action, actorId⟩) =
            (.ok (Paging.slice offset (max 1 (min limit 200)) (newer ++ all action actorId)),
              w') := by
  have hlog : w.store.auditLog = as.filterMap Store.Act.added? := by
    rw [hstore, Store.auditLog_acts]
    rfl
  refine ⟨w.entries, fun action actorId => ?_⟩
  have hnewest := w.newestFirst_entries action actorId
  rw [hlog] at hnewest
  refine ⟨hnewest, fun limit offset => run_readAudit hw hactor _, fun limit => ?_,
    w.entries_eq_filter action actorId, fun hshort => ?_, ?_⟩
  · exact Paging.exists_readOut_slice (Paging.one_le_clamp limit) (w.entries action actorId) 0
  · exact ⟨fun i x hx => hx.eventId_eq hshort, hnewest.pairwise hshort⟩
  · intro later w' hstore' hw'
    have hgrown : w'.store.auditLog = w.store.auditLog ++ later.filterMap Store.Act.added? := by
      rw [hstore', Store.auditLog_acts]
    obtain ⟨newer, hnewer⟩ := entries_append hgrown action actorId
    refine ⟨newer, fun limit offset => ?_⟩
    rw [← hnewer]
    exact run_readAudit hw' hactor _

/-- Four events, and a request that adds none. -/
def fourEvents : List Store.Act :=
  let created : AuditEvent := ⟨.accessKeyCreated, some ⟨1⟩, Store.maxShown + 2, .null, none⟩
  [.putPrincipal .root, .serve .year1970 (.appendEvent created),
    .serve .year1970 (.appendEvent ⟨.accessKeyRejected, none, 0, .null, some "unknown"⟩),
    .serve .year1970 .listKeys,
    .serve .year1970 (.appendEvent { created with error := some "taken" }),
    .serve .year1970 (.appendEvent { created with actorId := some ⟨2⟩ })]

def eventful : World := ⟨.acts fourEvents .empty, .empty, .year1970, .year1970, 0, id⟩

/-- Of the three events of one action two have one actor.  On the second page of one entry the older
of them is shown under its own number, and its time is cut off. -/
theorem audit_log_is_read_faithfully_eventful :
    eventful.store = .acts fourEvents .empty ∧ eventful.script = .empty ∧
    (Principal.root.active && Principal.root.isAdmin) = true ∧
    (fourEvents.filterMap Store.Act.added?).length ≤ Store.maxShown ∧
    ∃ all, AuditEntry.NewestFirst (fourEvents.filterMap Store.Act.added?)
        (some "security.access_key.created") (some ⟨1⟩) all ∧
      all.Pairwise (fun x y => y.eventId < x.eventId) ∧
      (Paging.slice 0 200 all).map AuditEntry.eventId = [3, 1] ∧
      (Paging.slice 1 1 all).map (fun x => (x.eventId, x.durationMs)) =
        [(1, 9223372036854775807)] := by
  have hroot : (Principal.root.active && Principal.root.isAdmin) = true := by decide
  have hshort : (fourEvents.filterMap Store.Act.added?).length ≤ Store.maxShown := by decide
  have hstore : eventful.store = .acts fourEvents .empty := rfl
  obtain ⟨all, hall⟩ := audit_log_is_read_faithfully hstore rfl hroot
  obtain ⟨hnewest, hpage, -, -, hnumbers, -⟩ :=
    hall (some "security.access_key.created") (some ⟨1⟩)
  refine ⟨hstore, rfl, hroot, hshort, _, hnewest, (hnumbers hshort).2, ?_, ?_⟩
  · have hfirst := congrArg (fun x => x.1.map (List.map AuditEntry.eventId)) (hpage 200 0)
    exact (Except.ok.inj hfirst).symm.trans rfl
  · have hsecond := congrArg
      (fun x => x.1.map (List.map fun x => (x.eventId, x.durationMs))) (hpage 0 1)
    exact (Except.ok.inj hsecond).symm.trans rfl

end World

end TableAccess
