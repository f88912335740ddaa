import IdentityBillpay.Async.Hoare
import IdentityBillpay.Async.Serial
import IdentityBillpay.Outbox.AuditOutboxRelayJob

/-!
# LifeCycle — what ticks that do not overlap make of a row

Rows arrive at any time; a tick works on the rows that were pending when it read them. The counters
and statuses of the table are then what the calls to the Audit service say.

* `LifeCycle` — the columns of a row against the calls for it;
* `Inv`, `Relays` — what holds between two rows of the batch, and what the batch leaves behind;
* `ensures_relayRow`, `ensures_relayAll`, `answer_relays` — one row, the loop, one tick;
* `rows_follow_life_cycle` — every run.
-/

namespace IdentityBillpay
namespace Outbox

open Async Async.Program
open AuditOutboxRelayJob (relayRow relayAll)

/-! ## A row and the calls for it -/

/-- What was written when the row arrived. -/
def AuditOutbox.written (row : AuditOutbox) : NewOutbox := ⟨row.id, row.eventType, row.payload⟩

/-- The call for a row, and whether it was answered. -/
def AuditOutbox.relay (row : AuditOutbox) (delivered : Bool) : Relay :=
  ⟨row.id, row.eventType, row.payload, delivered⟩

/-- The row as it is saved after the call. -/
def AuditOutbox.after (row : AuditOutbox) (delivered : Bool) : AuditOutbox :=
  if delivered then { row with status := .SENT } else failedAttempt row

theorem after_written (row : AuditOutbox) (delivered : Bool) :
    (row.after delivered).written = row.written := by
  cases delivered with
  | true => rfl
  | false => rfl

theorem after_id (row : AuditOutbox) (delivered : Bool) : (row.after delivered).id = row.id :=
  congrArg NewOutbox.id (after_written row delivered)

def tries (s : Store) (id : String) : Nat :=
  s.relays.countP fun r => r.rowId == id

def deliveries (s : Store) (id : String) : Nat :=
  s.relays.countP fun r => r.rowId == id && r.delivered

def failures (s : Store) (id : String) : Nat :=
  s.relays.countP fun r => r.rowId == id && !r.delivered

structure LifeCycle (s : Store) (row : AuditOutbox) : Prop where
  attempts : row.attempts = failures s row.id
  bounded : row.attempts ≤ MAX_RELAY_ATTEMPTS
  sent : row.status = .SENT ↔ deliveries s row.id = 1
  failed : row.status = .FAILED ↔ failures s row.id = MAX_RELAY_ATTEMPTS
  once : deliveries s row.id ≤ 1
  carried : ∀ r ∈ s.relays, r.rowId = row.id → r.eventType = row.eventType ∧ r.payload = row.payload

section LifeCycle

variable {s s' : Store} {row row' : AuditOutbox} {delivered : Bool}

/-- A row for which nothing has been called begins its life. -/
theorem lifeCycle_new {new : NewOutbox} (hnone : ∀ r ∈ s.relays, r.rowId ≠ new.id) :
    LifeCycle s new.row := by
  have hzero : ∀ p : Relay → Bool, s.relays.countP (fun r => r.rowId == new.id && p r) = 0 := by
    intro p
    refine List.countP_eq_zero.2 fun r hr => ?_
    simp [hnone r hr]
  have hfailures : failures s new.id = 0 := hzero fun r => !r.delivered
  have hdeliveries : deliveries s new.id = 0 := hzero fun r => r.delivered
  refine ⟨hfailures.symm, Nat.zero_le _, ?_, ?_, ?_, fun r hr hid => absurd hid (hnone r hr)⟩
  · simp [hdeliveries, NewOutbox.row]
  · simp [hfailures, NewOutbox.row, MAX_RELAY_ATTEMPTS]
  · exact Nat.le_trans (Nat.le_of_eq hdeliveries) (Nat.zero_le 1)

/-- Calls for other rows do not matter. -/
theorem LifeCycle.other (h : LifeCycle s row')
    (hrelays : s'.relays = s.relays ++ [row.relay delivered]) (hne : row.id ≠ row'.id) :
    LifeCycle s' row' := by
  have hfailures : failures s' row'.id = failures s row'.id := by
    simp [failures, hrelays, AuditOutbox.relay, hne]
  have hdeliveries : deliveries s' row'.id = deliveries s row'.id := by
    simp [deliveries, hrelays, AuditOutbox.relay, hne]
  refine ⟨hfailures ▸ h.attempts, h.bounded, hdeliveries ▸ h.sent, hfailures ▸ h.failed,
    hdeliveries ▸ h.once, ?_⟩
  intro r hr hid
  rw [hrelays] at hr
  rcases List.mem_append.1 hr with hr | hr
  · exact h.carried r hr hid
  · rw [List.mem_singleton.1 hr] at hid
    exact absurd hid hne

/-- Arrivals do not matter. -/
theorem LifeCycle.same (h : LifeCycle s row) (hrelays : s'.relays = s.relays) :
    LifeCycle s' row := by
  have hfailures : failures s' row.id = failures s row.id := by simp [failures, hrelays]
  have hdeliveries : deliveries s' row.id = deliveries s row.id := by simp [deliveries, hrelays]
  exact ⟨hfailures ▸ h.attempts, h.bounded, hdeliveries ▸ h.sent, hfailures ▸ h.failed,
    hdeliveries ▸ h.once, hrelays ▸ h.carried⟩

/-- One call for a pending row, and the row as it is saved after it. -/
theorem LifeCycle.after (h : LifeCycle s row) (hpending : row.status = .PENDING)
    (hrelays : s'.relays = s.relays ++ [row.relay delivered]) :
    LifeCycle s' (row.after delivered) := by
  have hunsent : deliveries s row.id = 0 := by
    have hne : deliveries s row.id ≠ 1 := fun hone => by simp [h.sent.2 hone] at hpending
    have honce := h.once
    omega
  have hless : failures s row.id < MAX_RELAY_ATTEMPTS := by
    have hne : failures s row.id ≠ MAX_RELAY_ATTEMPTS := fun hmax => by
      simp [h.failed.2 hmax] at hpending
    have hbounded := h.attempts ▸ h.bounded
    omega
  have hcarried : ∀ r ∈ s'.relays, r.rowId = row.id →
      r.eventType = row.eventType ∧ r.payload = row.payload := by
    intro r hr hid
    rw [hrelays] at hr
    rcases List.mem_append.1 hr with hr | hr
    · exact h.carried r hr hid
    · rw [List.mem_singleton.1 hr]
      exact ⟨rfl, rfl⟩
  cases delivered with
  | true =>
      have hfailures : failures s' row.id = failures s row.id := by
        simp [failures, hrelays, AuditOutbox.relay]
      have hdeliveries : deliveries s' row.id = 1 := by
        simpa [deliveries, hrelays, AuditOutbox.relay] using hunsent
      refine ⟨?_, h.bounded, ?_, ?_, Nat.le_of_eq hdeliveries, hcarried⟩
      · exact h.attempts.trans hfailures.symm
      · exact iff_of_true rfl hdeliveries
      · refine iff_of_false (by simp [AuditOutbox.after]) (Nat.ne_of_lt ?_)
        exact hfailures ▸ hless
  | false =>
      have hfailures : failures s' row.id = failures s row.id + 1 := by
        simp [failures, hrelays, AuditOutbox.relay]
      have hdeliveries : deliveries s' row.id = 0 := by
        simpa [deliveries, hrelays, AuditOutbox.relay] using hunsent
      have hattempts : row.attempts + 1 = failures s' row.id := by rw [hfailures, h.attempts]
      refine ⟨hattempts, ?_, ?_, ?_, ?_, hcarried⟩
      · rw [← h.attempts] at hless
        exact hless
      · refine iff_of_false ?_ (by simp [AuditOutbox.after, failedAttempt, hdeliveries])
        by_cases hlast : row.attempts + 1 ≥ MAX_RELAY_ATTEMPTS
        · simp [AuditOutbox.after, failedAttempt, hlast]
        · simp [AuditOutbox.after, failedAttempt, hlast]
      · -- The fifth failure is the one that sets the status.
        by_cases hlast : row.attempts + 1 ≥ MAX_RELAY_ATTEMPTS
        · refine iff_of_true (by simp [AuditOutbox.after, failedAttempt, hlast]) ?_
          rw [← h.attempts] at hless
          exact hattempts.symm.trans (Nat.le_antisymm hless hlast)
        · refine iff_of_false (by simp [AuditOutbox.after, failedAttempt, hlast]) fun hmax => ?_
          exact hlast (Nat.le_of_eq (hmax.symm.trans hattempts.symm))
      · exact Nat.le_trans (Nat.le_of_eq hdeliveries) (Nat.zero_le 1)

end LifeCycle

/-! ## Between two rows -/

variable {Known : NewOutbox → Prop}

/-- The repository answers, and only known rows arrive. -/
def limits (Known : NewOutbox → Prop) (ch : Choice) : Prop :=
  ch.queryFails = false ∧ ∀ new ∈ ch.arrivals, Known new

/-- Rows have arrived, and nothing else has happened to the table. -/
structure Arrives (Known : NewOutbox → Prop) (t t' : Sql.Table AuditOutbox.id AuditOutbox.id) :
    Prop where
  kept : ∀ row ∈ t, row ∈ t'
  new : ∀ row ∈ t', row ∈ t ∨ ∃ new, Known new ∧ row = new.row ∧ ∀ r ∈ t, r.id ≠ new.id

structure Inv (Known : NewOutbox → Prop) (s : Store) : Prop where
  rows : ∀ row ∈ s.rows, LifeCycle s row ∧ Known row.written
  /-- Calls are made for stored rows. -/
  relays : ∀ r ∈ s.relays, ∃ row ∈ s.rows, row.id = r.rowId

/-- From `s` to `s'` the rows of a batch have been relayed, each once and in order. -/
structure Relays (Known : NewOutbox → Prop) (batch : List AuditOutbox) (s s' : Store) : Prop where
  inv : Inv Known s'
  added : ∃ added, s'.relays = s.relays ++ added ∧
    added.map Relay.rowId = batch.map AuditOutbox.id
  others : ∀ row ∈ s.rows, row.id ∉ batch.map AuditOutbox.id → row ∈ s'.rows
  written : ∀ row ∈ s.rows, ∃ row' ∈ s'.rows, row'.written = row.written

section Steps

variable {s s' s'' : Store} {row : AuditOutbox} {batch : List AuditOutbox}
  {t t' t'' : Sql.Table AuditOutbox.id AuditOutbox.id}

theorem arrives_arrive {arrivals : List NewOutbox} (h : ∀ new ∈ arrivals, Known new) :
    Arrives Known s.rows (arrive s arrivals).rows := by
  refine ⟨fun row hrow => arrive_kept hrow, fun row hrow => ?_⟩
  rcases mem_arrive hrow with hold | ⟨new, hnew, hrow, hfree⟩
  · exact .inl hold
  · exact .inr ⟨new, h new hnew, hrow, hfree⟩

theorem Arrives.trans (h : Arrives Known t t') (h' : Arrives Known t' t'') : Arrives Known t t'' := by
  refine ⟨fun row hrow => h'.kept row (h.kept row hrow), fun row hrow => ?_⟩
  rcases h'.new row hrow with hold | ⟨new, hnew, hrow, hfree⟩
  · exact h.new row hold
  · exact .inr ⟨new, hnew, hrow, fun r hr => hfree r (h.kept r hr)⟩

theorem Inv.arrives (hI : Inv Known s) (hrows : Arrives Known s.rows s'.rows)
    (hrelays : s'.relays = s.relays) : Inv Known s' := by
  refine ⟨fun row hrow => ?_, fun r hr => ?_⟩
  · rcases hrows.new row hrow with hold | ⟨new, hnew, rfl, hfree⟩
    · exact ⟨(hI.rows row hold).1.same hrelays, (hI.rows row hold).2⟩
    · refine ⟨lifeCycle_new fun r hr hid => ?_, hnew⟩
      rcases hI.relays r (hrelays ▸ hr) with ⟨row, hrow, hrowId⟩
      exact hfree row hrow (hrowId.trans hid)
  · rcases hI.relays r (hrelays ▸ hr) with ⟨row, hrow, hrowId⟩
    exact ⟨row, hrows.kept row hrow, hrowId⟩

theorem Relays.nil (hI : Inv Known s) : Relays Known [] s s :=
  ⟨hI, ⟨[], by simp⟩, fun _ hrow _ => hrow, fun row hrow => ⟨row, hrow, rfl⟩⟩

theorem Relays.cons (h : Relays Known [row] s s') (h' : Relays Known batch s' s'') :
    Relays Known (row :: batch) s s'' := by
  rcases h.added with ⟨first, hfirst, hfirstIds⟩
  rcases h'.added with ⟨rest, hrest, hrestIds⟩
  refine ⟨h'.inv, ⟨first ++ rest, ?_, ?_⟩, ?_, ?_⟩
  · rw [hrest, hfirst, List.append_assoc]
  · rw [List.map_append, hfirstIds, hrestIds, List.map_singleton, List.singleton_append,
      List.map_cons]
  · intro r hr hid
    rw [List.map_cons, List.mem_cons, not_or] at hid
    exact h'.others r (h.others r hr (by simpa using hid.1)) hid.2
  · intro r hr
    rcases h.written r hr with ⟨r', hr', hsame⟩
    rcases h'.written r' hr' with ⟨r'', hr'', hsame'⟩
    exact ⟨r'', hr'', hsame'.trans hsame⟩

/-- One row has been called for and saved, while others may have arrived. -/
theorem relays_of_saved (hI : Inv Known s) (hrow : row ∈ s.rows) (hpending : row.status = .PENDING)
    {delivered : Bool} (hrelays : s'.relays = s.relays ++ [row.relay delivered])
    (ht : Arrives Known s.rows t)
    (hrows : ∀ x, x ∈ s'.rows ↔ x = row.after delivered ∨ (x ∈ t ∧ x.id ≠ row.id)) :
    Relays Known [row] s s' := by
  -- A row keeps what it was written with; only its status, attempts and times change.
  have hkept : ∀ r ∈ s.rows, ∃ r' ∈ s'.rows, r'.written = r.written := by
    intro r hr
    by_cases hid : r.id = row.id
    · refine ⟨row.after delivered, (hrows _).2 (.inl rfl), ?_⟩
      rw [after_written, s.rows.eq_of_id hr hrow hid]
    · exact ⟨r, (hrows _).2 (.inr ⟨ht.kept r hr, hid⟩), rfl⟩
  have hI' : Inv Known s' := by
    refine ⟨fun x hx => ?_, fun r hr => ?_⟩
    · rcases (hrows x).1 hx with rfl | ⟨hx, hne⟩
      · rw [after_written]
        exact ⟨(hI.rows row hrow).1.after hpending hrelays, (hI.rows row hrow).2⟩
      · -- The other rows are old ones, or have arrived since and have no relay yet.
        rcases ht.new x hx with hold | ⟨new, hnew, rfl, hfree⟩
        · exact ⟨(hI.rows x hold).1.other hrelays (Ne.symm hne), (hI.rows x hold).2⟩
        · refine ⟨lifeCycle_new fun r hr hid => ?_, hnew⟩
          rw [hrelays] at hr
          rcases List.mem_append.1 hr with hr | hr
          · rcases hI.relays r hr with ⟨x, hx, hxid⟩
            exact hfree x hx (hxid.trans hid)
          · rw [List.mem_singleton.1 hr] at hid
            exact hne hid.symm
    · rw [hrelays] at hr
      have hstored : ∃ x ∈ s.rows, x.id = r.rowId := by
        rcases List.mem_append.1 hr with hr | hr
        · exact hI.relays r hr
        · exact ⟨row, hrow, by rw [List.mem_singleton.1 hr, AuditOutbox.relay]⟩
      rcases hstored with ⟨x, hx, hid⟩
      rcases hkept x hx with ⟨x', hx', hsame⟩
      exact ⟨x', hx', (congrArg NewOutbox.id hsame).trans hid⟩
  refine ⟨hI', ⟨[row.relay delivered], hrelays, rfl⟩, ?_, hkept⟩
  intro r hr hid
  exact (hrows r).2 (.inr ⟨ht.kept r hr, by simpa using hid⟩)

/-! ## The batch -/

theorem ensures_save {entity : AuditOutbox} (hrow : row ∈ s.rows) (hid : row.id = entity.id) :
    Ensures (backend.restrict (limits Known)) (fun _ => True)
      (fun s' r => r = .ok () ∧ s'.relays = s.relays ∧ ∃ t, Arrives Known s.rows t ∧
        ∀ x, x ∈ s'.rows ↔ x = entity ∨ (x ∈ t ∧ x.id ≠ entity.id)) s (call (.save entity)) := by
  refine fun ch => ⟨trivial, ensures_settled.2 ?_⟩
  rcases save_answers hrow hid ch.2.1 with ⟨s', hs'⟩
  rcases save_ok hs' with ⟨hrelays, hrows⟩
  rw [show (backend.restrict (limits Known)).perform (.save entity) ch s = (.ok (), s') from hs']
  exact ⟨rfl, hrelays, (arrive s ch.1.arrivals).rows, arrives_arrive ch.2.2, hrows⟩

/-- What the call of the loop leaves to the save: the row is relayed, or its attempt has failed. -/
def Tried (Known : NewOutbox → Prop) (s : Store) (row : AuditOutbox) (s' : Store) :
    Except HttpError Unit → Prop
  | .ok _ => Relays Known [row] s s'
  | .error _ => Arrives Known s.rows s'.rows ∧ s'.relays = s.relays ++ [row.relay false]

/-- The body of the loop relays its row, whether or not the Audit service answers. -/
theorem ensures_relayRow (hI : Inv Known s) (hrow : row ∈ s.rows)
    (hpending : row.status = .PENDING) :
    Ensures (backend.restrict (limits Known)) (fun _ => True)
      (fun s' r => r = .ok () ∧ Relays Known [row] s s') s (relayRow row) := by
  have hsaved : ∀ {s₁ : Store} {delivered : Bool}, Arrives Known s.rows s₁.rows →
      s₁.relays = s.relays ++ [row.relay delivered] →
      Ensures (backend.restrict (limits Known)) (fun _ => True)
        (fun s' r => r = .ok () ∧ Relays Known [row] s s') s₁
        (call (.save (row.after delivered))) := by
    intro s₁ delivered hrows hrelays
    refine (ensures_save (hrows.kept row hrow) (after_id row delivered).symm).mono ?_
    intro s' r h
    rcases h with ⟨hr, hsame, t, ht, hmem⟩
    rw [after_id] at hmem
    exact ⟨hr, relays_of_saved hI hrow hpending (hsame.trans hrelays) (hrows.trans ht) hmem⟩
  have hcalled : ∀ ch : (backend.restrict (limits Known)).Choice,
      Arrives Known s.rows (perform (.relay row.id row.eventType row.payload) ch.1 s).2.rows ∧
        (perform (.relay row.id row.eventType row.payload) ch.1 s).2.relays = s.relays ++
          [row.relay (perform (.relay row.id row.eventType row.payload) ch.1 s).1.isOk] := by
    intro ch
    rw [relay_state, relay_delivered]
    exact ⟨arrives_arrive ch.2.2, rfl⟩
  -- Only the call can throw into the handler: the save of `SENT` is carried out.
  refine Ensures.handle (Q := Tried Known s row) ?_ ?_ ?_
  · refine ensures_call_bind (fun _ => trivial) ?_ ?_
    · intro ch e he
      have hcall := hcalled ch
      rw [he] at hcall
      exact hcall
    · intro ch u hu
      have hcall := hcalled ch
      rw [hu] at hcall
      refine (hsaved hcall.1 hcall.2).mono ?_
      intro s' r h
      rcases h with ⟨rfl, hrelayed⟩
      exact hrelayed
  · exact fun s' u h => ⟨rfl, h⟩
  · exact fun s' e h => @hsaved s' false h.1 h.2

theorem ensures_relayAll (hI : Inv Known s)
    (hbatch : ∀ row ∈ batch, row ∈ s.rows ∧ row.status = .PENDING)
    (hids : (batch.map AuditOutbox.id).Nodup) :
    Ensures (backend.restrict (limits Known)) (fun _ => True)
      (fun s' r => r = .ok () ∧ Relays Known batch s s') s (relayAll batch) := by
  induction batch generalizing s with
  | nil => exact ⟨rfl, .nil hI⟩
  | cons row batch ih =>
      rw [List.map_cons, List.nodup_cons] at hids
      rcases hbatch row List.mem_cons_self with ⟨hrow, hpending⟩
      refine (ensures_relayRow hI hrow hpending).bind ?_ ?_
      · intro s' u h
        rcases h with ⟨-, hfirst⟩
        have hrest : ∀ r ∈ batch, r ∈ s'.rows ∧ r.status = .PENDING := by
          intro r hr
          rcases hbatch r (List.mem_cons_of_mem row hr) with ⟨hold, hstill⟩
          refine ⟨hfirst.others r hold ?_, hstill⟩
          intro hid
          rw [List.map_singleton, List.mem_singleton] at hid
          exact hids.1 (hid ▸ List.mem_map_of_mem hr)
        refine (ih hfirst.inv hrest hids.2).mono ?_
        exact fun s'' r hr => ⟨hr.1, hfirst.cons hr.2⟩
      · intro s' e h
        cases h.1

/-! ## One tick -/

/-- The rows a tick works on, if it reads in state `s`. -/
def pending (s : Store) : List AuditOutbox :=
  s.rows.find fun row => row.status == .PENDING

theorem answer_relays (hI : Inv Known s) {c : Call service}
    (hlimits : ∀ n, limits Known (c.choices n)) :
    (service.answer s c).result = .ok () ∧
      Relays Known (pending (arrive s (c.choices 0).arrivals)) (arrive s (c.choices 0).arrivals)
        (service.answer s c).state := by
  have hstart : Inv Known (arrive s (c.choices 0).arrivals) :=
    hI.arrives (arrives_arrive (hlimits 0).2) (arrive_relays s _)
  have hread : backend.perform .findPending (c.choices 0) s =
      (.ok (pending (arrive s (c.choices 0).arrivals)), arrive s (c.choices 0).arrivals) := by
    simp [backend, perform, Sql.commit, (hlimits 0).1, pending]
  have hbatch : ∀ row ∈ pending (arrive s (c.choices 0).arrivals),
      row ∈ (arrive s (c.choices 0).arrivals).rows ∧ row.status = .PENDING := by
    intro row hrow
    rcases Sql.Table.mem_find.1 hrow with ⟨hstored, hstatus⟩
    exact ⟨hstored, by simpa using hstatus⟩
  have hids : ((pending (arrive s (c.choices 0).arrivals)).map AuditOutbox.id).Nodup :=
    (arrive s (c.choices 0).arrivals).rows.ids.sublist (List.filter_sublist.map _)
  have hrest := (ensures_relayAll hstart hbatch hids).exec_within
    fun n => hlimits (n + 1)
  have hanswer : service.answer s c = AuditOutboxRelayJob.handle.exec backend c.choices s := rfl
  rw [hanswer, AuditOutboxRelayJob.handle_eq, call_bind, exec_await, hread]
  exact hrest

end Steps

/-! ## Runs -/

/-- What a tick does that reads in state `s`. -/
structure Tick (s s' : Store) : Prop where
  /-- The rows that are pending are tried once each, the others not at all. -/
  tried : ∃ added, s'.relays = s.relays ++ added ∧
    (∀ r ∈ added, ∃ row ∈ s.rows, row.id = r.rowId) ∧
    ∀ row ∈ s.rows, added.countP (fun r => r.rowId == row.id) =
      if row.status = .PENDING then 1 else 0
  settled : ∀ row ∈ s.rows, row.status ≠ .PENDING → row ∈ s'.rows

/-- Rows keep what was written; rows that are `SENT` or `FAILED` are left alone. -/
structure Later (s s' : Store) : Prop where
  written : ∀ row ∈ s.rows, ∃ row' ∈ s'.rows, row'.written = row.written
  settled : ∀ row ∈ s.rows, row.status ≠ .PENDING →
    row ∈ s'.rows ∧ tries s' row.id = tries s row.id

section Runs

variable {s s' s'' : Store}

theorem Relays.tick (h : Relays Known (pending s) s s') : Tick s s' := by
  have hmem : ∀ row ∈ s.rows, row.id ∈ (pending s).map AuditOutbox.id ↔ row.status = .PENDING := by
    intro row hrow
    constructor
    · intro hid
      rcases List.mem_map.1 hid with ⟨row', hrow', hsame⟩
      rcases Sql.Table.mem_find.1 hrow' with ⟨hstored, hstatus⟩
      rw [← s.rows.eq_of_id hstored hrow hsame]
      simpa using hstatus
    · intro hstatus
      exact List.mem_map_of_mem (Sql.Table.mem_find.2 ⟨hrow, by simpa using hstatus⟩)
  have hids : ((pending s).map AuditOutbox.id).Nodup :=
    s.rows.ids.sublist (List.filter_sublist.map _)
  rcases h.added with ⟨added, hrelays, hadded⟩
  refine ⟨⟨added, hrelays, ?_, ?_⟩, ?_⟩
  · intro r hr
    have hid : r.rowId ∈ (pending s).map AuditOutbox.id := hadded ▸ List.mem_map_of_mem hr
    rcases List.mem_map.1 hid with ⟨row, hrow, hsame⟩
    exact ⟨row, (Sql.Table.mem_find.1 hrow).1, hsame⟩
  · intro row hrow
    calc added.countP (fun r => r.rowId == row.id)
        = (added.map Relay.rowId).count row.id := by rw [List.count, List.countP_map]; rfl
      _ = ((pending s).map AuditOutbox.id).count row.id := by rw [hadded]
      _ = if row.status = .PENDING then 1 else 0 := by
          rw [hids.count]
          exact if_congr (hmem row hrow) rfl rfl
  · intro row hrow hstatus
    exact h.others row hrow fun hid => hstatus ((hmem row hrow).1 hid)

theorem Later.refl (s : Store) : Later s s :=
  ⟨fun row hrow => ⟨row, hrow, rfl⟩, fun _ hrow _ => ⟨hrow, rfl⟩⟩

theorem Later.trans (h : Later s s') (h' : Later s' s'') : Later s s'' := by
  refine ⟨fun row hrow => ?_, fun row hrow hstatus => ?_⟩
  · rcases h.written row hrow with ⟨row', hrow', hsame⟩
    rcases h'.written row' hrow' with ⟨row'', hrow'', hsame'⟩
    exact ⟨row'', hrow'', hsame'.trans hsame⟩
  · rcases h.settled row hrow hstatus with ⟨hrow', htries⟩
    rcases h'.settled row hrow' hstatus with ⟨hrow'', htries'⟩
    exact ⟨hrow'', htries'.trans htries⟩

theorem later_arrive (s : Store) (arrivals : List NewOutbox) : Later s (arrive s arrivals) :=
  ⟨fun row hrow => ⟨row, arrive_kept hrow, rfl⟩,
    fun _ hrow _ => ⟨arrive_kept hrow, by simp [tries]⟩⟩

theorem Relays.later (h : Relays Known (pending s) s s') : Later s s' := by
  refine ⟨h.written, fun row hrow hstatus => ⟨h.tick.settled row hrow hstatus, ?_⟩⟩
  rcases h.tick.tried with ⟨added, hrelays, -, hcount⟩
  simp [tries, hrelays, hcount row hrow, hstatus]

theorem inv_serve {calls : List (Call service)} (hI : Inv Known s)
    (hlimits : ∀ c ∈ calls, ∀ n, limits Known (c.choices n)) :
    Inv Known (service.serve s calls) ∧ Later s (service.serve s calls) := by
  induction calls generalizing s with
  | nil => exact ⟨hI, .refl s⟩
  | cons c calls ih =>
      have htick := (answer_relays hI (hlimits c List.mem_cons_self)).2
      rcases ih htick.inv fun c' hc' => hlimits c' (List.mem_cons_of_mem c hc') with ⟨hinv, hlater⟩
      exact ⟨hinv, ((later_arrive s _).trans htick.later).trans hlater⟩

theorem inv_initial (hnew : ∀ row ∈ s.rows, row.status = .PENDING ∧ row.attempts = 0)
    (hrelays : s.relays = []) (hknown : ∀ row ∈ s.rows, Known row.written) : Inv Known s := by
  refine ⟨fun row hrow => ⟨?_, hknown row hrow⟩, fun r hr => by simp [hrelays] at hr⟩
  have hrow' : row = row.written.row := by
    rcases hnew row hrow with ⟨hstatus, hattempts⟩
    rcases row with ⟨id, eventType, payload, status, attempts⟩
    cases hstatus
    cases hattempts
    rfl
  rw [hrow']
  exact lifeCycle_new (by simp [hrelays])

/-- Rows start their life pending and untried, and the repository does not fail. Between any two
ticks every row is where its calls have brought it, and carries what was written when it arrived;
each tick tries the rows that are pending once and leaves the others alone, for good. -/
theorem rows_follow_life_cycle {calls : List (Call service)}
    (hnew : ∀ row ∈ s.rows, row.status = .PENDING ∧ row.attempts = 0) (hrelays : s.relays = [])
    (hqueries : ∀ c ∈ calls, ∀ n, (c.choices n).queryFails = false) :
    (∀ more, ∀ row ∈ (arrive (service.serve s calls) more).rows,
      LifeCycle (arrive (service.serve s calls) more) row ∧
      ((∃ row₀ ∈ s.rows, row.written = row₀.written) ∨
        (∃ c ∈ calls, ∃ n, row.written ∈ (c.choices n).arrivals) ∨ row.written ∈ more)) ∧
    (∀ before c after, calls = before ++ c :: after →
      (service.answer (service.serve s before) c).result = .ok () ∧
      Tick (arrive (service.serve s before) (c.choices 0).arrivals)
        (service.serve s (before ++ [c]))) ∧
    ∀ before after, calls = before ++ after →
      Later (service.serve s before) (service.serve s calls) := by
  have hlimits : ∀ {Known : NewOutbox → Prop},
      (∀ c ∈ calls, ∀ n, ∀ new ∈ (c.choices n).arrivals, Known new) →
      ∀ c ∈ calls, ∀ n, limits Known (c.choices n) :=
    fun hknown c hc n => ⟨hqueries c hc n, hknown c hc n⟩
  refine ⟨fun more row hrow => ?_, ?_, ?_⟩
  · let Known : NewOutbox → Prop := fun new => (∃ row₀ ∈ s.rows, new = row₀.written) ∨
      (∃ c ∈ calls, ∃ n, new ∈ (c.choices n).arrivals) ∨ new ∈ more
    have hstart : Inv Known s := inv_initial hnew hrelays fun row hrow => .inl ⟨row, hrow, rfl⟩
    have hrun := (inv_serve hstart (hlimits fun c hc n new hmem => .inr (.inl ⟨c, hc, n, hmem⟩))).1
    have hmore : Arrives Known (service.serve s calls).rows
        (arrive (service.serve s calls) more).rows := arrives_arrive fun new hmem => .inr (.inr hmem)
    exact (hrun.arrives hmore (arrive_relays _ more)).rows row hrow
  · intro before c after hcalls
    have hstart : Inv (fun _ => True) s := inv_initial hnew hrelays fun _ _ => trivial
    have hall : ∀ c ∈ calls, ∀ n, limits (fun _ => True) (c.choices n) :=
      hlimits fun _ _ _ _ _ => trivial
    rw [hcalls] at hall
    have hbefore := (inv_serve hstart fun c' hc' => hall c' (List.mem_append_left _ hc')).1
    have htick := answer_relays hbefore (hall c (by simp))
    rw [Service.serve_concat]
    exact ⟨htick.1, htick.2.tick⟩
  · intro before after hcalls
    have hstart : Inv (fun _ => True) s := inv_initial hnew hrelays fun _ _ => trivial
    have hall : ∀ c ∈ calls, ∀ n, limits (fun _ => True) (c.choices n) :=
      hlimits fun _ _ _ _ _ => trivial
    rw [hcalls] at hall ⊢
    have hbefore := (inv_serve hstart fun c' hc' => hall c' (List.mem_append_left _ hc')).1
    rw [Service.serve_append]
    exact (inv_serve hbefore fun c' hc' => hall c' (List.mem_append_right _ hc')).2

end Runs

/-! A row whose first call fails, and one that arrives before the second tick. -/

def login : NewOutbox := ⟨"row-1", "LOGIN", "{}"⟩

def logout : NewOutbox := ⟨"row-2", "LOGOUT", "{}"⟩

def sample : Store := ⟨.ofRows AuditOutbox.id AuditOutbox.id [login.row], []⟩

/-- The Audit service is down. -/
def down : Choice := ⟨[], false, true, "ECONNREFUSED"⟩

def ticks : List (Call service) :=
  [⟨(), fun _ => down⟩, ⟨(), fun _ => { down with arrivals := [logout], relayFails := false }⟩]

def loginSent : AuditOutbox := { login.row with attempts := 1, status := .SENT }

theorem sample_follows_life_cycle :
    loginSent ∈ (service.serve sample ticks).rows ∧
      LifeCycle (service.serve sample ticks) loginSent := by
  have hsent : loginSent ∈ (service.serve sample ticks).rows := by decide +kernel
  have hqueries : ∀ c ∈ ticks, ∀ n, (c.choices n).queryFails = false := by
    intro c hc n
    simp only [ticks, List.mem_cons, List.not_mem_nil, or_false] at hc
    rcases hc with rfl | rfl
    · rfl
    · rfl
  have hrows := (rows_follow_life_cycle (s := sample) (by decide) rfl hqueries).1 [] loginSent
  generalize service.serve sample ticks = stored at hsent hrows ⊢
  have hnone : arrive stored [] = stored := rfl
  rw [hnone] at hrows
  exact ⟨hsent, (hrows hsent).1⟩

end Outbox
end IdentityBillpay
