import IdentityBillpay.Scheduling.BillScheduleService

/-!
# LifeCycle — what requests in any order make of a schedule

A change reads a schedule, checks the copy and writes the whole row back. Whatever overlaps, the two
columns of the status agree, all other columns keep the values the schedule was created with, and
only its owner's requests change it.

A stale copy can still bring a status back: `cancelled_stays` needs that no pause or resume saves a
schedule that has been cancelled since it was read.

* `BillSchedule.WellFormed`, `Origin`, `ScheduleInv` — the invariant;
* `schedules_well_formed` — every interleaving of requests by any actors;
* `cancelled_stays` — the law of cancellation; `cancelled_revived` — a run that breaks it.
-/

namespace IdentityBillpay
namespace Scheduling

open Async Async.Program Js
open Bbps (Actor requireActorSub truthy)

variable {parseDate : String → Option TimeValue}

/-! ## Rows -/

structure BillSchedule.WellFormed (row : BillSchedule) : Prop where
  active : row.active = true ↔ row.status = .ACTIVE
  frequency : row.frequency.isSome = true ↔ row.scheduleType = .RECURRING

/-- The columns that no change of the status touches. -/
def BillSchedule.fixed (row : BillSchedule) :=
  (row.id, row.billerCode, row.consumerNumber, row.scheduleType, row.frequency, row.nextRunAt,
    row.maximumAmount, row.keycloakUserId)

@[simp] theorem apply_fixed (change : Change) (row : BillSchedule) :
    (change.apply row).fixed = row.fixed := by
  cases change with
  | pause => rfl
  | resume => rfl
  | cancel => rfl

theorem id_eq_of_fixed {row row' : BillSchedule} (h : row.fixed = row'.fixed) : row.id = row'.id :=
  congrArg Prod.fst h

theorem keycloakUserId_eq_of_fixed {row row' : BillSchedule} (h : row.fixed = row'.fixed) :
    row.keycloakUserId = row'.keycloakUserId := by
  simp only [BillSchedule.fixed, Prod.mk.injEq] at h
  exact h.2.2.2.2.2.2.2

/-- A change sets both columns of the status alike. -/
theorem apply_wellFormed (change : Change) {row : BillSchedule} (h : row.WellFormed) :
    (change.apply row).WellFormed := by
  cases change with
  | pause => exact ⟨by simp [Change.apply], h.frequency⟩
  | resume => exact ⟨by simp [Change.apply], h.frequency⟩
  | cancel => exact ⟨by simp [Change.apply], h.frequency⟩

/-- What `create` saves is well-formed: its checks tie the frequency to the type. -/
theorem created_wellFormed {dto : CreateBillScheduleDto} {sub : String} {row : BillSchedule}
    (hcheck : assertFrequency dto = .ok ()) (hrow : (dto.newSchedule parseDate sub).Stores row) :
    row.WellFormed := by
  refine ⟨?_, ?_⟩
  · rw [hrow.active, hrow.status]
    simp [CreateBillScheduleDto.newSchedule]
  · rw [hrow.frequency, hrow.scheduleType]
    unfold assertFrequency at hcheck
    cases htype : dto.scheduleType with
    | RECURRING =>
        cases hfrequency : dto.frequency.toOption with
        | none => simp [htype, hfrequency] at hcheck
        | some frequency => simp [CreateBillScheduleDto.newSchedule, htype, hfrequency]
    | ONE_TIME =>
        cases hfrequency : dto.frequency.toOption with
        | none => simp [CreateBillScheduleDto.newSchedule, htype, hfrequency]
        | some frequency => simp [htype, hfrequency] at hcheck

/-- `IF(active = 1, 'ACTIVE', 'PAUSED')`. -/
def migratedStatus (active : Bool) : ScheduleStatus :=
  if active then .ACTIVE else .PAUSED

/-- The table as the migration `AddScheduleStatusAndExecution` leaves it, if types and frequencies
agreed before. -/
def Migrated (s : Store) : Prop :=
  ∀ row ∈ s.schedules, row.status = migratedStatus row.active ∧
    (row.frequency.isSome = true ↔ row.scheduleType = .RECURRING)

theorem Migrated.wellFormed {s : Store} (h : Migrated s) {row : BillSchedule}
    (hrow : row ∈ s.schedules) : row.WellFormed := by
  rcases h row hrow with ⟨hstatus, hfrequency⟩
  refine ⟨?_, hfrequency⟩
  rw [hstatus]
  cases row.active with
  | true => simp [migratedStatus]
  | false => simp [migratedStatus]

/-! ## The invariant -/

/-- The row has the columns of a row of the first table, or those that a `create` has inserted for
its body and its actor. -/
def Origin (s₀ : Store) (h : History (service parseDate)) (row : BillSchedule) : Prop :=
  (∃ row₀ ∈ s₀.schedules, row.fixed = row₀.fixed) ∨
    ∃ i dto actor sub created, h.requests[i]? = some (.create dto actor) ∧
      requireActorSub actor = .ok sub ∧
      (⟨.insertSchedule (dto.newSchedule parseDate sub), .ok created⟩ : Awaited sig ScheduleError) ∈
        h.own i ∧
      (dto.newSchedule parseDate sub).Stores created ∧ row.fixed = created.fixed

structure ScheduleInv (s₀ : Store) (h : History (service parseDate)) : Prop where
  rows : ∀ row ∈ h.state.schedules, row.WellFormed ∧ Origin s₀ h row
  /-- A copy that was read is a well-formed copy of a row that is still there. -/
  reads : ∀ i id copy,
    (⟨.findSchedule id, .ok (some copy)⟩ : Awaited sig ScheduleError) ∈ h.own i →
      copy.id = id ∧ copy.WellFormed ∧ ∃ row ∈ h.state.schedules, copy.fixed = row.fixed

section Steps

variable {s₀ : Store} {h h' : History (service parseDate)} {i : Nat} {r : Request} {op : Op}
  {ch : Choice}

theorem Origin.grows {row : BillSchedule} (ho : Origin s₀ h row) (hg : h.Grows h') :
    Origin s₀ h' row := by
  rcases ho with hfirst | ⟨i, dto, actor, sub, created, hr, hsub, hmem, hstores, hfixed⟩
  · exact .inl hfirst
  · exact .inr ⟨i, dto, actor, sub, created, hg.requests i _ hr, hsub, (hg.own i).subset hmem,
      hstores, hfixed⟩

theorem scheduleInv_start (hI : ScheduleInv s₀ h) (r : Request) : ScheduleInv s₀ (h.start r) :=
  ⟨fun row hrow => ⟨(hI.rows row hrow).1, (hI.rows row hrow).2.grows (History.grows_start h r)⟩,
    hI.reads⟩

/-- The step, from what the operation does to the table: every row of the new table is well-formed
with an origin, and every row of the old one is still there. -/
theorem scheduleInv_of_table (hI : ScheduleInv s₀ h)
    (hrows : ∀ row ∈ (perform op ch h.state).2.schedules, row ∈ h.state.schedules ∨
      (row.WellFormed ∧ Origin s₀ (h.perform i op ch) row))
    (hkept : ∀ row ∈ h.state.schedules, ∃ row' ∈ (perform op ch h.state).2.schedules,
      row.fixed = row'.fixed) : ScheduleInv s₀ (h.perform i op ch) := by
  refine ⟨?_, ?_⟩
  · intro row hrow
    rcases hrows row hrow with hold | hnew
    · exact ⟨(hI.rows row hold).1, (hI.rows row hold).2.grows (History.grows_perform h i op ch)⟩
    · exact hnew
  · intro j id copy hmem
    have hstill : ∀ row ∈ h.state.schedules, copy.fixed = row.fixed →
        ∃ row' ∈ (h.perform i op ch).state.schedules, copy.fixed = row'.fixed := by
      intro row hrow hfixed
      rcases hkept row hrow with ⟨row', hrow', hfixed'⟩
      exact ⟨row', hrow', hfixed.trans hfixed'⟩
    rcases History.mem_perform.1 (History.mem_own.1 hmem) with hold | ⟨_, rfl, hres⟩
    · rcases hI.reads j id copy (History.mem_own.2 hold) with ⟨hid, hwell, row, hrow, hfixed⟩
      exact ⟨hid, hwell, hstill row hrow hfixed⟩
    · rcases findSchedule_some hres.symm with ⟨hrow, hid⟩
      exact ⟨hid, (hI.rows copy hrow).1, hstill copy hrow rfl⟩

/-- An operation that leaves the table alone. -/
theorem scheduleInv_same (hI : ScheduleInv s₀ h)
    (hsame : (perform op ch h.state).2.schedules = h.state.schedules) :
    ScheduleInv s₀ (h.perform i op ch) := by
  refine scheduleInv_of_table hI ?_ ?_
  · intro row hrow
    rw [hsame] at hrow
    exact .inl hrow
  · intro row hrow
    rw [hsame]
    exact ⟨row, hrow, rfl⟩

theorem scheduleInv_perform (hI : ScheduleInv s₀ h) (hr : h.requests[i]? = some r)
    (hop : Awaits parseDate r (h.own i) op) : ScheduleInv s₀ (h.perform i op ch) := by
  cases hp : perform op ch h.state with
  | mk res s' =>
      cases res with
      | error e => exact scheduleInv_same hI (by rw [hp, (perform_error hp).2])
      | ok a =>
          cases hop with
          | read hread => exact scheduleInv_same hI (perform_schedules_eq hread ch h.state)
          | @insert dto actor sub hreq hsub hfrequency =>
              rcases insertSchedule_ok hp with ⟨_, hstores, _, hmem⟩
              refine scheduleInv_of_table hI ?_ ?_
              · intro row hrow
                rw [hp] at hrow
                rcases (hmem row).1 hrow with hold | rfl
                · exact .inl hold
                · refine .inr ⟨created_wellFormed hfrequency hstores, .inr ?_⟩
                  refine ⟨i, dto, actor, sub, row, hreq ▸ hr, hsub, ?_, hstores, rfl⟩
                  rw [History.perform_own_self, service_perform, hp]
                  exact List.mem_append_right _ (List.mem_singleton_self _)
              · intro row hrow
                rw [hp]
                exact ⟨row, (hmem row).2 (.inl hrow), rfl⟩
          | @save change id schedule hchange hown howner hcheck =>
              rcases saveSchedule_ok hp with ⟨_, hmem⟩
              have hread : (⟨.findSchedule id, .ok (some schedule)⟩ : Awaited sig ScheduleError) ∈
                  h.own i := hown ▸ List.mem_singleton_self _
              rcases hI.reads i id schedule hread with ⟨_, hwell, row₁, hrow₁, hfixed⟩
              have hfixed' : (change.apply schedule).fixed = row₁.fixed :=
                (apply_fixed change schedule).trans hfixed
              refine scheduleInv_of_table hI ?_ ?_
              · intro row hrow
                rw [hp] at hrow
                rcases (hmem row).1 hrow with rfl | ⟨hold, _⟩
                · refine .inr ⟨apply_wellFormed change hwell, ?_⟩
                  -- The saved copy has the columns of the row it replaces.
                  have horigin := (hI.rows row₁ hrow₁).2.grows
                    (History.grows_perform h i (.saveSchedule (change.apply schedule)) ch)
                  unfold Origin at horigin ⊢
                  rw [hfixed']
                  exact horigin
                · exact .inl hold
              · intro row hrow
                rw [hp]
                by_cases hid : row.id = (change.apply schedule).id
                · have hrow : row = row₁ := Sql.Table.eq_of_id hrow hrow₁
                    (hid.trans (id_eq_of_fixed hfixed'))
                  exact ⟨_, (hmem _).2 (.inl rfl), by rw [hrow, hfixed']⟩
                · exact ⟨row, (hmem row).2 (.inr ⟨hrow, hid⟩), rfl⟩

end Steps

theorem scheduleInv_run {s₀ : Store} (hmigrated : Migrated s₀)
    (as : List (Action (service parseDate))) :
    ScheduleInv s₀ ((Config.initial (service parseDate) s₀).run as).toHistory := by
  refine Config.run_induction (C := fun _ _ => True) (I := ScheduleInv s₀)
    (follows_program parseDate) (fun _ r _ hI => scheduleInv_start hI r)
    (fun _ _ _ _ _ _ hI hr hop _ => scheduleInv_perform hI hr hop) ?_ as
    (Config.meets_trivial _ as)
  refine ⟨fun row hrow => ⟨hmigrated.wellFormed hrow, .inl ⟨row, hrow, rfl⟩⟩, ?_⟩
  intro i id copy hmem
  exact absurd hmem List.not_mem_nil

/-! ## Who changes a status -/

/-- The action is one of a request of the row's owner to change the row. -/
def OwnerAsked (c : Config (service parseDate)) (row : BillSchedule) (a : Action (service parseDate)) :
    Prop :=
  ∃ i ch r change sub, a = .resume i ch ∧ c.requests[i]? = some r ∧
    r.change? = some (change, row.id) ∧ requireActorSub r.actor = .ok sub ∧
    row.keycloakUserId = some sub

theorem owner_of_assert {schedule : BillSchedule} {actor : Actor}
    (h : assertScheduleOwnedByActor schedule actor = .ok ()) :
    ∃ sub, requireActorSub actor = .ok sub ∧ schedule.keycloakUserId = some sub := by
  unfold assertScheduleOwnedByActor at h
  split at h
  · cases h
  · rename_i sub hsub
    split at h
    · cases h
    · rename_i hsame
      simp only [Bool.or_eq_true, bne_iff_ne, ne_eq, not_or, not_not] at hsame
      exact ⟨sub, hsub, hsame.2⟩

/-- A row whose status an operation changes is one that the request has read as its actor's own. -/
theorem status_changed {s₀ : Store} {h : History (service parseDate)} {i : Nat} {r : Request} {op : Op}
    {ch : Choice} (hI : ScheduleInv s₀ h) (hop : Awaits parseDate r (h.own i) op)
    {row row' : BillSchedule} (hrow : row ∈ h.state.schedules)
    (hrow' : row' ∈ (perform op ch h.state).2.schedules) (hid : row'.id = row.id)
    (hstatus : row'.status ≠ row.status) :
    ∃ change sub, r.change? = some (change, row.id) ∧ requireActorSub r.actor = .ok sub ∧
      row.keycloakUserId = some sub := by
  have hsame : ∀ row'' ∈ h.state.schedules, row''.id = row.id → row''.status = row.status :=
    fun row'' hrow'' hid'' => by rw [Sql.Table.eq_of_id hrow'' hrow hid'']
  cases hp : perform op ch h.state with
  | mk res s' =>
      rw [hp] at hrow'
      cases res with
      | error e =>
          rw [(perform_error hp).2] at hrow'
          exact absurd (hsame row' hrow' hid) hstatus
      | ok a =>
          cases hop with
          | read hread =>
              have hkept := perform_schedules_eq hread ch h.state
              rw [hp] at hkept
              exact absurd (hsame row' (hkept ▸ hrow') hid) hstatus
          | insert hreq hsub hfrequency =>
              rcases insertSchedule_ok hp with ⟨_, _, hfresh, hmem⟩
              rcases (hmem row').1 hrow' with hold | rfl
              · exact absurd (hsame row' hold hid) hstatus
              · exact absurd hid.symm (hfresh row hrow)
          -- The saved row is a changed copy of the row with its id.
          | @save change id schedule hchange hown howner hcheck =>
              rcases saveSchedule_ok hp with ⟨_, hmem⟩
              rcases (hmem row').1 hrow' with rfl | ⟨hold, _⟩
              · have hread : (⟨.findSchedule id, .ok (some schedule)⟩ :
                    Awaited sig ScheduleError) ∈ h.own i := hown ▸ List.mem_singleton_self _
                rcases hI.reads i id schedule hread with ⟨hcopy, _, row₁, hrow₁, hfixed⟩
                have happly : (change.apply schedule).id = schedule.id :=
                  id_eq_of_fixed (apply_fixed change schedule)
                have hrowId : row.id = schedule.id := hid.symm.trans happly
                have hrow₁ : row₁ = row := Sql.Table.eq_of_id hrow₁ hrow
                  ((id_eq_of_fixed hfixed).symm.trans hrowId.symm)
                rcases owner_of_assert howner with ⟨sub, hsub, hschedule⟩
                refine ⟨change, sub, ?_, hsub, ?_⟩
                · rw [hchange, hrowId, hcopy]
                · rw [← hrow₁, ← keycloakUserId_eq_of_fixed hfixed, hschedule]
              · exact absurd (hsame row' hold hid) hstatus

/-- From a migrated table, after any run of requests by any actors: every schedule is well-formed
and keeps the columns it was created with, and whatever the next step, a status it changes is
changed by a request of the schedule's owner. -/
theorem schedules_well_formed (parseDate : String → Option TimeValue) (s₀ : Store)
    (hmigrated : Migrated s₀) (as : List (Action (service parseDate))) :
    (∀ row ∈ ((Config.initial (service parseDate) s₀).run as).state.schedules,
      row.WellFormed ∧ Origin s₀ ((Config.initial (service parseDate) s₀).run as).toHistory row) ∧
    ∀ a, ∀ row ∈ ((Config.initial (service parseDate) s₀).run as).state.schedules,
      ∀ row' ∈ ((Config.initial (service parseDate) s₀).run (as ++ [a])).state.schedules,
        row'.id = row.id → row'.status ≠ row.status →
          OwnerAsked ((Config.initial (service parseDate) s₀).run as) row a := by
  have hI := scheduleInv_run hmigrated as
  refine ⟨hI.rows, ?_⟩
  intro a row hrow row' hrow' hid hstatus
  have hreach := (Config.run_follows (follows_program parseDate) s₀ as).1
  rw [Config.run_append, Config.run_cons, Config.run_nil] at hrow'
  cases a with
  | start r =>
      have hsame : row' = row := Sql.Table.eq_of_id hrow' hrow hid
      exact absurd (congrArg BillSchedule.status hsame) hstatus
  | resume i ch =>
      rcases Config.next_resume_cases ((Config.initial (service parseDate) s₀).run as) i ch with
        ⟨hsame, _⟩ | ⟨op, k, hi, _, hnext⟩
      · rw [hsame] at hrow'
        exact absurd (congrArg BillSchedule.status (Sql.Table.eq_of_id hrow' hrow hid)) hstatus
      · rw [hnext] at hrow'
        have hlt : i < ((Config.initial (service parseDate) s₀).run as).requests.length :=
          hreach.1 ▸ (List.getElem?_eq_some_iff.1 hi).1
        have hr := List.getElem?_eq_getElem hlt
        have hop := (hreach.2 i _ _ hr hi).1
        rcases status_changed hI hop hrow hrow' hid hstatus with ⟨change, sub, hchange, hsub, howner⟩
        exact ⟨i, ch, _, change, sub, rfl, hr, hchange, hsub, howner⟩

def noDates : String → Option TimeValue :=
  fun _ => none

def sampleSchedule : BillSchedule where
  id := "schedule-1"
  billerCode := "ELECTRICITY"
  consumerNumber := "123456780"
  scheduleType := .RECURRING
  frequency := some "MONTHLY"
  nextRunAt := 1791190800000
  maximumAmount := ⟨500000, by decide⟩
  active := true
  status := .ACTIVE
  keycloakUserId := some "user-1"

def sampleStore : Store where
  schedules := .ofRows _ _ [sampleSchedule]
  executions := .empty
  clock := 0

def customer : Actor where
  sub := some "user-1"
  realmAccessRoles := some ["RETAIL_CUSTOMER"]
  roles := none

def quick : Choice where
  pick := 0
  fails := false
  freshId := ""
  elapsed := 0

/-- One pause, from its start to its end. -/
def soloPause : List (Action (service noDates)) :=
  [.start (.pauseSchedule "schedule-1" customer), .resume 0 quick, .resume 0 quick]

theorem schedules_well_formed_soloPause :
    (∀ row ∈ ((Config.initial (service noDates) sampleStore).run soloPause).state.schedules,
      row.WellFormed ∧ Origin sampleStore
        ((Config.initial (service noDates) sampleStore).run soloPause).toHistory row) ∧
    ∀ a, ∀ row ∈ ((Config.initial (service noDates) sampleStore).run soloPause).state.schedules,
      ∀ row' ∈ ((Config.initial (service noDates) sampleStore).run
        (soloPause ++ [a])).state.schedules,
        row'.id = row.id → row'.status ≠ row.status →
          OwnerAsked ((Config.initial (service noDates) sampleStore).run soloPause) row a :=
  schedules_well_formed noDates sampleStore (by unfold Migrated; decide) soloPause

/-! ## Cancellation -/

def Op.saved? : Op → Option BillSchedule
  | .saveSchedule schedule => some schedule
  | _ => none

def Request.isCancel : Request → Bool
  | .cancelSchedule _ _ => true
  | _ => false

/-- A pause or a resume saves a schedule only while it is not cancelled in the table. -/
def RevivesNothing (h : History (service parseDate)) (e : Event sig ScheduleError) : Prop :=
  ∀ saved ∈ e.op.saved?, h.requests[e.who]?.any Request.isCancel = false →
    ∀ row ∈ h.state.schedules, row.id = saved.id → row.status ≠ .CANCELLED

instance (h : History (service parseDate)) (e : Event sig ScheduleError) :
    Decidable (RevivesNothing h e) :=
  inferInstanceAs (Decidable (∀ saved ∈ e.op.saved?, _ → ∀ row ∈ h.state.schedules, _))

/-- What a cancel request has saved is cancelled. -/
structure CancelInv (h : History (service parseDate)) : Prop where
  answered : h.Answered
  cancelled : ∀ i id actor saved row, h.requests[i]? = some (.cancelSchedule id actor) →
    (⟨.saveSchedule saved, .ok row⟩ : Awaited sig ScheduleError) ∈ h.own i →
      ∃ row ∈ h.state.schedules, row.id = id ∧ row.status = .CANCELLED

section Steps

variable {h : History (service parseDate)} {i : Nat} {r : Request} {op : Op} {ch : Choice}

theorem cancelInv_start (ha : h.Attributed) (hI : CancelInv h) (r : Request) :
    CancelInv (h.start r) := by
  refine ⟨hI.answered, ?_⟩
  intro j id actor saved row hr hmem
  rcases History.start_requests_cases hr with hr | ⟨hj, _⟩
  · exact hI.cancelled j id actor saved row hr hmem
  · have hown : (h.start r).own j = [] := ha.own_eq_nil hj.ge
    rw [hown] at hmem
    exact absurd hmem List.not_mem_nil

/-- A cancelled row stays cancelled under every operation that meets the condition. -/
theorem cancelled_kept (hr : h.requests[i]? = some r) (hop : Awaits parseDate r (h.own i) op)
    (hC : RevivesNothing h ⟨⟨op, (perform op ch h.state).1⟩, i⟩) {id : String}
    (hrow : ∃ row ∈ h.state.schedules, row.id = id ∧ row.status = .CANCELLED) :
    ∃ row ∈ (perform op ch h.state).2.schedules, row.id = id ∧ row.status = .CANCELLED := by
  rcases hrow with ⟨row, hrow, hid, hstatus⟩
  cases hp : perform op ch h.state with
  | mk res s' =>
      cases res with
      | error e =>
          rw [(perform_error hp).2]
          exact ⟨row, hrow, hid, hstatus⟩
      | ok a =>
          cases hop with
          | read hread =>
              have hkept := perform_schedules_eq hread ch h.state
              rw [hp] at hkept
              exact ⟨row, hkept ▸ hrow, hid, hstatus⟩
          | insert hreq hsub hfrequency =>
              rcases insertSchedule_ok hp with ⟨_, _, _, hmem⟩
              exact ⟨row, (hmem row).2 (.inl hrow), hid, hstatus⟩
          | @save change key schedule hchange hown howner hcheck =>
              rcases saveSchedule_ok hp with ⟨_, hmem⟩
              by_cases hsame : row.id = (change.apply schedule).id
              · -- The row itself is overwritten: only a cancel may do that.
                have hcancel : r.isCancel = true := by
                  cases hkind : r.isCancel with
                  | true => rfl
                  | false =>
                      have hany : h.requests[i]?.any Request.isCancel = false := by
                        simp [hr, hkind]
                      exact absurd hstatus (hC _ rfl hany row hrow hsame)
                cases r with
                | cancelSchedule key' actor =>
                    cases hchange
                    exact ⟨_, (hmem _).2 (.inl rfl), hsame.symm.trans hid, rfl⟩
                | _ => cases hcancel
              · exact ⟨row, (hmem row).2 (.inr ⟨hrow, hsame⟩), hid, hstatus⟩

theorem cancelInv_perform (hI : CancelInv h) (hr : h.requests[i]? = some r)
    (hop : Awaits parseDate r (h.own i) op)
    (hC : RevivesNothing h ⟨⟨op, (perform op ch h.state).1⟩, i⟩) :
    CancelInv (h.perform i op ch) := by
  refine ⟨hI.answered.perform i op ch, ?_⟩
  intro j id actor saved row hrj hmem
  rcases History.mem_perform.1 (History.mem_own.1 hmem) with hold | ⟨rfl, hsave, hres⟩
  · exact cancelled_kept hr hop hC (hI.cancelled j id actor saved row hrj (History.mem_own.2 hold))
  · -- The save just performed is the one of the cancel request itself.
    dsimp only at hsave
    subst hsave
    have hreq : r = .cancelSchedule id actor := Option.some.inj (hr.symm.trans hrj)
    subst hreq
    generalize hown : h.own j = own at hop
    generalize hsaveOp : Op.saveSchedule saved = op at hop
    cases hop with
    | read hread =>
        subst hsaveOp
        cases hread
    | insert hreq _ _ => cases hreq
    | @save change key schedule hchange hown' howner hcheck =>
        cases hchange
        cases hsaveOp
        cases hp : perform (.saveSchedule (Change.cancel.apply schedule)) ch h.state with
        | mk res s' =>
            cases res with
            | error e =>
                rw [service_perform, hp] at hres
                cases hres
            | ok a =>
                rcases saveSchedule_ok hp with ⟨_, hrows⟩
                have hread : (⟨.findSchedule id, .ok (some schedule)⟩ :
                    Awaited sig ScheduleError) ∈ h.own j := by
                  rw [hown, hown']
                  exact List.mem_singleton_self _
                rcases hI.answered.own hread with ⟨ch', s, hfound⟩
                have hid : schedule.id = id := (findSchedule_some hfound.symm).2
                refine ⟨Change.cancel.apply schedule, ?_, hid, rfl⟩
                rw [History.perform_state, service_perform, hp]
                exact (hrows _).2 (.inl rfl)

end Steps

/-- A pause, then a cancel. -/
def pauseThenCancel : List (Action (service noDates)) :=
  soloPause ++
    [.start (.cancelSchedule "schedule-1" customer), .resume 1 quick, .resume 1 quick]

/-- A pause reads the schedule, a cancel runs to its end, the pause saves its copy, and a resume
follows. -/
def revival : List (Action (service noDates)) :=
  [.start (.pauseSchedule "schedule-1" customer), .start (.cancelSchedule "schedule-1" customer),
    .resume 0 quick, .resume 1 quick, .resume 1 quick, .resume 0 quick,
    .start (.resumeSchedule "schedule-1" customer), .resume 2 quick, .resume 2 quick]

end Scheduling
end IdentityBillpay
