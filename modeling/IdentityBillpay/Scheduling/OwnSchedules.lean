import IdentityBillpay.Async.TwoRuns
import IdentityBillpay.Scheduling.BillScheduleService

/-!
# OwnSchedules — what a customer's requests tell about the schedules of others

Two stores hold the same schedules of a customer with the same executions; everything else in them
may differ. A foreign schedule is answered like one that does not exist, and a new schedule is
accepted alike as long as its generated id is used by no foreign row.

* `SameSchedules` — the stores agree on the customer's schedules;
* `same_insertSchedule`, `same_saveSchedule` — a write keeps the agreement;
* `alike_program` — every request is answered alike.
-/

namespace IdentityBillpay
namespace Scheduling

open Async Async.Program Js
open Bbps (Actor ServiceError requireActorSub truthy)

def BillSchedule.isOf (sub : String) (r : BillSchedule) : Bool :=
  r.keycloakUserId == some sub

/-- Ids from `fresh` may still be generated; a foreign row has none of them. -/
structure SameSchedules (sub : String) (fresh : String → Prop) (s t : Store) : Prop where
  schedules : t.schedules.find (BillSchedule.isOf sub) = s.schedules.find (BillSchedule.isOf sub)
  executions : ∀ id, fresh id ∨ (∃ r ∈ s.schedules, r.isOf sub = true ∧ r.id = id) →
    t.executions.find (fun e => e.scheduleId == id) = s.executions.find fun e => e.scheduleId == id
  foreign : ∀ r, r ∈ s.schedules ∨ r ∈ t.schedules → fresh r.id → r.isOf sub = true
  clock : t.clock = s.clock

def generates (fresh : String → Prop) (_ : Nat) (ch : Choice) : Prop :=
  fresh ch.freshId

section Own

variable {sub id : String} {fresh : String → Prop} {actor : Actor} {s t : Store}
  {row row' : BillSchedule}

theorem SameSchedules.own (hR : SameSchedules sub fresh s t) (hown : row.isOf sub = true) :
    row ∈ t.schedules ↔ row ∈ s.schedules := by
  have hsame : row ∈ t.schedules.find (BillSchedule.isOf sub) ↔
      row ∈ s.schedules.find (BillSchedule.isOf sub) := by rw [hR.schedules]
  simpa [hown] using hsame

theorem SameSchedules.symm (hR : SameSchedules sub fresh s t) : SameSchedules sub fresh t s := by
  refine ⟨hR.schedules.symm, ?_, fun r hr => hR.foreign r hr.symm, hR.clock.symm⟩
  intro id h
  refine (hR.executions id (h.imp_right ?_)).symm
  intro hown
  rcases hown with ⟨r, hr, hown, hid⟩
  exact ⟨r, (hR.own hown).1 hr, hown, hid⟩

/-! ## Writing -/

/-- A row with a generated id is refused in both stores or in none. -/
theorem SameSchedules.insert (hR : SameSchedules sub fresh s t) (hfresh : fresh row.id)
    {t₁ : Sql.Table BillSchedule.id BillSchedule.id} (h : s.schedules.insert? row = some t₁) :
    ∃ t₂, t.schedules.insert? row = some t₂ := by
  have hunused : ∀ r ∈ t.schedules, r.id ≠ row.id := by
    intro r hr hid
    have hown := hR.foreign r (.inr hr) (hid ▸ hfresh)
    exact (Sql.Table.insert?_fresh h ((hR.own hown).1 hr)).1 hid
  exact Sql.Table.exists_insert? hunused hunused

theorem same_insertSchedule {new : NewSchedule} {n : Nat} (hR : SameSchedules sub fresh s t)
    (hnew : new.keycloakUserId = sub) :
    SameOutcome backend (generates fresh n) (SameSchedules sub fresh) s t
      (.insertSchedule new) := by
  intro ch hch
  refine Sql.commit_alike hR ?_
  unfold insertSchedule?
  cases hrow : new.row? ch.freshId with
  | none => exact .none
  | some row =>
      rcases NewSchedule.row?_some hrow with ⟨hid, hstores⟩
      have hown : row.isOf sub = true := by simp [BillSchedule.isOf, hstores.keycloakUserId, hnew]
      have hfresh : fresh row.id := hid ▸ hch
      simp only [Option.bind_eq_bind, Option.bind_some]
      -- Whether the row goes in depends on its id alone, which is new to both stores.
      cases hs : s.schedules.insert? row with
      | none =>
          cases ht : t.schedules.insert? row with
          | none => exact .none
          | some t₂ =>
              rcases hR.symm.insert hfresh ht with ⟨t₁, ht₁⟩
              rw [hs] at ht₁
              cases ht₁
      | some t₁ =>
          rcases hR.insert hfresh hs with ⟨t₂, ht⟩
          rw [ht]
          refine .some ⟨rfl, ?_, ?_, ?_, hR.clock⟩
          · rw [Sql.Table.find_insert? hs, Sql.Table.find_insert? ht, hR.schedules]
          · intro id h
            refine hR.executions id ?_
            rcases h with h | ⟨r, hr, hrown, hrid⟩
            · exact .inl h
            · rcases (Sql.Table.mem_insert? hs).1 hr with hold | rfl
              · exact .inr ⟨r, hold, hrown, hrid⟩
              · exact .inl (hrid ▸ hfresh)
          · intro r hr hrfresh
            rw [Sql.Table.mem_insert? hs, Sql.Table.mem_insert? ht] at hr
            rcases hr with (hr | rfl) | (hr | rfl)
            · exact hR.foreign r (.inl hr) hrfresh
            · exact hown
            · exact hR.foreign r (.inr hr) hrfresh
            · exact hown

/-- Saving an own schedule under its id and its owner. -/
theorem same_saveSchedule {n : Nat} (hR : SameSchedules sub fresh s t) (hs : row ∈ s.schedules)
    (hown : row.isOf sub = true) (hid : row.id = row'.id)
    (hown' : row'.isOf sub = true) :
    SameOutcome backend (generates fresh n) (SameSchedules sub fresh) s t
      (.saveSchedule row') := by
  intro ch _
  refine Sql.commit_alike hR ?_
  unfold saveSchedule?
  have ht := (hR.own hown).2 hs
  have hsame : row.isOf sub = row'.isOf sub := hown.trans hown'.symm
  rcases Sql.Table.exists_save? hs hid hid with ⟨t₁, h₁⟩
  rcases Sql.Table.exists_save? ht hid hid with ⟨t₂, h₂⟩
  rw [h₁, h₂]
  refine .some ⟨rfl, ?_, ?_, ?_, hR.clock⟩
  · rw [Sql.Table.find_save? h₁ hs hid hsame, Sql.Table.find_save? h₂ ht hid hsame, hR.schedules]
  · intro id h
    refine hR.executions id (h.imp_right ?_)
    intro hfound
    rcases hfound with ⟨r, hr, hrown, hrid⟩
    rcases (Sql.Table.mem_save? h₁).1 hr with rfl | ⟨hr, _⟩
    · exact ⟨row, hs, hown, hid.trans hrid⟩
    · exact ⟨r, hr, hrown, hrid⟩
  · intro r hr hrfresh
    rw [Sql.Table.mem_save? h₁, Sql.Table.mem_save? h₂] at hr
    rcases hr with (rfl | ⟨hr, _⟩) | (rfl | ⟨hr, _⟩)
    · exact hown'
    · exact hR.foreign r (.inl hr) hrfresh
    · exact hown'
    · exact hR.foreign r (.inr hr) hrfresh

/-! ## Looking a schedule up -/

/-- What a lookup of a schedule comes to, after the check of its owner. -/
def ownedSchedule (actor : Actor) : Option BillSchedule → Except ScheduleError BillSchedule
  | none => .error (.service scheduleNotFound)
  | some schedule =>
      ((assertScheduleOwnedByActor schedule actor).mapError .service).map fun _ => schedule

theorem getOwnedSchedule_eq (id : String) (actor : Actor) :
    getOwnedSchedule id actor =
      call (.findSchedule id) >>= fun schedule => settled (ownedSchedule actor schedule) := by
  unfold getOwnedSchedule
  refine congrArg _ (funext fun schedule => ?_)
  cases (schedule : Option BillSchedule) with
  | none => rfl
  | some row =>
      cases h : assertScheduleOwnedByActor row actor with
      | error e => simp [ownedSchedule, shared, h, Except.map, Except.mapError]
      | ok u => simp [ownedSchedule, shared, h, Except.map, Except.mapError]

theorem ownedSchedule_own (hsub : requireActorSub actor = .ok sub) (hown : row.isOf sub = true) :
    ownedSchedule actor (some row) = .ok row := by
  have hne := (Bbps.requireActorSub_ok.1 hsub).2
  have huser : row.keycloakUserId = some sub := by simpa [BillSchedule.isOf] using hown
  simp [ownedSchedule, assertScheduleOwnedByActor, hsub, huser, truthy, hne, Except.map,
    Except.mapError]

/-- A foreign schedule and a missing one are answered alike. -/
theorem ownedSchedule_foreign {schedule : Option BillSchedule}
    (hsub : requireActorSub actor = .ok sub)
    (hforeign : ∀ r, schedule = some r → r.isOf sub = false) :
    ownedSchedule actor schedule = .error (.service scheduleNotFound) := by
  cases schedule with
  | none => rfl
  | some r =>
      have huser : r.keycloakUserId ≠ some sub := by
        simpa [BillSchedule.isOf] using hforeign r rfl
      simp [ownedSchedule, assertScheduleOwnedByActor, hsub, huser, Except.map, Except.mapError]

variable {n : Nat} {α : Type} {k : BillSchedule → Prog α}

/-- Requests that go on alike with an own schedule are alike. -/
theorem alike_getOwned_bind (hsub : requireActorSub actor = .ok sub)
    (hR : SameSchedules sub fresh s t)
    (hk : ∀ r ∈ s.schedules, r.id = id → r.isOf sub = true →
      Alike backend (generates fresh) (SameSchedules sub fresh) (n + 1) s t (k r) (k r)) :
    Alike backend (generates fresh) (SameSchedules sub fresh) n s t
      (getOwnedSchedule id actor >>= k) (getOwnedSchedule id actor >>= k) := by
  rw [getOwnedSchedule_eq, bind_assoc]
  refine alike_await_bind fun ch _ => ?_
  have hread : ∀ s, backend.perform (.findSchedule id) ch s =
      (.ok (s.schedules.findOne (fun r => r.id == id) ch.pick), s) := fun _ => rfl
  rw [hread, hread, settled_ok, settled_ok, resolve_bind, resolve_bind]
  rcases Sql.Table.findOne_agree (i := id) hR.schedules (fun r => beq_iff_eq) ch.pick with
    ⟨r, hown, hs, ht⟩ | ⟨hs, ht⟩
  · have hstored := Sql.Table.findOne_some hs
    rw [hs, ht, ownedSchedule_own hsub hown]
    exact hk r hstored.1 (by simpa using hstored.2) hown
  · rw [ownedSchedule_foreign hsub hs, ownedSchedule_foreign hsub ht]
    exact .settled (.error (ScheduleError.service scheduleNotFound)) hR

theorem alike_changeSchedule (change : Change) (hsub : requireActorSub actor = .ok sub)
    (hR : SameSchedules sub fresh s t) :
    Alike backend (generates fresh) (SameSchedules sub fresh) n s t
      (changeSchedule change id actor) (changeSchedule change id actor) := by
  refine alike_getOwned_bind hsub hR fun r hr hid hown => ?_
  cases hcheck : change.check r.status with
  | error e => exact .settled (.error e) hR
  | ok u =>
      have happly : r.id = (change.apply r).id ∧ (change.apply r).isOf sub = true := by
        cases change with
        | pause => exact ⟨rfl, hown⟩
        | resume => exact ⟨rfl, hown⟩
        | cancel => exact ⟨rfl, hown⟩
      exact alike_call (same_saveSchedule hR hr hown happly.1 happly.2)

/-- An own list is the same in both stores, and so is what is selected from it. -/
theorem same_upcoming (hR : SameSchedules sub fresh s t) (now : Date) :
    t.schedules.find (fun r => r.upcoming sub now) =
      s.schedules.find fun r => r.upcoming sub now := by
  have hselect : ∀ table : Sql.Table BillSchedule.id BillSchedule.id,
      table.find (fun r => r.upcoming sub now) =
        (table.find (BillSchedule.isOf sub)).filter fun r => r.upcoming sub now := by
    intro table
    unfold Sql.Table.find
    rw [List.filter_filter]
    refine List.filter_congr fun r _ => ?_
    simp only [BillSchedule.upcoming, BillSchedule.isOf]
    cases r.keycloakUserId == some sub with
    | true => simp
    | false => rfl
  rw [hselect, hselect, hR.schedules]

theorem alike_program {parseDate : String → Option TimeValue} {r : Request}
    (hactor : r.actor = actor) (hsub : requireActorSub actor = .ok sub)
    (hR : SameSchedules sub fresh s t) :
    Alike backend (generates fresh) (SameSchedules sub fresh) n s t
      (program parseDate r) (program parseDate r) := by
  have hshared : ∀ actor, requireActorSub actor = .ok sub →
      shared (requireActorSub actor) = (pure sub : Prog String) := by
    intro actor hsub
    rw [hsub]
    rfl
  subst hactor
  cases r with
  | create dto actor =>
      refine Alike.map ?_ Reply.schedule
      unfold create
      rw [hshared actor hsub, pure_bind]
      cases hfrequency : assertFrequency dto with
      | error e => exact .settled (.error e) hR
      | ok u => exact alike_call (same_insertSchedule hR rfl)
  | pauseSchedule id actor => exact Alike.map (alike_changeSchedule .pause hsub hR) Reply.schedule
  | resumeSchedule id actor => exact Alike.map (alike_changeSchedule .resume hsub hR) Reply.schedule
  | cancelSchedule id actor => exact Alike.map (alike_changeSchedule .cancel hsub hR) Reply.schedule
  | findAll actor =>
      refine Alike.map ?_ Reply.schedules
      unfold findAll
      rw [hshared actor hsub, pure_bind]
      exact alike_call fun ch _ => ⟨congrArg Except.ok hR.schedules, hR⟩
  | findOne id actor =>
      exact alike_getOwned_bind hsub hR fun r _ _ _ => .settled (.ok (Reply.schedule r)) hR
  | getScheduleExecutions id actor =>
      refine Alike.map ?_ Reply.executions
      refine alike_getOwned_bind hsub hR fun r hr hid hown => ?_
      refine alike_call fun ch _ => ⟨?_, hR⟩
      exact congrArg (fun rows => Except.ok (newestFirst rows))
        (hR.executions id (.inr ⟨r, hr, hown, hid⟩))
  | getUpcomingSchedules actor =>
      refine Alike.map ?_ Reply.schedules
      unfold getUpcomingSchedules
      rw [hshared actor hsub, pure_bind]
      have hnow : SameOutcome backend (generates fresh n) (SameSchedules sub fresh) s t .now := by
        intro ch _
        refine ⟨?_, hR.schedules, hR.executions, hR.foreign, ?_⟩
        · exact congrArg (fun clock => Except.ok (clock + ch.elapsed)) hR.clock
        · exact congrArg (fun clock => clock + ch.elapsed) hR.clock
      refine alike_call_bind hnow fun ch now s' t' hR' _ _ => ?_
      exact alike_call fun ch _ =>
        ⟨congrArg (fun rows => Except.ok (soonestFirst rows)) (same_upcoming hR' now), hR'⟩

end Own

end Scheduling
end IdentityBillpay
