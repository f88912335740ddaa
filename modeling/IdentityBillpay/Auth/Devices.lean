import IdentityBillpay.Auth.Service

/-!
# Devices — registrations of a device that overlap

Any number of `registerDevice` requests on one attempt. One that fails in its `try` block rolls back
the device that the attempt row names at that moment, whoever has created it.

* `registering` — the requests on one attempt; `RegisterAwaits` — their order of awaits;
* `Undisturbed` — the condition on one event;
* `winner_device_kept` — the law; `winner_device_undone` — a run that breaks it.
-/

namespace IdentityBillpay
namespace Auth

open Async Keycloak RegistrationStep
open Async.Program (Follows follows_call_bind)

/-- The registrations of a device on one attempt. -/
abbrev registering (attemptId : String) : Service sig HttpError :=
  { backend with
    Request := { dto : RegisterAttemptDeviceDto // dto.attemptId = attemptId }
    Reply := RegistrationAttempt
    program := fun dto => RegistrationService.registerDevice dto.1 }

@[simp] theorem registering_perform (attemptId : String) (op : Op) (ch : Choice) (s : Store) :
    (registering attemptId).perform op ch s = perform op ch s := rfl

/-! ## What a request has done -/

/-- The operation has succeeded, and found the attempt if it looked for it. -/
def succeeded : Awaited sig HttpError → Bool
  | ⟨.findAttempt _, .ok none⟩ => false
  | ⟨_, .ok _⟩ => true
  | ⟨_, .error _⟩ => false

/-- Nothing has failed so far. -/
def Smooth (own : Own) : Prop :=
  ∀ a ∈ own, succeeded a = true

/-- The device that an event has created. -/
def insertedDevice? : Awaited sig HttpError → Option String
  | ⟨.insertDevice _, .ok id⟩ => some id
  | _ => none

/-- The device that a request has created. -/
def createdDevice? (own : Own) : Option String :=
  own.findSome? insertedDevice?

/-- A request has saved the device it has created on the attempt. -/
def StoresDevice (own : Own) : Prop :=
  ∃ d ∈ createdDevice? own, ∃ a ∈ own, (savedAttempt? a).bind RegistrationAttempt.deviceProfileId = some d

instance (own : Own) : Decidable (StoresDevice own) :=
  inferInstanceAs (Decidable (∃ d ∈ createdDevice? own, ∃ a ∈ own, _))

section Own

variable {own : Own} {a : Awaited sig HttpError} {d : String}

theorem smooth_concat : Smooth (own ++ [a]) ↔ Smooth own ∧ succeeded a = true := by
  simp [Smooth, or_imp, forall_and]

theorem not_smooth_concat (h : ¬ Smooth own) : ¬ Smooth (own ++ [a]) :=
  fun hsmooth => h (smooth_concat.1 hsmooth).1

theorem createdDevice?_concat : createdDevice? (own ++ [a]) = some d ↔
    createdDevice? own = some d ∨ (createdDevice? own = none ∧ insertedDevice? a = some d) := by
  rw [createdDevice?, List.findSome?_append, List.findSome?_singleton, ← createdDevice?]
  cases createdDevice? own with
  | none => simp
  | some d' => simp

theorem StoresDevice.concat (h : StoresDevice own) : StoresDevice (own ++ [a]) := by
  rcases h with ⟨d, hd, b, hb, hsaved⟩
  exact ⟨d, createdDevice?_concat.2 (.inl hd), b, List.mem_append_left _ hb, hsaved⟩

theorem storesDevice_save {saved : RegistrationAttempt} (hcreated : createdDevice? own = some d)
    (hsaved : saved.deviceProfileId = some d) :
    StoresDevice (own ++ [⟨.saveAttempt saved, .ok ()⟩]) :=
  ⟨d, createdDevice?_concat.2 (.inl hcreated), _, List.mem_append_right _ List.mem_cons_self, hsaved⟩

end Own

/-! ## The order of awaits -/

/-- After the events `own`, a registration awaits `op`. Its handler, entered when something has
failed, is the only part that soft-deletes a device. -/
inductive RegisterAwaits (attemptId : String) : Own → Op → Prop
  | insertDevice {attempt : RegistrationAttempt} {new : NewDevice} :
      RegisterAwaits attemptId [⟨.findAttempt attemptId, .ok (some attempt)⟩] (.insertDevice new)
  | store {before : Own} {updated : RegistrationAttempt} {d : String}
      (hsmooth : Smooth (before ++ [⟨.findAttempt attemptId, .ok (some updated)⟩]))
      (hcreated : createdDevice? (before ++ [⟨.findAttempt attemptId, .ok (some updated)⟩]) = some d) :
      RegisterAwaits attemptId (before ++ [⟨.findAttempt attemptId, .ok (some updated)⟩])
        (.saveAttempt { updated with deviceProfileId := some d })
  | save {before : Own} {read saved : RegistrationAttempt} (hid : saved.id = read.id)
      (hkeep : saved.deviceProfileId = read.deviceProfileId)
      (hstored : Smooth before → StoresDevice before) :
      RegisterAwaits attemptId (before ++ [⟨.findAttempt attemptId, .ok (some read)⟩])
        (.saveAttempt saved)
  | softDeleteDevice {own : Own} {id : String} (hfailed : ¬ Smooth own) :
      RegisterAwaits attemptId own (.softDeleteDevice id)
  | other {own : Own} {op : Op} (hop : op.part = none) : RegisterAwaits attemptId own op

/-- A registration, or its `try` block, that resolves has failed nowhere and stored its device. -/
def RegisterEnds {α : Type} (own : Own) : Except HttpError α → Prop
  | .ok _ => Smooth own ∧ StoresDevice own
  | .error _ => True

section Protocol

variable {attemptId : String} {own : Own}

theorem RegisterAwaits.failed {id : String}
    (h : RegisterAwaits attemptId own (.softDeleteDevice id)) : ¬ Smooth own := by
  cases h with
  | softDeleteDevice hfailed => exact hfailed
  | other hop => cases hop

/-- A request saves the attempt with its own device, or as it has read it but for other columns. -/
theorem RegisterAwaits.saved {saved : RegistrationAttempt}
    (h : RegisterAwaits attemptId own (.saveAttempt saved)) :
    ∃ before read, own = before ++ [⟨.findAttempt attemptId, .ok (some read)⟩] ∧
      saved.id = read.id ∧
      ((Smooth own ∧ ∃ d, createdDevice? own = some d ∧ saved.deviceProfileId = some d) ∨
        (saved.deviceProfileId = read.deviceProfileId ∧ (Smooth own → StoresDevice own))) := by
  cases h with
  | store hsmooth hcreated => exact ⟨_, _, rfl, rfl, .inl ⟨hsmooth, _, hcreated, rfl⟩⟩
  | save hid hkeep hstored =>
      refine ⟨_, _, rfl, hid, .inr ⟨hkeep, fun hsmooth => ?_⟩⟩
      exact (hstored (smooth_concat.1 hsmooth).1).concat
  | other hop => cases hop

/-- A request stores its device with a save: when it creates one, it has saved nothing. -/
theorem RegisterAwaits.stores {op : Op} {res : Except HttpError op.Res}
    (h : RegisterAwaits attemptId own op) (hnot : ¬ StoresDevice own)
    (hstores : StoresDevice (own ++ [⟨op, res⟩])) :
    ∃ saved, op = .saveAttempt saved ∧ savedAttempt? ⟨op, res⟩ = some saved := by
  rcases hstores with ⟨d, hcreated, b, hmem, hsaved⟩
  rcases List.mem_append.1 hmem with hb | hb
  · rcases createdDevice?_concat.1 hcreated with hold | ⟨_, hnew⟩
    · exact absurd ⟨d, hold, b, hb, hsaved⟩ hnot
    · cases op with
      | insertDevice new =>
          cases h with
          | insertDevice =>
              rw [List.mem_singleton.1 hb] at hsaved
              cases hsaved
          | other hop => cases hop
      | _ => cases hnew
  · rw [List.mem_singleton.1 hb] at hsaved
    rcases Option.bind_eq_some_iff.1 hsaved with ⟨saved, hsome, _⟩
    cases op with
    | saveAttempt a =>
        cases res with
        | ok _ => exact ⟨a, rfl, rfl⟩
        | error e => cases hsome
    | _ => cases hsome

theorem follows_findDevice (id : String) (hfailed : ¬ Smooth own) :
    Follows (RegisterAwaits attemptId) (fun own _ => ¬ Smooth own) own (DeviceService.findOne id) := by
  refine follows_call_bind (.other rfl) (fun _ => not_smooth_concat hfailed) fun device => ?_
  cases (device : Option DeviceProfile) with
  | none => exact not_smooth_concat hfailed
  | some device => exact not_smooth_concat hfailed

theorem follows_rollbackDevice (hfailed : ¬ Smooth own) :
    Follows (RegisterAwaits attemptId) (fun _ _ => True) own
      (RegistrationCompensationService.rollback attemptId DEVICE_REGISTERED) := by
  refine follows_call_bind (.other rfl) (fun _ => trivial) fun found => ?_
  cases (found : Option RegistrationAttempt) with
  | none => trivial
  | some attempt =>
      dsimp only
      split
      · rename_i deviceProfileId _
        refine Follows.orElse ?_ fun _ _ => trivial
        -- The rollback deletes whatever device the row names.
        refine (follows_findDevice deviceProfileId (not_smooth_concat hfailed)).bind ?_
          fun _ _ _ => trivial
        exact fun own _ h => ⟨.softDeleteDevice h, fun _ => Program.follows_settled.2 trivial⟩
      · trivial

/-- The handler always throws. -/
theorem follows_failedDevice (hfailed : ¬ Smooth own) (error : HttpError) :
    Follows (RegisterAwaits attemptId) (fun _ r => ∃ e, r = .error e) own
      (RegistrationService.failed attemptId DEVICE_REGISTERED error) := by
  refine Follows.bind (Q := fun _ _ => True) ?_ (fun _ _ _ => ⟨_, rfl⟩) fun _ e _ => ⟨e, rfl⟩
  refine follows_call_bind (.other rfl) (fun _ => trivial) fun found => ?_
  cases (found : Option RegistrationAttempt) with
  | none => exact follows_rollbackDevice (not_smooth_concat hfailed)
  | some attempt =>
      refine follows_call_bind (.save rfl rfl fun h => absurd h hfailed) (fun _ => trivial) fun _ => ?_
      exact follows_rollbackDevice (not_smooth_concat (not_smooth_concat hfailed))

/-- The `try` block creates a device and stores it, or something in it has failed. -/
theorem follows_linkDevice {attempt : RegistrationAttempt} (dto : RegisterAttemptDeviceDto)
    (userId : String) :
    Follows (RegisterAwaits dto.attemptId)
      (fun own r => match r with
        | .ok _ => Smooth own ∧ StoresDevice own
        | .error _ => ¬ Smooth own) [⟨.findAttempt dto.attemptId, .ok (some attempt)⟩]
      (RegistrationService.linkDevice dto userId) := by
  have herror : ∀ (own : Own) (op : Op) (e : HttpError), ¬ Smooth (own ++ [⟨op, .error e⟩]) := by
    intro own op e h
    have hlast := (smooth_concat.1 h).2
    cases op <;> cases hlast
  unfold RegistrationService.linkDevice DeviceService.create RegistrationService.findOne
  rw [bind_assoc]
  refine follows_call_bind .insertDevice (fun e => herror _ _ e) fun id => ?_
  simp only [Program.pure_eq, Program.resolve_bind]
  rw [bind_assoc]
  refine follows_call_bind (.other rfl) (fun e => herror _ _ e) fun found => ?_
  cases (found : Option RegistrationAttempt) with
  | none => exact fun h => Bool.noConfusion (smooth_concat.1 h).2
  | some updated =>
      have hsmooth : Smooth ([⟨.findAttempt dto.attemptId, .ok (some attempt)⟩] ++
          [⟨.insertDevice _, .ok id⟩] ++ [⟨.findAttempt dto.attemptId, .ok (some updated)⟩]) := by
        simp [Smooth, succeeded]
      refine ⟨.store hsmooth rfl, fun r => ?_⟩
      cases r with
      | error e => exact herror _ _ e
      | ok _ =>
          exact ⟨smooth_concat.2 ⟨hsmooth, rfl⟩, storesDevice_save rfl rfl⟩

theorem follows_registration (dto : RegisterAttemptDeviceDto) :
    Follows (RegisterAwaits dto.attemptId) RegisterEnds [] (RegistrationService.registerDevice dto) := by
  unfold RegistrationService.registerDevice RegistrationService.findOne
  rw [bind_assoc]
  refine follows_call_bind (.other rfl) (fun _ => trivial) fun found => ?_
  cases (found : Option RegistrationAttempt) with
  | none => trivial
  | some attempt =>
      -- The attempt has to be at KEYCLOAK_USER_CREATED, and to name a user.
      change Follows _ _ _ (RegistrationService.requireStep attempt KEYCLOAK_USER_CREATED >>= _)
      unfold RegistrationService.requireStep
      split
      · trivial
      · rw [pure_bind]
        cases truthy? attempt.keycloakUserId with
        | none => trivial
        | some userId =>
            -- `linkDevice` and its `catch`, which throws in any case.
            refine Follows.bind (Q := RegisterEnds) ?_ ?_ fun _ _ _ => trivial
            · refine (follows_linkDevice dto userId).handle (fun _ _ h => h) ?_
              intro own e hfailed
              refine (follows_failedDevice hfailed e).mono (fun _ _ h => h) ?_
              intro own r hr
              rcases hr with ⟨e, rfl⟩
              trivial
            · -- `advance` saves the row it reads, with the device in it.
              intro own _ hlinked
              refine follows_call_bind (.other rfl) (fun _ => trivial) fun found => ?_
              cases (found : Option RegistrationAttempt) with
              | none => trivial
              | some read =>
                  dsimp only
                  split
                  · trivial
                  · refine follows_call_bind (.save rfl rfl fun _ => hlinked.2) (fun _ => trivial)
                      fun _ => ?_
                    refine ⟨smooth_concat.2 ⟨smooth_concat.2 ⟨hlinked.1, rfl⟩, rfl⟩, ?_⟩
                    exact hlinked.2.concat.concat

theorem follows_registering (r : (registering attemptId).Request) :
    Follows (RegisterAwaits attemptId) RegisterEnds [] ((registering attemptId).program r) := by
  rcases r with ⟨dto, rfl⟩
  exact follows_registration dto

end Protocol

/-! ## The condition -/

/-- The device that an event has soft-deleted. -/
def deletedDevice? : Awaited sig HttpError → Option String
  | ⟨.softDeleteDevice id, .ok _⟩ => some id
  | _ => none

section Condition

variable {attemptId : String}

/-- The attempt row names the device. -/
def Names (s : Store) (attemptId d : String) : Prop :=
  ∃ a ∈ s.attempts, a.id = attemptId ∧ a.deviceProfileId = some d

instance (s : Store) (d : String) : Decidable (Names s attemptId d) :=
  inferInstanceAs (Decidable (∃ a ∈ s.attempts, _))

/-- A request that saves the attempt with the device it has read finds that device still stored. -/
def KeepsDevice (h : History (registering attemptId)) (e : Event sig HttpError) : Prop :=
  ∀ saved ∈ savedAttempt? e.toAwaited, ∀ read ∈ lastRead? (h.own e.who),
    saved.deviceProfileId = read.deviceProfileId → ∀ stored ∈ h.state.attempts,
      stored.id = saved.id → stored.deviceProfileId = read.deviceProfileId

/-- When a rollback soft-deletes a device, whichever other request has created it has thrown; and
if the attempt names it, so has every other request that has stored its device there. -/
def RollsBackLosers (h : History (registering attemptId)) (e : Event sig HttpError) : Prop :=
  ∀ d ∈ deletedDevice? e.toAwaited, ∀ j < h.requests.length, j ≠ e.who → h.threw j = false →
    createdDevice? (h.own j) ≠ some d ∧ (Names h.state attemptId d → ¬ StoresDevice (h.own j))

def Undisturbed (h : History (registering attemptId)) (e : Event sig HttpError) : Prop :=
  KeepsDevice h e ∧ RollsBackLosers h e

instance (h : History (registering attemptId)) (e : Event sig HttpError) :
    Decidable (Undisturbed h e) :=
  have : Decidable (KeepsDevice h e) :=
    inferInstanceAs (Decidable (∀ saved ∈ savedAttempt? e.toAwaited,
      ∀ read ∈ lastRead? (h.own e.who), _ → ∀ stored ∈ h.state.attempts, _))
  have : Decidable (RollsBackLosers h e) :=
    inferInstanceAs (Decidable (∀ d ∈ deletedDevice? e.toAwaited, ∀ j < h.requests.length, _))
  inferInstanceAs (Decidable (_ ∧ _))

end Condition

/-! ## The law -/

/-- The device is stored, and not soft-deleted. -/
def LiveDevice (s : Store) (d : String) : Prop :=
  ∃ row ∈ s.devices, row.id = d ∧ row.deletedAt = none

/-- The attempt names a device that is live. -/
def NamesLive (s : Store) (attemptId : String) : Prop :=
  ∃ a ∈ s.attempts, a.id = attemptId ∧ ∃ d ∈ a.deviceProfileId, LiveDevice s d

instance (s : Store) (d : String) : Decidable (LiveDevice s d) :=
  inferInstanceAs (Decidable (∃ row ∈ s.devices, _))

instance (s : Store) (attemptId : String) : Decidable (NamesLive s attemptId) :=
  inferInstanceAs (Decidable (∃ a ∈ s.attempts, a.id = attemptId ∧ ∃ d ∈ a.deviceProfileId, _))

theorem LiveDevice.perform {s : Store} {d : String} (h : LiveDevice s d) {op : Op} {ch : Choice}
    (hkeep : deletedDevice? ⟨op, (perform op ch s).1⟩ ≠ some d) :
    LiveDevice (perform op ch s).2 d := by
  rcases h with ⟨row, hrow, hid, hlive⟩
  rcases perform_devices_cases op ch s with
    hsame | ⟨new, rfl, _, _, hmem⟩ | ⟨id, rfl, hdone, hmem⟩
  · exact ⟨row, by rw [hsame]; exact hrow, hid, hlive⟩
  · exact ⟨row, (hmem row).2 (.inl hrow), hid, hlive⟩
  · have hne : row.id ≠ id := by
      intro heq
      rw [hdone] at hkeep
      exact hkeep (congrArg some (heq.symm.trans hid))
    exact ⟨row, (hmem row).2 ⟨row, hrow, by simp [hne]⟩, hid, hlive⟩

/-- Requests that have not failed have a live device, once they have created one; and once one of
them has stored it, the attempt names a live device. -/
structure DeviceInv (attemptId : String) (h : History (registering attemptId)) : Prop where
  answered : h.Answered
  created : ∀ j d, h.threw j = false → Smooth (h.own j) → createdDevice? (h.own j) = some d →
    LiveDevice h.state d
  stored : ∀ j, h.threw j = false → Smooth (h.own j) → StoresDevice (h.own j) →
    NamesLive h.state attemptId

section Step

variable {attemptId : String} {h : History (registering attemptId)} {i : Nat} {op : Op} {ch : Choice}

/-- A rollback leaves the devices of the requests that go on. -/
theorem created_kept (hI : DeviceInv attemptId h) (hattr : h.Attributed)
    (hop : RegisterAwaits attemptId (h.own i) op)
    (hC : Undisturbed h ⟨⟨op, ((registering attemptId).perform op ch h.state).1⟩, i⟩) {j : Nat}
    {d : String} (hthrew : h.threw j = false) (hsmooth : Smooth (h.own j))
    (hcreated : createdDevice? (h.own j) = some d) : LiveDevice (perform op ch h.state).2 d := by
  refine (hI.created j d hthrew hsmooth hcreated).perform fun hdeleted => ?_
  have hji : j ≠ i := by
    rintro rfl
    cases op with
    | softDeleteDevice id =>
        exact hop.failed hsmooth
    | _ => cases hdeleted
  have hlt : j < h.requests.length := by
    by_contra hge
    rw [hattr.own_eq_nil (Nat.le_of_not_lt hge)] at hcreated
    cases hcreated
  exact (hC.2 d hdeleted j hlt hji hthrew).1 hcreated

/-- After a save the attempt names a live device, if it did before or if the request has a device
to store. -/
theorem save_namesLive (hI : DeviceInv attemptId h) (hi : h.threw i = false)
    {saved : RegistrationAttempt} (hop : RegisterAwaits attemptId (h.own i) (.saveAttempt saved))
    (hC : Undisturbed h
      ⟨⟨.saveAttempt saved, ((registering attemptId).perform (.saveAttempt saved) ch h.state).1⟩, i⟩)
    (hdone : (perform (.saveAttempt saved) ch h.state).1 = .ok ())
    (hmem : saved ∈ (perform (.saveAttempt saved) ch h.state).2.attempts)
    (hneed : NamesLive h.state attemptId ∨ (Smooth (h.own i) ∧ ¬ StoresDevice (h.own i))) :
    NamesLive (perform (.saveAttempt saved) ch h.state).2 attemptId := by
  rcases hop.saved with ⟨before, read, hown, hid, hdevice⟩
  have hevent : (⟨.findAttempt attemptId, .ok (some read)⟩ : Awaited sig HttpError) ∈ h.own i := by
    rw [hown]
    exact List.mem_append_right _ List.mem_cons_self
  have hreadId : read.id = attemptId := by
    rcases hI.answered.own hevent with ⟨ch, s, hres⟩
    exact (findAttempt_some hres).2.1
  have hsavedId : saved.id = attemptId := hid.trans hreadId
  rcases hdevice with ⟨hsmooth, d, hcreated, hd⟩ | ⟨hkeep, hstored⟩
  · have hlive := hI.created i d hi hsmooth hcreated
    exact ⟨saved, hmem, hsavedId, d, hd, hlive.perform (by simp [deletedDevice?])⟩
  · rcases hneed with ⟨a, ha, haId, d, had, hlive⟩ | ⟨hsmooth, hnot⟩
    · have hread : lastRead? (h.own i) = some read := by
        rw [hown]
        exact lastRead?_concat before attemptId read
      have hsame := hC.1 saved (savedAttempt?_ok hdone) read hread hkeep a ha
        (haId.trans hsavedId.symm)
      have hd : saved.deviceProfileId = some d := hkeep.trans (hsame.symm.trans had)
      exact ⟨saved, hmem, hsavedId, d, hd, hlive.perform (by simp [deletedDevice?])⟩
    · exact absurd (hstored hsmooth) hnot

/-- The attempt goes on naming a live device. -/
theorem stored_kept (hI : DeviceInv attemptId h) (hattr : h.Attributed)
    (hop : RegisterAwaits attemptId (h.own i) op) (hi : h.threw i = false)
    (hC : Undisturbed h ⟨⟨op, ((registering attemptId).perform op ch h.state).1⟩, i⟩) {j : Nat}
    (hthrew : h.threw j = false) (hsmooth : Smooth (h.own j)) (hstores : StoresDevice (h.own j)) :
    NamesLive (perform op ch h.state).2 attemptId := by
  rcases hI.stored j hthrew hsmooth hstores with ⟨a, ha, hid, d, hdevice, hlive⟩
  -- A device that is taken away is not named by an attempt.
  have hkept : LiveDevice (perform op ch h.state).2 d := by
    refine hlive.perform fun hdeleted => ?_
    have hji : j ≠ i := by
      rintro rfl
      cases op with
      | softDeleteDevice id => exact hop.failed hsmooth
      | _ => cases hdeleted
    have hlt : j < h.requests.length := by
      by_contra hge
      rw [hattr.own_eq_nil (Nat.le_of_not_lt hge)] at hstores
      rcases hstores with ⟨_, hnone, _⟩
      cases hnone
    exact (hC.2 d hdeleted j hlt hji hthrew).2 ⟨a, ha, hid, hdevice⟩ hstores
  -- The row is as it was, or has been saved with a live device.
  rcases perform_attempts_cases op ch h.state with
    hsame | ⟨new, rfl, _, _, hmem⟩ | ⟨saved, rfl, hdone, hmem⟩ | ⟨id, rfl, hmem⟩
  · refine ⟨a, ?_, hid, d, hdevice, hkept⟩
    rw [hsame]
    exact ha
  · exact ⟨a, (hmem a).2 (.inl ha), hid, d, hdevice, hkept⟩
  · have hsaved : saved ∈ (perform (.saveAttempt saved) ch h.state).2.attempts :=
      (hmem saved).2 (.inl rfl)
    exact save_namesLive hI hi hop hC hdone hsaved (.inl ⟨a, ha, hid, d, hdevice, hlive⟩)
  · refine ⟨_, (hmem _).2 ⟨a, ha, rfl⟩, ?_, d, ?_, hkept⟩
    · split
      · exact hid
      · exact hid
    · split
      · exact hdevice
      · exact hdevice

/-- A device that a request creates is live. -/
theorem inserted_live {d : String}
    (hinserted : insertedDevice? ⟨op, (perform op ch h.state).1⟩ = some d) :
    LiveDevice (perform op ch h.state).2 d := by
  cases op with
  | insertDevice new =>
      rcases perform_insertDevice new ch h.state with ⟨e, hp⟩ | ⟨t, hp, _, hmem⟩
      · rw [hp] at hinserted
        cases hinserted
      · rw [hp] at hinserted ⊢
        cases hinserted
        exact ⟨new.row ch.freshId, (hmem _).2 (.inr rfl), rfl, rfl⟩
  | _ => cases hinserted

theorem deviceInv_perform (hI : DeviceInv attemptId h) (hattr : h.Attributed)
    {r : (registering attemptId).Request} (hr : h.requests[i]? = some r)
    (hop : Config.Awaits (fun _ => RegisterAwaits attemptId) r (h.own i) op)
    (hC : Undisturbed h ⟨⟨op, ((registering attemptId).perform op ch h.state).1⟩, i⟩) :
    DeviceInv attemptId (h.perform i op ch) := by
  have hi : h.threw i = false := by simp [History.threw, hop.outcome hr]
  refine ⟨hI.answered.perform i op ch, ?_, ?_⟩
  · intro j d hthrew hsmooth hcreated
    have hbefore : h.threw j = false := hop.threw hr hthrew
    by_cases hji : j = i
    · subst hji
      rw [History.perform_own_self] at hsmooth hcreated
      rcases createdDevice?_concat.1 hcreated with hold | ⟨_, hnew⟩
      · exact created_kept hI hattr hop.1 hC hbefore (smooth_concat.1 hsmooth).1 hold
      · exact inserted_live hnew
    · rw [History.perform_own_ne _ _ _ hji] at hsmooth hcreated
      exact created_kept hI hattr hop.1 hC hbefore hsmooth hcreated
  · intro j hthrew hsmooth hstores
    have hbefore : h.threw j = false := hop.threw hr hthrew
    by_cases hji : j = i
    · subst hji
      rw [History.perform_own_self] at hsmooth hstores
      by_cases hold : StoresDevice (h.own j)
      · exact stored_kept hI hattr hop.1 hi hC hbefore (smooth_concat.1 hsmooth).1 hold
      · rcases hop.1.stores hold hstores with ⟨saved, rfl, hsaved⟩
        rcases perform_saveAttempt saved ch h.state with ⟨e, hp⟩ | ⟨t, hp, _, hmem⟩
        · rw [registering_perform, hp] at hsaved
          cases hsaved
        · have hrow : saved ∈ (perform (.saveAttempt saved) ch h.state).2.attempts := by
            rw [hp]
            exact (hmem saved).2 (.inl rfl)
          have hown := (smooth_concat.1 hsmooth).1
          exact save_namesLive hI hi hop.1 hC (congrArg Prod.fst hp) hrow (.inr ⟨hown, hold⟩)
    · rw [History.perform_own_ne _ _ _ hji] at hsmooth hstores
      exact stored_kept hI hattr hop.1 hi hC hbefore hsmooth hstores

end Step

theorem deviceInv_run (attemptId : String) (s : Store) (as : List (Action (registering attemptId)))
    (hC : Config.Meets Undisturbed (Config.initial (registering attemptId) s) as) :
    DeviceInv attemptId ((Config.initial (registering attemptId) s).run as).toHistory := by
  refine Config.run_induction (Config.follows_awaits follows_registering) ?_ ?_ ?_ as hC
  · intro h r hattr hI
    exact ⟨hI.answered, fun j d hthrew => hI.created j d (History.threw_start hthrew),
      fun j hthrew => hI.stored j (History.threw_start hthrew)⟩
  · exact fun h i r op ch hattr hI hr hop hC => deviceInv_perform hI hattr hr hop hC
  · refine ⟨fun e he => ?_, fun j d _ _ hcreated => ?_, fun j _ _ hstores => ?_⟩
    · simp [Config.initial] at he
    · cases hcreated
    · rcases hstores with ⟨d, hcreated, _⟩
      cases hcreated

/-- An attempt whose user has been created. -/
def provisionedStore : Store :=
  sampleStore [attemptAt .KEYCLOAK_USER_CREATED (some "user-1") none] [] [] []

def registerPhone : (registering "attempt-1").Request :=
  ⟨⟨"attempt-1", "phone-1", none⟩, rfl⟩

/-- One registration, from its start to its end. -/
def soloRegister : List (Action (registering "attempt-1")) :=
  .start registerPhone :: List.replicate 6 (.resume 0 (.smooth "device-1"))

/-- Two registrations: the second reads the attempt before the first begins, and fails to insert its
device when the first is done. -/
def overlappingRegisters : List (Action (registering "attempt-1")) :=
  [.start registerPhone, .start registerPhone, .resume 1 (.smooth "")] ++
  List.replicate 6 (.resume 0 (.smooth "device-1")) ++
  [.resume 1 (.failing "connection lost")] ++
  List.replicate 5 (.resume 1 (.smooth ""))

end Auth
end IdentityBillpay
