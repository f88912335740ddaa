import IdentityBillpay.Auth.Blocking

/-!
# Completion — which attempts can still be completed

`resume` names the request that an attempt needs next. Once its OTP has been verified, and whatever
has happened to it since, either following `resume` completes an attempt, or nothing does.

* `Choice.Able` — an environment in which nothing fails, and new ids are new;
* `createCredentials_stores`, `registerDevice_stores`, `complete_stores` — one request after the
  other gets an attempt on;
* `remainingRequests` — the requests that `resume` names from a step on;
* `completed_iff` — the condition.
-/

namespace IdentityBillpay
namespace Auth

open Async Keycloak RegistrationStep
open RegistrationService (customer)

variable {config : OtpConfig}

/-! ## Following `resume` -/

/-- Nothing fails, and a new id is not empty and no device has it. -/
structure Choice.Able (s : Store) (ch : Choice) : Prop extends Choice.Good s ch where
  named : ch.freshId ≠ ""
  unused : ∀ d ∈ s.devices, d.id ≠ ch.freshId

/-- `s'` has the attempt, and the users and the devices of `s`. -/
structure Stores (saved : RegistrationAttempt) (s s' : Store) : Prop where
  stored : saved ∈ s'.attempts
  realm : s'.realm = s.realm
  devices : s'.devices = s.devices

section Following

variable {s₀ s : Store} {a : RegistrationAttempt}

theorem saveAttempt_stores (saved : RegistrationAttempt) (ha : a ∈ s.attempts)
    (hid : a.id = saved.id) (hfits : saved.fits = true) :
    Ensures (working s₀) (fun _ => True) (fun s' r => r = .ok () ∧ Stores saved s s') s
      (call (.saveAttempt saved)) := by
  rcases Sql.Table.exists_save? ha hid hid with ⟨t, ht⟩
  have hdone : ∀ ch : (working s₀).Choice, (working s₀).perform (.saveAttempt saved) ch s =
      (.ok (), { s with attempts := t }) := by
    intro ch
    simp [perform, saveAttempt?, hfits, ht, write, ch.2.done]
  intro ch
  refine ⟨trivial, ensures_settled.2 ?_⟩
  rw [hdone]
  exact ⟨rfl, (Sql.Table.mem_save? ht).2 (.inl rfl), rfl, rfl⟩

theorem advance_stores (toStep : RegistrationStep) (ha : a ∈ s.attempts)
    (hlive : a.deletedAt = none) (hfits : a.fits = true)
    (hnext : indexOf toStep.text = indexOf a.currentStep + 1) :
    Ensures (working s₀) (fun _ => True)
      (fun s' r => (∃ a', r = .ok a') ∧ Stores { a with currentStep := toStep.text } s s') s
      (RegistrationOrchestratorService.advance a.id toStep) := by
  have hread : ∀ ch : (working s₀).Choice,
      (working s₀).perform (.findAttempt a.id) ch s = (.ok (some a), s) :=
    fun ch => findAttempt_stored ha hlive ch.1
  refine ensures_call_bind (fun _ => trivial) (fun ch e he => ?_) fun ch found hfound => ?_
  · rw [hread] at he
    cases he
  · rw [hread] at hfound ⊢
    cases hfound
    dsimp only
    rw [if_neg (not_not.2 hnext)]
    have hsave := @saveAttempt_stores s₀ s a { a with currentStep := toStep.text } ha rfl hfits
    refine hsave.bind (fun s₁ _ hs => ⟨⟨_, rfl⟩, hs.2⟩) fun s₁ e hs => ?_
    cases hs.1

/-- The attempt as `createCredentials` leaves it, with a user that is there. -/
def HasOwnUser (a : RegistrationAttempt) (step : RegistrationStep) (s : Store) : Prop :=
  ∃ userId : String, userId.length ≤ 36 ∧ (∃ u ∈ s.realm.users, u.id = userId) ∧
    { a with keycloakUserId := some userId, currentStep := step.text } ∈ s.attempts

theorem fits_withUser {userId : String} (hfits : a.fits = true) (hshort : userId.length ≤ 36)
    (step : String) : RegistrationAttempt.fits
      { a with keycloakUserId := some userId, currentStep := step } = true := by
  rw [RegistrationAttempt.fits_iff] at hfits ⊢
  exact ⟨hfits.1, hshort, hfits.2.2⟩

/-- The `try` block at `CREDENTIALS_SET`. -/
theorem provision_stores (password : String) (hrealm : s.realm = s₀.realm) (ha : a ∈ s.attempts)
    (hlive : a.deletedAt = none) (hfits : a.fits = true)
    (hstep : a.currentStep = CREDENTIALS_SET.text)
    (hrole : ∃ role ∈ s.realm.roles, role.name = "RETAIL_CUSTOMER")
    (hfree : ¬ Taken a.mobileNumber s) :
    Ensures (working s₀) (fun _ => True)
      (fun s' r => r = .ok () ∧ HasOwnUser a CREDENTIALS_SET s') s
      (RegistrationService.provision ⟨a.id, password⟩ a.mobileNumber) := by
  have hfree' : ∀ u ∈ s.realm.users, u.username ≠ a.mobileNumber :=
    fun u hu hname => hfree ⟨u, hu, hname⟩
  refine (createUser_ensures (customer a.mobileNumber password) hrealm hfree').bind ?_
    fun s₁ e h => by rcases h with ⟨_, he, _⟩; cases he
  rintro s₁ userId ⟨_, huserId, hshort, huser₁⟩
  cases huserId
  refine (assignRealmRole_ensures huser₁ hrole).bind ?_ fun s₂ e h => by cases h.1
  rintro s₂ _ ⟨_, huser₂⟩
  have ha₂ : a ∈ s₂.attempts := huser₂.attempts ▸ ha
  refine (findOne_recovers ha₂ hlive).bind ?_ fun s₃ e h => by cases h.1
  rintro s₃ updated ⟨hupdated, rfl⟩
  cases hupdated
  have hsame : { a with keycloakUserId := some userId, currentStep := CREDENTIALS_SET.text } =
      { a with keycloakUserId := some userId } := by rw [← hstep]
  have hsave := @saveAttempt_stores s₀ s₃ a { a with keycloakUserId := some userId } ha₂ rfl
    (hsame ▸ fits_withUser hfits hshort _)
  refine hsave.mono fun s₄ r hs => ⟨hs.1, userId, hshort, ?_, ?_⟩
  · rw [hs.2.realm]
    exact huser₂.exists_user
  · rw [hsame]
    exact hs.2.stored

theorem markCredentialsSet_stores (dto : CreateCredentialsDto) (hdto : dto.attemptId = a.id)
    (ha : a ∈ s.attempts) (hlive : a.deletedAt = none) (hfits : a.fits = true)
    (hstep : a.currentStep = OTP_VERIFIED.text ∨ a.currentStep = CREDENTIALS_SET.text) :
    Ensures (working s₀) (fun _ => True)
      (fun s' r => r = .ok () ∧ Stores { a with currentStep := CREDENTIALS_SET.text } s s') s
      (RegistrationService.markCredentialsSet dto a) := by
  rcases hstep with hstep | hstep
  · unfold RegistrationService.markCredentialsSet
    rw [if_pos hstep, hdto]
    refine (advance_stores CREDENTIALS_SET ha hlive hfits ?_).bind (fun s₁ _ hs => ⟨rfl, hs.2⟩) ?_
    · rw [hstep]
      decide
    · rintro s₁ e ⟨⟨_, he⟩, _⟩
      cases he
  · have hsame : { a with currentStep := CREDENTIALS_SET.text } = a := by rw [← hstep]
    rw [markCredentialsSet_retry hstep, hsame]
    exact ⟨rfl, ha, rfl, rfl⟩

/-- The first of the remaining requests, at either of its two steps. -/
theorem createCredentials_stores (password : String) (ha : a ∈ s₀.attempts)
    (hlive : a.deletedAt = none) (hfits : a.fits = true)
    (hstep : a.currentStep = OTP_VERIFIED.text ∨ a.currentStep = CREDENTIALS_SET.text)
    (hrole : ∃ role ∈ s₀.realm.roles, role.name = "RETAIL_CUSTOMER")
    (hfree : ¬ Taken a.mobileNumber s₀) :
    Ensures (working s₀) (fun _ => True) (fun s' _ => HasOwnUser a KEYCLOAK_USER_CREATED s') s₀
      (RegistrationService.createCredentials ⟨a.id, password⟩) := by
  refine (findOne_recovers ha hlive).bind ?_ fun s₁ e h => by cases h.1
  rintro s₁ attempt ⟨hattempt, hsame⟩
  cases hattempt
  rw [hsame]
  unfold RegistrationService.requireCredentialsStep
  rw [if_neg fun h => hstep.elim h.1 h.2, pure_bind]
  refine (markCredentialsSet_stores ⟨a.id, password⟩ rfl ha hlive hfits hstep).bind ?_
    fun s₂ e h => by cases h.1
  rintro s₂ _ ⟨_, hmarked⟩
  have hprovision := @provision_stores s₀ s₂ { a with currentStep := CREDENTIALS_SET.text } password
    hmarked.realm hmarked.stored hlive hfits rfl (hmarked.realm ▸ hrole)
    (fun htaken => hfree (by rwa [Taken, hmarked.realm] at htaken))
  have htry : Ensures (working s₀) (fun _ => True)
      (fun s' r => r = .ok () ∧ HasOwnUser a CREDENTIALS_SET s') s₂
      ((RegistrationService.provision ⟨a.id, password⟩ a.mobileNumber).handle
        (RegistrationService.failed a.id CREDENTIALS_SET)) :=
    hprovision.handle (fun _ _ h => h) fun s₃ e h => by cases h.1
  refine htry.bind ?_ fun s₃ e h => by cases h.1
  rintro s₃ _ ⟨_, userId, hshort, huser, hstored⟩
  have hnext : indexOf KEYCLOAK_USER_CREATED.text = indexOf CREDENTIALS_SET.text + 1 := by decide
  refine (advance_stores KEYCLOAK_USER_CREATED hstored hlive (fits_withUser hfits hshort _)
    hnext).mono ?_
  rintro s₄ r ⟨_, hs⟩
  exact ⟨userId, hshort, hs.realm ▸ huser, hs.stored⟩

theorem fits_withDevice {d : String} (hfits : a.fits = true) (hshort : d.length ≤ 36)
    (step : String) : RegistrationAttempt.fits
      { a with deviceProfileId := some d, currentStep := step } = true := by
  rw [RegistrationAttempt.fits_iff] at hfits ⊢
  exact ⟨hfits.1, hfits.2.1, hshort⟩

/-- A device gets an id that is new, so its row is accepted. -/
theorem createDevice_stores (dto : RegisterDeviceDto) (huser : dto.userId.length ≤ 255)
    (hdevice : dto.deviceId.length ≤ 255) (hmodel : (dto.deviceModel.getD "").length ≤ 255) :
    Ensures (backend.restrict (Choice.Able s₀)) (fun _ => True)
      (fun s' r => s'.attempts = s₀.attempts ∧
        ∃ device : DeviceProfile, r = .ok device ∧ device.id.length ≤ 36) s₀
      (DeviceService.create dto) := by
  have hdone : ∀ ch : (backend.restrict (Choice.Able s₀)).Choice, ∃ t,
      perform (.insertDevice ⟨dto.userId, dto.deviceId, dto.deviceModel, false⟩) ch.1 s₀ =
        (.ok ch.1.freshId, { s₀ with devices := t }) := by
    intro ch
    have hfresh : ∀ d ∈ s₀.devices, d.id ≠ ch.1.freshId := ch.2.unused
    rcases Sql.Table.exists_insert? (r := NewDevice.row
      ⟨dto.userId, dto.deviceId, dto.deviceModel, false⟩ ch.1.freshId) hfresh hfresh with ⟨t, ht⟩
    refine ⟨t, ?_⟩
    simp [perform, insertDevice?, NewDevice.fits, huser, hdevice, hmodel, ht, write, ch.2.done]
  refine ensures_call_bind (fun _ => trivial) (fun ch e he => ?_) fun ch id hid => ?_
  · rcases hdone ch with ⟨t, ht⟩
    cases (congrArg Prod.fst ht).symm.trans he
  · rcases hdone ch with ⟨t, ht⟩
    cases (congrArg Prod.fst ht).symm.trans hid
    refine ⟨?_, _, rfl, ch.2.short⟩
    exact congrArg (Store.attempts ∘ Prod.snd) ht

/-- The attempt as `registerDevice` leaves it. -/
def HasDevice (a : RegistrationAttempt) (step : RegistrationStep) (s : Store) : Prop :=
  ∃ d : String, d.length ≤ 36 ∧
    { a with deviceProfileId := some d, currentStep := step.text } ∈ s.attempts

theorem registerDevice_stores (dto : RegisterAttemptDeviceDto) (hdto : dto.attemptId = a.id)
    (hdevice : dto.deviceId.length ≤ 255) (hmodel : (dto.deviceModel.getD "").length ≤ 255)
    (ha : a ∈ s₀.attempts) (hlive : a.deletedAt = none) (hfits : a.fits = true)
    (hstep : a.currentStep = KEYCLOAK_USER_CREATED.text) {userId : String}
    (huser : truthy? a.keycloakUserId = some userId) (hshort : userId.length ≤ 255) :
    Ensures (backend.restrict (Choice.Able s₀)) (fun _ => True)
      (fun s' _ => HasDevice a DEVICE_REGISTERED s') s₀
      (RegistrationService.registerDevice dto) := by
  have hclose : ∀ ch, Choice.Able s₀ ch → Choice.Good s₀ ch := fun ch h => h.toGood
  unfold RegistrationService.registerDevice
  rw [hdto]
  refine ((findOne_recovers ha hlive).restrict hclose).bind ?_ fun s₁ e h => by cases h.1
  rintro s₁ attempt ⟨hattempt, hsame⟩
  cases hattempt
  rw [hsame]
  unfold RegistrationService.requireStep
  rw [if_neg (not_not.2 hstep), pure_bind, huser]
  have hlink : Ensures (backend.restrict (Choice.Able s₀)) (fun _ => True)
      (fun s' r => r = .ok () ∧ HasDevice a KEYCLOAK_USER_CREATED s') s₀
      (RegistrationService.linkDevice dto userId) := by
    unfold RegistrationService.linkDevice
    rw [hdto]
    refine (createDevice_stores ⟨userId, dto.deviceId, dto.deviceModel⟩ hshort hdevice hmodel).bind
      ?_ fun s₂ e h => by rcases h with ⟨_, _, he, _⟩; cases he
    rintro s₂ device ⟨hattempts, _, hcreated, hid⟩
    cases hcreated
    have ha₂ : a ∈ s₂.attempts := hattempts ▸ ha
    refine ((findOne_recovers ha₂ hlive).restrict hclose).bind ?_ fun s₃ e h => by cases h.1
    rintro s₃ updated ⟨hupdated, hsame₃⟩
    cases hupdated
    rw [hsame₃]
    have hkept :
        { a with deviceProfileId := some device.id, currentStep := KEYCLOAK_USER_CREATED.text } =
          { a with deviceProfileId := some device.id } := by rw [← hstep]
    have hsave := @saveAttempt_stores s₀ s₂ a { a with deviceProfileId := some device.id } ha₂ rfl
      (hkept ▸ fits_withDevice hfits hid _)
    refine (hsave.restrict hclose).mono fun s₄ r hs => ⟨hs.1, device.id, hid, ?_⟩
    rw [hkept]
    exact hs.2.stored
  have htry : Ensures (backend.restrict (Choice.Able s₀)) (fun _ => True)
      (fun s' r => r = .ok () ∧ HasDevice a KEYCLOAK_USER_CREATED s') s₀
      ((RegistrationService.linkDevice dto userId).handle
        (RegistrationService.failed a.id DEVICE_REGISTERED)) :=
    hlink.handle (fun _ _ h => h) fun s₃ e h => by cases h.1
  refine htry.bind ?_ fun s₃ e h => by cases h.1
  rintro s₃ _ ⟨_, d, hid, hstored⟩
  have hnext : indexOf DEVICE_REGISTERED.text = indexOf KEYCLOAK_USER_CREATED.text + 1 := by decide
  refine ((advance_stores DEVICE_REGISTERED hstored hlive (fits_withDevice hfits hid _)
    hnext).restrict hclose).mono ?_
  exact fun s₄ r hs => ⟨d, hid, hs.2.stored⟩

theorem complete_stores (ha : a ∈ s₀.attempts) (hlive : a.deletedAt = none)
    (hfits : a.fits = true) (hstep : a.currentStep = DEVICE_REGISTERED.text) :
    Ensures (working s₀) (fun _ => True)
      (fun s' _ => { a with currentStep := COMPLETED.text } ∈ s'.attempts) s₀
      (RegistrationService.complete a.id) := by
  refine (findOne_recovers ha hlive).bind ?_ fun s₁ e h => by cases h.1
  rintro s₁ attempt ⟨hattempt, hsame⟩
  cases hattempt
  rw [hsame]
  unfold RegistrationService.requireStep
  rw [if_neg (not_not.2 hstep), pure_bind]
  refine (advance_stores COMPLETED ha hlive hfits ?_).bind (fun s₂ _ hs => hs.2.stored)
    fun s₂ e hs => hs.2.stored
  rw [hstep]
  decide

end Following

/-! ## The requests that remain -/

/-- The requests that `resume` names one after the other, from a step after the OTP on. -/
def remainingRequests (password : String) (dto : RegisterAttemptDeviceDto) (step : String) :
    List Request :=
  if step = OTP_VERIFIED.text ∨ step = CREDENTIALS_SET.text then
    [.createCredentials ⟨dto.attemptId, password⟩, .registerDevice dto, .complete dto.attemptId]
  else if step = KEYCLOAK_USER_CREATED.text then [.registerDevice dto, .complete dto.attemptId]
  else if step = DEVICE_REGISTERED.text then [.complete dto.attemptId]
  else []

/-- The attempt with this id is stored at its last step. -/
def IsCompleted (id : String) (s : Store) : Prop :=
  ∃ a ∈ s.attempts, a.id = id ∧ a.currentStep = COMPLETED.text

/-- Every call of the list meets an environment in which nothing fails. -/
abbrev AbleCalls (s : Store) (calls : List (Call (service config))) : Prop :=
  (service config).Complies (fun s c => ∀ n, (c.choices n).Able s) s calls

section Remaining

variable {s : Store} {a : RegistrationAttempt} {dto : RegisterAttemptDeviceDto} {password : String}
  {calls : List (Call (service config))}

/-- What a request ensures within limits, a call within them brings about. -/
theorem answer_ensures {limits : Choice → Prop} {Q : Store → Prop} {c : Call (service config)}
    {r : Request} (hr : c.request = r) (hlimits : ∀ n, limits (c.choices n))
    (hens : Ensures (backend.restrict limits) (fun _ => True) (fun s' _ => Q s') s
      (program config r)) : Q ((service config).answer s c).state := by
  subst hr
  exact hens.exec_within hlimits

/-- Ids that are not empty stay so. -/
theorem ids_kept {α : Type} (p : Prog α) (hids : ∀ u ∈ s.realm.users, u.id ≠ "") :
    Ensures (backend.restrict fun ch : Choice => ch.freshId ≠ "") (fun _ => True)
      (fun s' _ => ∀ u ∈ s'.realm.users, u.id ≠ "") s p := by
  refine Ensures.weaken (I := fun s : Store => ∀ u ∈ s.realm.users, u.id ≠ "")
    (ensures_kept (Program.follows_trivial [] p) ?_ hids) fun _ _ => trivial
  intro op ch s _ hs u' hu'
  rcases (perform_users op ch.1 s).known u' hu' with ⟨u, hu, hid⟩ | hid
  · rw [← hid]
    exact hs u hu
  · rw [hid]
    exact ch.2

theorem truthy?_some {column : Option String} {x : String} (h : truthy? column = some x) :
    column = some x :=
  (Option.filter_eq_some_iff.1 h).1

theorem completes_complete (ha : a ∈ s.attempts) (hlive : a.deletedAt = none)
    (hfits : a.fits = true) (hstep : a.currentStep = DEVICE_REGISTERED.text)
    (hcalls : calls.map Call.request = [.complete a.id]) (hable : AbleCalls s calls) :
    IsCompleted a.id ((service config).serve s calls) := by
  rcases List.map_eq_cons_iff.1 hcalls with ⟨c, rest, rfl, hr, hrest⟩
  rw [List.map_eq_nil_iff.1 hrest]
  have hdone := answer_ensures hr (fun n => (hable.1 n).toGood)
    (ensures_reply (complete_stores ha hlive hfits hstep) _)
  exact ⟨_, hdone, rfl, rfl⟩

theorem completes_registerDevice (hdto : dto.attemptId = a.id) (hdevice : dto.deviceId.length ≤ 255)
    (hmodel : (dto.deviceModel.getD "").length ≤ 255) (ha : a ∈ s.attempts)
    (hlive : a.deletedAt = none) (hfits : a.fits = true)
    (hstep : a.currentStep = KEYCLOAK_USER_CREATED.text) (huser : truthy? a.keycloakUserId ≠ none)
    (hcalls : calls.map Call.request = [.registerDevice dto, .complete a.id])
    (hable : AbleCalls s calls) : IsCompleted a.id ((service config).serve s calls) := by
  rcases Option.ne_none_iff_exists'.1 huser with ⟨userId, huserId⟩
  have hshort : userId.length ≤ 255 := by
    have hcolumn := (RegistrationAttempt.fits_iff.1 hfits).2.1
    rw [truthy?_some huserId] at hcolumn
    exact le_trans hcolumn (by decide)
  rcases List.map_eq_cons_iff.1 hcalls with ⟨c, rest, rfl, hr, hrest⟩
  have hdone := answer_ensures hr hable.1 (ensures_reply
    (registerDevice_stores dto hdto hdevice hmodel ha hlive hfits hstep huserId hshort) _)
  rcases hdone with ⟨d, hd, hstored⟩
  exact completes_complete (s := ((service config).answer s c).state)
    (a := { a with deviceProfileId := some d, currentStep := DEVICE_REGISTERED.text }) hstored hlive
    (fits_withDevice hfits hd _) rfl hrest hable.2

theorem completes_createCredentials (hdto : dto.attemptId = a.id)
    (hdevice : dto.deviceId.length ≤ 255) (hmodel : (dto.deviceModel.getD "").length ≤ 255)
    (ha : a ∈ s.attempts) (hlive : a.deletedAt = none) (hfits : a.fits = true)
    (hstep : a.currentStep = OTP_VERIFIED.text ∨ a.currentStep = CREDENTIALS_SET.text)
    (hrole : ∃ role ∈ s.realm.roles, role.name = "RETAIL_CUSTOMER")
    (hids : ∀ u ∈ s.realm.users, u.id ≠ "") (hfree : ¬ Taken a.mobileNumber s)
    (hcalls : calls.map Call.request =
      [.createCredentials ⟨a.id, password⟩, .registerDevice dto, .complete a.id])
    (hable : AbleCalls s calls) : IsCompleted a.id ((service config).serve s calls) := by
  rcases List.map_eq_cons_iff.1 hcalls with ⟨c, rest, rfl, hr, hrest⟩
  have hdone := answer_ensures hr (fun n => (hable.1 n).toGood) (ensures_reply
    (createCredentials_stores password ha hlive hfits hstep hrole hfree) _)
  rcases hdone with ⟨userId, hshort, ⟨u, hu, rfl⟩, hstored⟩
  -- The id of the user is the id of some user, and none of them is empty.
  have hnamed : u.id ≠ "" :=
    answer_ensures hr (fun n => (hable.1 n).named) (ids_kept (program config _) hids) u hu
  refine completes_registerDevice (s := ((service config).answer s c).state) (a := { a with
    keycloakUserId := some u.id, currentStep := KEYCLOAK_USER_CREATED.text }) hdto hdevice hmodel
    hstored hlive (fits_withUser hfits hshort _) rfl ?_ hrest hable.2
  simp [truthy?, hnamed]

end Remaining

/-! ## After any run -/

/-- The step is one of the order. -/
def KnownStep (a : RegistrationAttempt) : Prop :=
  ∃ step : RegistrationStep, a.currentStep = step.text

/-- What is stored, and what has been read, is at a known step. -/
structure StepsKnown (h : History (service config)) : Prop where
  stored : ∀ a ∈ h.state.attempts, KnownStep a
  read : ∀ i id a,
    (⟨.findAttempt id, .ok (some a)⟩ : Awaited sig HttpError) ∈ h.own i → KnownStep a

theorem RegistrationAttempt.Changes.known {a a' : RegistrationAttempt} (h : a.Changes a')
    (ha : KnownStep a) : KnownStep a' := by
  cases h with
  | @step toStep _ _ => exact ⟨toStep, rfl⟩
  | user userId => exact ha
  | device deviceId => exact ha
  | reason message => exact ha

theorem stepsKnown_perform {h : History (service config)} {i : Nat} {r : Request} {op : Op}
    {ch : Choice} (hI : StepsKnown h) (hop : Awaits config r (h.own i) op) :
    StepsKnown (h.perform i op ch) := by
  refine ⟨fun x hx => ?_, fun j id a hmem => ?_⟩
  · rcases perform_attempts_cases op ch h.state with
      hsame | ⟨new, rfl, _, _, hmem⟩ | ⟨saved, rfl, _, hmem⟩ | ⟨id, rfl, hmem⟩
    · rw [History.perform_state, service_perform, hsame] at hx
      exact hI.stored x hx
    · rcases (hmem x).1 hx with hold | rfl
      · exact hI.stored x hold
      · exact ⟨INIT, awaits_insertAttempt hop⟩
    · rcases (hmem x).1 hx with rfl | ⟨hold, _⟩
      · rcases awaits_saveAttempt hop with ⟨before, key, read, hown, hchange, _⟩
        exact hchange.known (hI.read i key read (by rw [hown]; simp))
      · exact hI.stored x hold
    · rcases (hmem x).1 hx with ⟨a, ha, rfl⟩
      have hknown := hI.stored a ha
      split
      · exact hknown
      · exact hknown
  · rcases History.mem_perform.1 (History.mem_own.1 hmem) with hold | ⟨_, _, hres⟩
    · exact hI.read j id a (History.mem_own.2 hold)
    · exact hI.stored a (findAttempt_some hres).1

theorem stepsKnown_run (config : OtpConfig) (s : Store) (hinit : ∀ a ∈ s.attempts, KnownStep a)
    (as : List (Action (service config))) :
    StepsKnown ((Config.initial (service config) s).run as).toHistory := by
  refine Config.run_induction (I := StepsKnown) (follows_program config)
    (fun _ _ _ hI => ⟨hI.stored, hI.read⟩) (fun _ _ _ _ _ _ hI _ hop _ => stepsKnown_perform hI hop)
    ⟨hinit, fun i id a hmem => ?_⟩ as (Config.meets_trivial _ as)
  cases hmem

/-- After any run of overlapping requests, whatever has failed in it: a live attempt that has got
past its OTP is completed by the requests that `resume` names, answered in an environment in which
nothing fails, unless it is blocked; and when it is blocked, no requests at all complete it. -/
theorem completed_iff (config : OtpConfig) (s₀ : Store)
    (hinit : ∀ a ∈ s₀.attempts, a.fits = true ∧ KnownStep a) (as : List (Action (service config)))
    (a : RegistrationAttempt) (password : String) (dto : RegisterAttemptDeviceDto)
    (hdto : dto.attemptId = a.id) (hdevice : dto.deviceId.length ≤ 255)
    (hmodel : (dto.deviceModel.getD "").length ≤ 255) :
    let s := ((Config.initial (service config) s₀).run as).state
    a ∈ s.attempts → a.deletedAt = none → a.currentStep ≠ INIT.text →
    (∃ role ∈ s.realm.roles, role.name = "RETAIL_CUSTOMER") →
    (∀ u ∈ s.realm.users, u.id ≠ "") →
    (¬ Blocked s a → ∀ calls : List (Call (service config)),
      calls.map Call.request = remainingRequests password dto a.currentStep → AbleCalls s calls →
        IsCompleted a.id ((service config).serve s calls)) ∧
    (Blocked s a → ∀ calls : List (Call (service config)),
      ¬ IsCompleted a.id ((service config).serve s calls)) := by
  intro s ha hlive hverified hrole hids
  have hfits : a.fits = true :=
    attempts_fit config s₀ (fun x hx => (hinit x hx).1) as a ha
  constructor
  · intro hfree calls hcalls hable
    rcases (stepsKnown_run config s₀ (fun x hx => (hinit x hx).2) as).stored a ha with ⟨step, hstep⟩
    have hnumber : indexOf step.text < indexOf KEYCLOAK_USER_CREATED.text →
        ¬ Taken a.mobileNumber s :=
      fun hbefore htaken => hfree (.inl ⟨by rw [hstep]; exact hbefore, htaken⟩)
    cases step with
    | INIT => exact absurd hstep hverified
    | OTP_VERIFIED =>
        exact completes_createCredentials hdto hdevice hmodel ha hlive hfits (.inl hstep) hrole hids
          (hnumber (by decide)) (by rw [hcalls, hstep, ← hdto]; rfl) hable
    | CREDENTIALS_SET =>
        exact completes_createCredentials hdto hdevice hmodel ha hlive hfits (.inr hstep) hrole hids
          (hnumber (by decide)) (by rw [hcalls, hstep, ← hdto]; rfl) hable
    | KEYCLOAK_USER_CREATED =>
        exact completes_registerDevice hdto hdevice hmodel ha hlive hfits hstep
          (fun huser => hfree (.inr ⟨hstep, huser⟩)) (by rw [hcalls, hstep, ← hdto]; rfl) hable
    | DEVICE_REGISTERED =>
        exact completes_complete ha hlive hfits hstep (by rw [hcalls, hstep, ← hdto]; rfl) hable
    | COMPLETED =>
        have hnil : calls = [] := List.map_eq_nil_iff.1 (by rw [hcalls, hstep]; rfl)
        rw [hnil]
        exact ⟨a, ha, rfl, hstep⟩
  · rintro hblocked calls ⟨a', ha', hid, hdone⟩
    have hstuck : Blocked ((service config).serve s calls) a' :=
      (blocked_stays ⟨a, ha, rfl, hblocked⟩ calls).blocked ha' hid
    rcases hstuck with ⟨hbefore, _⟩ | ⟨hcreated, _⟩
    · rw [hdone] at hbefore
      exact absurd hbefore (by decide)
    · rw [hdone] at hcreated
      exact absurd hcreated (by decide)

theorem smooth_able {s : Store} {freshId : String} (hfresh : ∀ u ∈ s.realm.users, u.id ≠ freshId)
    (hshort : freshId.length ≤ 36) (hnamed : freshId ≠ "")
    (hunused : ∀ d ∈ s.devices, d.id ≠ freshId) : (Choice.smooth freshId).Able s :=
  ⟨smooth_good hfresh hshort, hnamed, hunused⟩

def phoneOne : RegisterAttemptDeviceDto :=
  ⟨"attempt-1", "phone-1", none⟩

/-- The three requests that are left after a failure of `createCredentials`. -/
def remainingCalls : List (Call (service sampleConfig)) :=
  [⟨.createCredentials ⟨"attempt-1", "secret"⟩, fun _ => .smooth "user-2"⟩,
    ⟨.registerDevice phoneOne, fun _ => .smooth "device-1"⟩,
    ⟨.complete "attempt-1", fun _ => .smooth "unused"⟩]

/-- A failure before the user was created can be made up for; one after that cannot. -/
theorem completed_iff_failingToken :
    let s := ((Config.initial (service sampleConfig) freshStore).run (failingAt 3)).state
    let s' := ((Config.initial (service sampleConfig) freshStore).run (failingAt 7)).state
    IsCompleted "attempt-1" ((service sampleConfig).serve s remainingCalls) ∧
      ∀ calls, ¬ IsCompleted "attempt-1" ((service sampleConfig).serve s' calls) := by
  refine ⟨?_, ?_⟩
  · refine (completed_iff sampleConfig freshStore (fun a ha => by cases ha) (failingAt 3) leftBehind
      "secret" phoneOne rfl (by decide) (by decide) (by decide) rfl (by decide) (by decide)
      (by decide)).1 (by decide) remainingCalls rfl ?_
    exact ⟨fun _ => smooth_able (by decide) (by decide) (by decide) (by decide),
      fun _ => smooth_able (by decide) (by decide) (by decide) (by decide),
      fun _ => smooth_able (by decide) (by decide) (by decide) (by decide), trivial⟩
  · exact (completed_iff sampleConfig freshStore (fun a ha => by cases ha) (failingAt 7) leftBehind
      "secret" phoneOne rfl (by decide) (by decide) (by decide) rfl (by decide) (by decide)
      (by decide)).2 (by decide)

end Auth
end IdentityBillpay
