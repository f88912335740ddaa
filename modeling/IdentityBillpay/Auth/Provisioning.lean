import IdentityBillpay.Async.Hoare
import IdentityBillpay.Auth.Forward
import IdentityBillpay.Auth.Possession

/-!
# Provisioning — what the step of an attempt says about users and devices

Requests that do not overlap, and in which every call may fail at any point. From
`KEYCLOAK_USER_CREATED` on, the user of an attempt has been created and given its role by a
`createCredentials` on this attempt; from `DEVICE_REGISTERED` on, its device has been created by a
`registerDevice` on this attempt, belongs to that user, and is live.

* `Truthful`, `SagaInv` — the invariant; `sagaInv_perform` — which operations keep it;
* `createCredentials_ensures`, `registerDevice_ensures` — the two steps keep it, wherever they fail;
* `saga_tells_the_truth` — the law.
-/

namespace IdentityBillpay
namespace Auth

open Async Keycloak RegistrationStep
open Async.Program (Follows)
open RegistrationService (customer)

variable {config : OtpConfig}

/-! ## What has been provisioned -/

/-- A `createCredentials` on the attempt has created the user `userId` with the attempt's number,
and has then given it the role of customers. -/
def UserProvisioned (h : History (service config)) (a : RegistrationAttempt) (userId : String) :
    Prop :=
  ∃ i dto us bs, h.requests[i]? = some (.createCredentials dto) ∧ dto.attemptId = a.id ∧
    us ++ bs <:+: h.own i ∧
    (createUser http (customer a.mobileNumber dto.password)).Finishes us (.ok userId) ∧
    (assignRealmRoleToUser http userId "RETAIL_CUSTOMER").Finishes bs (.ok ())

/-- Request `i` has created the device. -/
def Creates (h : History (service config)) (i : Nat) (d : String) : Prop :=
  ∃ new, (⟨.insertDevice new, .ok d⟩ : Awaited sig HttpError) ∈ h.own i

/-- A `registerDevice` on the attempt has created the device. -/
def DeviceCreated (h : History (service config)) (attemptId d : String) : Prop :=
  ∃ i dto, h.requests[i]? = some (.registerDevice dto) ∧ dto.attemptId = attemptId ∧ Creates h i d

/-- The device of the attempt is live, and belongs to the user of the attempt. -/
def LinkedDevice (h : History (service config)) (a : RegistrationAttempt) : Prop :=
  ∃ row ∈ h.state.devices, a.deviceProfileId = some row.id ∧
    a.keycloakUserId = some row.userId ∧ row.deletedAt = none

/-- From `step` on. -/
def Reached (step : RegistrationStep) (a : RegistrationAttempt) : Prop :=
  indexOf step.text ≤ indexOf a.currentStep

theorem not_reached {a : RegistrationAttempt} {step now : RegistrationStep}
    (hnow : a.currentStep = now.text) (hlt : indexOf now.text < indexOf step.text) :
    ¬ Reached step a := by
  unfold Reached
  rw [hnow]
  exact Int.not_le.2 hlt

/-- A row that says nothing but what has happened. -/
structure Truthful (h : History (service config)) (a : RegistrationAttempt) : Prop where
  step : ∃ step : RegistrationStep, a.currentStep = step.text
  user : ∀ userId, a.keycloakUserId = some userId → UserProvisioned h a userId
  userSet : Reached KEYCLOAK_USER_CREATED a → a.keycloakUserId ≠ none
  device : ∀ d, a.deviceProfileId = some d → DeviceCreated h a.id d
  deviceLive : Reached DEVICE_REGISTERED a → LinkedDevice h a

/-- Every stored attempt is truthful; a device that has been created is stored, and no other
request has created it too. -/
structure SagaInv (h : History (service config)) : Prop where
  truthful : ∀ a ∈ h.state.attempts, Truthful h a
  stored : ∀ i d, Creates h i d → ∃ row ∈ h.state.devices, row.id = d
  once : ∀ i j d, Creates h i d → Creates h j d → i = j

section Step

variable {h : History (service config)} {i : Nat} {op : Op} {ch : Choice} {a : RegistrationAttempt}

theorem UserProvisioned.grows {h' : History (service config)} {userId : String}
    (hu : UserProvisioned h a userId) (hg : h.Grows h') : UserProvisioned h' a userId := by
  rcases hu with ⟨j, dto, us, bs, hr, hid, hown, hus, hbs⟩
  exact ⟨j, dto, us, bs, hg.requests j _ hr, hid, hown.trans (hg.own j).isInfix, hus, hbs⟩

theorem DeviceCreated.grows {h' : History (service config)} {attemptId d : String}
    (hd : DeviceCreated h attemptId d) (hg : h.Grows h') : DeviceCreated h' attemptId d := by
  rcases hd with ⟨j, dto, hr, hid, new, hmem⟩
  exact ⟨j, dto, hg.requests j _ hr, hid, new, (hg.own j).subset hmem⟩

/-- A row stays truthful when the run goes on, as long as its registered device stays. -/
theorem Truthful.grows {h' : History (service config)} (ha : Truthful h a) (hg : h.Grows h')
    (hlive : Reached DEVICE_REGISTERED a → LinkedDevice h a → LinkedDevice h' a) :
    Truthful h' a := by
  refine ⟨ha.step, fun u hu => (ha.user u hu).grows hg, ha.userSet, ?_, ?_⟩
  · exact fun d hd => (ha.device d hd).grows hg
  · exact fun hreached => hlive hreached (ha.deviceLive hreached)

/-- A device that counts as created after an operation was created before, or by it. -/
theorem creates_perform {j : Nat} {d : String} (hd : Creates (h.perform i op ch) j d) :
    Creates h j d ∨ (j = i ∧ ∃ new, op = .insertDevice new ∧
      (perform (.insertDevice new) ch h.state).1 = .ok d) := by
  rcases hd with ⟨new, hmem⟩
  rcases History.mem_perform.1 (History.mem_own.1 hmem) with hold | ⟨hji, hop, hres⟩
  · exact .inl ⟨new, History.mem_own.2 hold⟩
  · exact .inr ⟨hji, new, hop.symm, hres.symm⟩

theorem Truthful.perform (ha : Truthful h a)
    (hdelete : ∀ d, op = .softDeleteDevice d → Reached DEVICE_REGISTERED a →
      a.deviceProfileId ≠ some d) : Truthful (h.perform i op ch) a := by
  refine ha.grows (h.grows_perform i op ch) fun hreached hlinked => ?_
  rcases hlinked with ⟨row, hrow, hdevice, huser, hlive⟩
  refine ⟨row, ?_, hdevice, huser, hlive⟩
  rcases perform_devices_cases op ch h.state with
    hsame | ⟨new, rfl, _, _, hmem⟩ | ⟨id, rfl, _, hmem⟩
  · rw [History.perform_state, service_perform, hsame]
    exact hrow
  · exact (hmem row).2 (.inl hrow)
  · have hne : row.id ≠ id := fun heq => hdelete id rfl hreached (hdevice.trans (congrArg some heq))
    exact (hmem row).2 ⟨row, hrow, by simp [hne]⟩

/-- An operation keeps the invariant if what it inserts is at `INIT`, what it saves is truthful, and
the device it soft-deletes is no registered one. -/
theorem sagaInv_perform (hI : SagaInv h)
    (hinsert : ∀ new, op = .insertAttempt new → new.currentStep = INIT.text)
    (hsave : ∀ saved, op = .saveAttempt saved → Truthful h saved)
    (hdelete : ∀ d, op = .softDeleteDevice d → ∀ x ∈ h.state.attempts,
      Reached DEVICE_REGISTERED x → x.deviceProfileId ≠ some d) :
    SagaInv (h.perform i op ch) := by
  have hkept : ∀ x ∈ h.state.attempts, Truthful (h.perform i op ch) x :=
    fun x hx => (hI.truthful x hx).perform fun d hd => hdelete d hd x hx
  refine ⟨?_, ?_, ?_⟩
  · -- A written row is truthful by what its operation allows.
    intro x hx
    rcases perform_attempts_cases op ch h.state with
      hsame | ⟨new, rfl, _, _, hmem⟩ | ⟨saved, rfl, _, hmem⟩ | ⟨id, rfl, hmem⟩
    · rw [History.perform_state, service_perform, hsame] at hx
      exact hkept x hx
    · rcases (hmem x).1 hx with hold | rfl
      · exact hkept x hold
      · have hinit := hinsert new rfl
        refine ⟨⟨INIT, hinit⟩, fun u hu => (by cases hu), ?_,
          fun d hd => (by cases hd), ?_⟩
        · exact fun hreached => absurd hreached (not_reached hinit (by decide))
        · exact fun hreached => absurd hreached (not_reached hinit (by decide))
    · rcases (hmem x).1 hx with rfl | ⟨hold, _⟩
      · exact (hsave _ rfl).perform fun d hd => by cases hd
      · exact hkept x hold
    · rcases (hmem x).1 hx with ⟨y, hy, rfl⟩
      have hyk := hkept y hy
      split
      · exact ⟨hyk.step, hyk.user, hyk.userSet, hyk.device, hyk.deviceLive⟩
      · exact hyk
  · -- A device that a trace has created is stored.
    intro j d hd
    rcases creates_perform hd with hold | ⟨_, new, rfl, hdone⟩
    · exact perform_keeps_device (hI.stored j d hold)
    · rcases perform_insertDevice new ch h.state with ⟨e, hp⟩ | ⟨t, hp, _, hmem⟩
      · rw [hp] at hdone
        cases hdone
      · rw [hp] at hdone
        cases hdone
        refine ⟨new.row ch.freshId, ?_, rfl⟩
        rw [History.perform_state, service_perform, hp]
        exact (hmem _).2 (.inr rfl)
  · -- A new device is none of those stored before.
    have hfresh : ∀ {j d new}, Creates h j d →
        (perform (.insertDevice new) ch h.state).1 = .ok d → False := by
      intro j d new hold hdone
      rcases perform_insertDevice new ch h.state with ⟨e, hp⟩ | ⟨t, hp, hfresh, _⟩
      · rw [hp] at hdone
        cases hdone
      · rw [hp] at hdone
        cases hdone
        rcases hI.stored j _ hold with ⟨row, hrow, hid⟩
        exact hfresh row hrow hid
    intro j k d hj hk
    rcases creates_perform hj with hold | ⟨hji, new, rfl, hnew⟩
    · rcases creates_perform hk with hold' | ⟨_, new, rfl, hnew⟩
      · exact hI.once j k d hold hold'
      · exact (hfresh hold hnew).elim
    · rcases creates_perform hk with hold' | ⟨hki, _, _, _⟩
      · exact (hfresh hold' hnew).elim
      · exact hji.trans hki.symm

end Step

/-! ## Parts of a request -/

/-- Every stored row of the attempt satisfies `φ`. -/
def Row (h : History (service config)) (id : String) (φ : RegistrationAttempt → Prop) : Prop :=
  ∀ a ∈ h.state.attempts, a.id = id → φ a

/-- `h'` goes on from `h`, with the same attempts and devices. -/
structure SameRows (h h' : History (service config)) : Prop where
  inv : SagaInv h'
  grows : h.Grows h'
  attempts : h'.state.attempts = h.state.attempts
  devices : h'.state.devices = h.state.devices

/-- No write to an attempt or to a device. -/
def Op.Idle (op : Op) : Prop :=
  op.part ≠ some .attempts ∧ op.part ≠ some .devices

section Parts

variable {h h' : History (service config)} {i : Nat} {id : String} {a : RegistrationAttempt}
  {φ : RegistrationAttempt → Prop}

theorem SameRows.refl (hI : SagaInv h) : SameRows h h :=
  ⟨hI, .refl h, rfl, rfl⟩

theorem SameRows.row (hsame : SameRows h h') (hrow : Row h id φ) : Row h' id φ := by
  unfold Row
  rw [hsame.attempts]
  exact hrow

theorem SameRows.linked (hsame : SameRows h h') (hlinked : LinkedDevice h a) :
    LinkedDevice h' a := by
  unfold LinkedDevice
  rw [hsame.devices]
  exact hlinked

theorem SameRows.idle (hsame : SameRows h h') {op : Op} (hop : op.Idle) (ch : Choice) :
    SameRows h (h'.perform i op ch) := by
  refine ⟨sagaInv_perform hsame.inv ?_ ?_ ?_, hsame.grows.trans (h'.grows_perform i op ch), ?_, ?_⟩
  · rintro new rfl
    exact absurd rfl hop.1
  · rintro saved rfl
    exact absurd rfl hop.1
  · rintro d rfl
    exact absurd rfl hop.2
  · exact (perform_attempts_eq hop.1 ch h'.state).trans hsame.attempts
  · exact (perform_devices_eq hop.2 ch h'.state).trans hsame.devices

theorem follows_idle {own : Own} {op : Op} (hop : op.Idle) :
    Follows (fun _ (op : Op) => op.Idle) (fun _ _ => True) own (call op) :=
  Program.follows_call hop

/-- A part that writes neither attempts nor devices, and the events it goes through. -/
theorem idle_ensures {α : Type} {p : Prog α} {R : Own → Except HttpError α → Prop}
    (hI : SagaInv h) (hp : Follows (fun _ (op : Op) => op.Idle) R (h.own i) p) :
    Ensures ((service config).alone i) SagaInv
      (fun h' r => SameRows h h' ∧ ∃ as, h'.own i = h.own i ++ as ∧ p.Finishes as r) h p := by
  have hkeep := Ensures.of_follows (V := service config) (I := SameRows h) hp.finishes
    (.refl hI) fun h' op ch hop hsame => hsame.idle hop ch
  exact (hkeep.mono fun h' r hr => ⟨hr.1, hr.2.2⟩).weaken fun _ hsame => hsame.inv

theorem findAttempt_ensures {α : Type} {f : Option RegistrationAttempt → Prog α}
    {Q : History (service config) → Except HttpError α → Prop} (hI : SagaInv h)
    (hnone : ∀ h', SameRows h h' → Ensures ((service config).alone i) SagaInv Q h' (f none))
    (hsome : ∀ h' a, SameRows h h' → a ∈ h'.state.attempts → a.id = id →
      Ensures ((service config).alone i) SagaInv Q h' (f (some a))) :
    Ensures ((service config).alone i) SagaInv Q h (call (.findAttempt id) >>= f) := by
  have hsame : ∀ ch, SameRows h (h.perform i (.findAttempt id) ch) :=
    fun ch => (SameRows.refl hI).idle ⟨by simp [Op.part], by simp [Op.part]⟩ ch
  refine ensures_call_bind (fun ch => (hsame ch).inv) ?_ ?_
  · intro ch e he
    cases he
  · intro ch found hfound
    cases (found : Option RegistrationAttempt) with
    | none => exact hnone _ (hsame ch)
    | some a =>
        have hread := findAttempt_some hfound.symm
        exact hsome _ a (hsame ch) hread.1 hread.2.1

theorem findOne_ensures (hI : SagaInv h) :
    Ensures ((service config).alone i) SagaInv
      (fun h' r => SameRows h h' ∧ ∀ a, r = .ok a → a ∈ h'.state.attempts ∧ a.id = id) h
      (RegistrationService.findOne id) := by
  refine findAttempt_ensures hI (fun h' hsame => ⟨hsame, fun a ha => by cases ha⟩) ?_
  intro h' a hsame hmem hid
  refine ⟨hsame, fun a' ha' => ?_⟩
  cases ha'
  exact ⟨hmem, hid⟩

/-- What a save of `a` leaves: nothing has changed, or `a` stands in the place of its row. -/
structure Saved (a : RegistrationAttempt) (h h' : History (service config))
    (r : Except HttpError Unit) : Prop where
  inv : SagaInv h'
  grows : h.Grows h'
  devices : h'.state.devices = h.state.devices
  rows : (h'.state.attempts = h.state.attempts ∧ r ≠ .ok ()) ∨
    ∀ x, x ∈ h'.state.attempts ↔ x = a ∨ (x ∈ h.state.attempts ∧ x.id ≠ a.id)

theorem saveAttempt_ensures (hI : SagaInv h) (ha : Truthful h a) :
    Ensures ((service config).alone i) SagaInv (fun h' r => Saved a h h' r) h
      (call (.saveAttempt a)) := by
  have hinv : ∀ ch, SagaInv (h.perform i (.saveAttempt a) ch) := by
    intro ch
    refine sagaInv_perform hI (fun _ hop => by cases hop) ?_ fun _ hop => by cases hop
    intro saved hop
    cases hop
    exact ha
  refine ensures_call hinv fun ch => ⟨hinv ch, h.grows_perform i _ ch, ?_, ?_⟩
  · exact perform_devices_eq (by simp [Op.part]) ch h.state
  · rcases perform_saveAttempt a ch h.state with ⟨e, hp⟩ | ⟨t, hp, _, hmem⟩
    · left
      rw [alone_perform, History.perform_state, service_perform, hp]
      exact ⟨rfl, by simp⟩
    · right
      rw [alone_perform, History.perform_state, service_perform, hp]
      exact hmem

/-- After a save of the attempt that succeeds, its row is the saved one. -/
theorem Saved.row {r : Except HttpError Unit} (hsaved : Saved a h h' r) (hr : r = .ok ())
    (hid : a.id = id) (hφ : φ a) : Row h' id φ := by
  rcases hsaved.rows with ⟨_, hnot⟩ | hrows
  · exact absurd hr hnot
  · intro x hx hxid
    rcases (hrows x).1 hx with rfl | ⟨_, hne⟩
    · exact hφ
    · exact absurd (hxid.trans hid.symm) hne

/-- However it ends, what held of the row before and holds of the saved one holds after it. -/
theorem Saved.row_kept {r : Except HttpError Unit} (hsaved : Saved a h h' r) (hφ : φ a)
    (hrow : Row h id φ) : Row h' id φ := by
  intro x hx hxid
  rcases hsaved.rows with ⟨hsame, _⟩ | hrows
  · rw [hsame] at hx
    exact hrow x hx hxid
  · rcases (hrows x).1 hx with rfl | ⟨hx, _⟩
    · exact hφ
    · exact hrow x hx hxid

/-- One step on, a row reaches a step that it had reached before, or the step it is moved to. -/
theorem reached_advance {toStep step : RegistrationStep}
    (hnext : indexOf toStep.text = indexOf a.currentStep + 1)
    (hreached : Reached step { a with currentStep := toStep.text }) :
    Reached step a ∨ toStep = step := by
  unfold Reached at *
  rcases Int.lt_or_eq_of_le hreached with hlt | heq
  · left
    dsimp only at hlt
    omega
  · exact .inr (indexOf_injective heq).symm

/-- A truthful row may be moved one step on, to the two late steps only with what they stand for. -/
theorem Truthful.advance {toStep : RegistrationStep} (ha : Truthful h a)
    (hnext : indexOf toStep.text = indexOf a.currentStep + 1)
    (huser : toStep = KEYCLOAK_USER_CREATED → a.keycloakUserId ≠ none)
    (hdevice : toStep = DEVICE_REGISTERED → LinkedDevice h a) :
    Truthful h { a with currentStep := toStep.text } := by
  refine ⟨⟨toStep, rfl⟩, ha.user, fun hreached => ?_, ha.device, fun hreached => ?_⟩
  · exact (reached_advance hnext hreached).elim ha.userSet huser
  · exact (reached_advance hnext hreached).elim ha.deviceLive hdevice

theorem Truthful.same (ha : Truthful h a) (hsame : SameRows h h') : Truthful h' a :=
  ha.grows hsame.grows fun _ => hsame.linked

/-- What `advance` leaves of the row of its attempt. -/
def AdvancedRow (h : History (service config)) (id : String) (toStep : RegistrationStep)
    (x : RegistrationAttempt) : Prop :=
  ∃ a ∈ h.state.attempts, a.id = id ∧ (x = a ∨ x = { a with currentStep := toStep.text })

theorem advance_ensures {toStep : RegistrationStep} (hI : SagaInv h)
    (huser : toStep = KEYCLOAK_USER_CREATED → Row h id fun a => a.keycloakUserId ≠ none)
    (hdevice : toStep = DEVICE_REGISTERED → Row h id (LinkedDevice h)) :
    Ensures ((service config).alone i) SagaInv
      (fun h' _ => SagaInv h' ∧ h.Grows h' ∧ Row h' id (AdvancedRow h id toStep)) h
      (RegistrationOrchestratorService.advance id toStep) := by
  have hbefore : ∀ h', SameRows h h' → Row h' id (AdvancedRow h id toStep) :=
    fun h' hsame => hsame.row fun x hx hxid => ⟨x, hx, hxid, .inl rfl⟩
  refine findAttempt_ensures hI (fun h' hsame => ⟨hsame.inv, hsame.grows, hbefore h' hsame⟩) ?_
  intro h' a hsame hmem hid
  rw [hsame.attempts] at hmem
  dsimp only
  split
  · exact ⟨hsame.inv, hsame.grows, hbefore h' hsame⟩
  · rename_i hnext
    have htruthful : Truthful h' { a with currentStep := toStep.text } :=
      ((hI.truthful a hmem).advance (not_not.1 hnext) (fun heq => huser heq a hmem hid)
        fun heq => hdevice heq a hmem hid).same hsame
    have hdone : AdvancedRow h id toStep { a with currentStep := toStep.text } :=
      ⟨a, hmem, hid, .inr rfl⟩
    refine (saveAttempt_ensures hsame.inv htruthful).bind ?_ ?_
    · exact fun h'' _ hsaved => ⟨hsaved.inv, hsame.grows.trans hsaved.grows,
        hsaved.row_kept hdone (hbefore h' hsame)⟩
    · exact fun h'' _ hsaved => ⟨hsaved.inv, hsame.grows.trans hsaved.grows,
        hsaved.row_kept hdone (hbefore h' hsame)⟩

/-- A failed step notes its reason, and rolls back. -/
theorem failed_ensures {atStep : RegistrationStep} (error : HttpError) (hI : SagaInv h)
    (hφ : ∀ (a : RegistrationAttempt) reason, φ a → φ { a with failureReason := reason })
    (hrow : Row h id φ)
    (hrollback : ∀ h', SagaInv h' → Row h' id φ → Ensures ((service config).alone i) SagaInv
      (fun h' _ => SagaInv h') h' (RegistrationCompensationService.rollback id atStep)) :
    Ensures ((service config).alone i) SagaInv (fun h' r => SagaInv h' ∧ ∃ e, r = .error e) h
      (RegistrationService.failed id atStep error) := by
  have hfail : Ensures ((service config).alone i) SagaInv (fun h' _ => SagaInv h') h
      (RegistrationOrchestratorService.fail id atStep error.message) := by
    refine findAttempt_ensures hI (fun h' hsame => hrollback h' hsame.inv (hsame.row hrow)) ?_
    intro h' a hsame hmem hid
    have ha := hsame.inv.truthful a hmem
    have hreason : Truthful h' { a with failureReason := some error.message } :=
      ⟨ha.step, ha.user, ha.userSet, ha.device, ha.deviceLive⟩
    have hrow' := hsame.row hrow
    refine (saveAttempt_ensures hsame.inv hreason).bind ?_ fun h'' e hsaved => hsaved.inv
    intro h'' _ hsaved
    exact hrollback h'' hsaved.inv (hsaved.row_kept (hφ a _ (hrow' a hmem hid)) hrow')
  exact hfail.bind (fun h' _ hI' => ⟨hI', error, rfl⟩) fun h' e hI' => ⟨hI', e, rfl⟩

end Parts

/-! ## Creating the user -/

section Credentials

variable {h : History (service config)} {i : Nat} {dto : CreateCredentialsDto}

theorem follows_idleHttp (own : Own) (op : KeycloakOp) :
    Follows (fun _ (op : Op) => op.Idle) (fun _ _ => True) own (http op) :=
  follows_idle ⟨by simp [Op.part], by simp [Op.part]⟩

theorem rollbackCredentials_ensures {id : String} (hI : SagaInv h) :
    Ensures ((service config).alone i) SagaInv (fun h' _ => SagaInv h') h
      (RegistrationCompensationService.rollback id CREDENTIALS_SET) := by
  refine findAttempt_ensures hI (fun h' hsame => hsame.inv) fun h' a hsame _ _ => ?_
  dsimp only
  split
  · rename_i userId _
    have hidle : Follows (fun _ (op : Op) => op.Idle) (fun _ _ => True) (h'.own i)
        (CredentialService.softDeleteByKeycloakUserId userId) := by
      refine (follows_idle ⟨by simp [Op.part], by simp [Op.part]⟩).andThen ?_
      intro own credential
      cases (credential : Option Credential) with
      | none => trivial
      | some credential => exact follows_idle ⟨by simp [Op.part], by simp [Op.part]⟩
    exact (idle_ensures hsame.inv hidle).handle (fun h'' _ hs => hs.1.inv) fun h'' _ hs => hs.1.inv
  · exact hsame.inv

/-- The `try` block: once it has resolved, the attempt has a user. -/
theorem provision_ensures {mobileNumber : String} (hI : SagaInv h)
    (hr : h.requests[i]? = some (.createCredentials dto))
    (hrow : Row h dto.attemptId fun a => a.mobileNumber = mobileNumber ∧
      ¬ Reached DEVICE_REGISTERED a) :
    Ensures ((service config).alone i) SagaInv
      (fun h' r => SagaInv h' ∧
        (r = .ok () → Row h' dto.attemptId fun a => a.keycloakUserId ≠ none)) h
      (RegistrationService.provision dto mobileNumber) := by
  -- `createUser`.
  have hcreate := follows_createUser (h.own i) follows_idleHttp (customer mobileNumber dto.password)
  refine (idle_ensures hI hcreate).bind ?_ fun h₁ e hs => ⟨hs.1.inv, by simp⟩
  rintro h₁ userId ⟨hsame₁, us, hown₁, hus⟩
  -- `assignRealmRoleToUser`, and then the row is read once more.
  have hassign := follows_assignRealmRoleToUser (h₁.own i) (fun own op _ => follows_idleHttp own op)
    userId "RETAIL_CUSTOMER"
  refine (idle_ensures hsame₁.inv hassign).bind ?_ fun h₂ e hs => ⟨hs.1.inv, by simp⟩
  rintro h₂ _ ⟨hsame₂, bs, hown₂, hbs⟩
  refine (findOne_ensures hsame₂.inv).bind ?_ fun h₃ e hs => ⟨hs.1.inv, by simp⟩
  rintro h₃ updated ⟨hsame₃, hread⟩
  rcases hread updated rfl with ⟨hmem, hid⟩
  have hknown := hsame₃.row (hsame₂.row (hsame₁.row hrow)) updated hmem hid
  have hgrows := (hsame₁.grows.trans hsame₂.grows).trans hsame₃.grows
  have hevents : us ++ bs <:+: h₃.own i := by
    have hsegment : us ++ bs <:+: h₂.own i := by
      rw [hown₂, hown₁, List.append_assoc]
      exact (List.suffix_append _ _).isInfix
    exact hsegment.trans (hsame₃.grows.own i).isInfix
  -- The row names the user that this request has created.
  have hprovisioned : Truthful h₃ { updated with keycloakUserId := some userId } := by
    have hold := hsame₃.inv.truthful updated hmem
    refine ⟨hold.step, fun u hu => ?_, fun _ => by simp, hold.device, ?_⟩
    · cases hu
      refine ⟨i, dto, us, bs, hgrows.requests i _ hr, hid.symm, hevents, ?_, hbs⟩
      rw [hknown.1]
      exact hus
    · exact fun hreached => absurd hreached hknown.2
  refine (saveAttempt_ensures hsame₃.inv hprovisioned).mono fun h₄ r hsaved => ⟨hsaved.inv, ?_⟩
  exact fun hok => hsaved.row hok hid (by simp)

/-- The attempt has the number that has been read, and no device yet. -/
def Unregistered (mobileNumber : String) (a : RegistrationAttempt) : Prop :=
  a.mobileNumber = mobileNumber ∧ ¬ Reached DEVICE_REGISTERED a

theorem markCredentialsSet_ensures {attempt : RegistrationAttempt} {mobileNumber : String}
    (hI : SagaInv h) (hrow : Row h dto.attemptId (Unregistered mobileNumber)) :
    Ensures ((service config).alone i) SagaInv
      (fun h' _ => SagaInv h' ∧ h.Grows h' ∧ Row h' dto.attemptId (Unregistered mobileNumber)) h
      (RegistrationService.markCredentialsSet dto attempt) := by
  have hpost : ∀ h' : History (service config), Row h' dto.attemptId (AdvancedRow h dto.attemptId CREDENTIALS_SET) →
      Row h' dto.attemptId (Unregistered mobileNumber) := by
    intro h' hadvanced x hx hxid
    rcases hadvanced x hx hxid with ⟨a, ha, hid, rfl | rfl⟩
    · exact hrow _ ha hid
    · exact ⟨(hrow a ha hid).1, @not_reached _ DEVICE_REGISTERED CREDENTIALS_SET rfl (by decide)⟩
  unfold RegistrationService.markCredentialsSet
  split
  · refine (advance_ensures hI (fun heq => by cases heq) fun heq => by cases heq).bind ?_ ?_
    · exact fun h' _ hs => ⟨hs.1, hs.2.1, hpost h' hs.2.2⟩
    · exact fun h' _ hs => ⟨hs.1, hs.2.1, hpost h' hs.2.2⟩
  · exact ⟨hI, .refl h, hrow⟩

/-- `createCredentials` keeps the invariant, wherever it fails. -/
theorem createCredentials_ensures (hI : SagaInv h)
    (hr : h.requests[i]? = some (.createCredentials dto)) :
    Ensures ((service config).alone i) SagaInv (fun _ _ => True) h
      (RegistrationService.createCredentials dto) := by
  refine (findOne_ensures hI).bind ?_ fun _ _ _ => trivial
  rintro h₁ attempt ⟨hsame₁, hread⟩
  rcases hread attempt rfl with ⟨hmem, hid⟩
  unfold RegistrationService.requireCredentialsStep
  -- The attempt is at OTP_VERIFIED or CREDENTIALS_SET, before the device in any case.
  split
  · trivial
  · rename_i hstep
    rw [pure_bind]
    have hearly : ¬ Reached DEVICE_REGISTERED attempt := by
      by_cases hverified : attempt.currentStep = OTP_VERIFIED.text
      · exact not_reached hverified (by decide)
      · have hset : attempt.currentStep = CREDENTIALS_SET.text := by
          by_contra hne
          exact hstep ⟨hverified, hne⟩
        exact not_reached hset (by decide)
    have hrow₁ : Row h₁ dto.attemptId (Unregistered attempt.mobileNumber) := by
      intro a ha haid
      rw [Sql.Table.eq_of_id ha hmem (haid.trans hid.symm)]
      exact ⟨rfl, hearly⟩
    -- `markCredentialsSet`.
    refine (markCredentialsSet_ensures hsame₁.inv hrow₁).bind ?_ fun _ _ _ => trivial
    rintro h₂ _ ⟨hI₂, hgrows₂, hrow₂⟩
    have hr₂ := hgrows₂.requests i _ (hsame₁.grows.requests i _ hr)
    have hprovision : Ensures ((service config).alone i) SagaInv
        (fun h' r => SagaInv h' ∧
          (r = .ok () → Row h' dto.attemptId fun a => a.keycloakUserId ≠ none)) h₂
        ((RegistrationService.provision dto attempt.mobileNumber).handle
          (RegistrationService.failed dto.attemptId CREDENTIALS_SET)) := by
      -- A failed provisioning is rolled back and thrown again.
      refine (provision_ensures hI₂ hr₂ hrow₂).handle (fun h' _ hs => hs) fun h' e hs => ?_
      refine (failed_ensures (φ := fun _ => True) e hs.1 (fun _ _ h => h) (fun _ _ _ => trivial)
        fun h'' hI'' _ => rollbackCredentials_ensures hI'').mono ?_
      rintro h'' r ⟨hI'', e, rfl⟩
      exact ⟨hI'', fun hok => by cases hok⟩
    refine hprovision.bind ?_ fun _ _ _ => trivial
    intro h₃ _ hs
    exact (advance_ensures hs.1 (fun _ => hs.2 rfl) fun heq => by cases heq).mono
      fun _ _ _ => trivial

end Credentials

/-! ## Creating the device -/

section Device

variable {h : History (service config)} {i : Nat} {dto : RegisterAttemptDeviceDto}

/-- The attempt has the user `userId` and waits for its device. -/
def AwaitsDevice (userId : String) (a : RegistrationAttempt) : Prop :=
  a.currentStep = KEYCLOAK_USER_CREATED.text ∧ a.keycloakUserId = some userId

/-- A rollback soft-deletes no registered device: what the attempt names has been created for it. -/
theorem rollbackDevice_ensures {id userId : String} (hI : SagaInv h)
    (hrow : Row h id (AwaitsDevice userId)) :
    Ensures ((service config).alone i) SagaInv (fun h' _ => SagaInv h') h
      (RegistrationCompensationService.rollback id DEVICE_REGISTERED) := by
  refine findAttempt_ensures hI (fun h' hsame => hsame.inv) fun h₁ a hsame₁ hmem hid => ?_
  dsimp only
  split
  · rename_i d hd
    have hd : a.deviceProfileId = some d := (Option.filter_eq_some_iff.1 hd).1
    have hfind : Follows (fun _ (op : Op) => op.Idle) (fun _ _ => True) (h₁.own i)
        (DeviceService.findOne d) := by
      refine (follows_idle ⟨by simp [Op.part], by simp [Op.part]⟩).andThen fun own device => ?_
      cases (device : Option DeviceProfile) with
      | none => trivial
      | some device => trivial
    have hkept : ∀ h₂, SameRows h₁ h₂ → ∀ ch, SagaInv (h₂.perform i (.softDeleteDevice d) ch) := by
      intro h₂ hsame₂ ch
      refine sagaInv_perform hsame₂.inv (fun _ hop => by cases hop) (fun _ hop => by cases hop) ?_
      intro d' hop x hx hreached hxd
      cases hop
      rw [hsame₂.attempts] at hx
      -- The device has been created for `x` and for the attempt, so they are the same row.
      rcases (hsame₁.inv.truthful x hx).device d hxd with ⟨j, dto, hr, hxid, hj⟩
      rcases (hsame₁.inv.truthful a hmem).device d hd with ⟨k, dto', hr', haid, hk⟩
      have hjk := hsame₁.inv.once j k d hj hk
      subst hjk
      rw [hr] at hr'
      cases hr'
      have hsame : x = a := Sql.Table.eq_of_id hx hmem (hxid.symm.trans haid)
      have hknown := hsame₁.row hrow a hmem hid
      exact not_reached hknown.1 (by decide) (hsame ▸ hreached)
    have hdelete : Ensures ((service config).alone i) SagaInv (fun h' _ => SagaInv h') h₁
        (DeviceService.softDelete d) := by
      refine (idle_ensures hsame₁.inv hfind).bind ?_ fun h' e hs => hs.1.inv
      exact fun h₂ _ hs => ensures_call (hkept h₂ hs.1) (hkept h₂ hs.1)
    exact hdelete.handle (fun h' _ hI' => hI') fun h' e hI' => hI'
  · exact hsame₁.inv

theorem createDevice_ensures {userId : String} (hI : SagaInv h)
    (hr : h.requests[i]? = some (.registerDevice dto)) :
    Ensures ((service config).alone i) SagaInv
      (fun h' r => SagaInv h' ∧ h.Grows h' ∧ h'.state.attempts = h.state.attempts ∧
        ∀ device, r = .ok device → device ∈ h'.state.devices ∧ device.userId = userId ∧
          device.deletedAt = none ∧ DeviceCreated h' dto.attemptId device.id) h
      (DeviceService.create
        { userId := userId, deviceId := dto.deviceId, deviceModel := dto.deviceModel }) := by
  have hinv : ∀ new ch, SagaInv (h.perform i (.insertDevice new) ch) := by
    intro new ch
    exact sagaInv_perform hI (fun _ hop => by cases hop) (fun _ hop => by cases hop)
      fun _ hop => by cases hop
  have hattempts : ∀ new ch, (h.perform i (.insertDevice new) ch).state.attempts =
      h.state.attempts := fun new ch => perform_attempts_eq (by simp [Op.part]) ch h.state
  refine ensures_call_bind (fun ch => hinv _ ch) ?_ ?_
  · intro ch e _
    exact ⟨hinv _ ch, h.grows_perform i _ ch, hattempts _ ch, fun device hd => by cases hd⟩
  · intro ch id hid
    refine ⟨hinv _ ch, h.grows_perform i _ ch, hattempts _ ch, fun device hd => ?_⟩
    cases hd
    -- The id is that of the row that has been inserted.
    have hevent : ∀ new, (perform (.insertDevice new) ch h.state).1 = .ok id →
        (⟨.insertDevice new, .ok id⟩ : Awaited sig HttpError) ∈
          (h.perform i (.insertDevice new) ch).own i := by
      intro new hdone
      rw [History.perform_own_self, service_perform, hdone]
      exact List.mem_append_right _ List.mem_cons_self
    refine ⟨?_, rfl, rfl, i, dto, hr, rfl, _, hevent _ hid⟩
    rcases perform_insertDevice ⟨userId, dto.deviceId, dto.deviceModel, false⟩ ch h.state with
      ⟨e, hp⟩ | ⟨t, hp, _, hmem⟩
    · rw [alone_perform, service_perform, hp] at hid
      cases hid
    · rw [alone_perform, service_perform, hp] at hid
      cases hid
      rw [alone_perform, History.perform_state, service_perform, hp]
      exact (hmem _).2 (.inr rfl)

/-- The `try` block: once it has resolved, the attempt has a device. -/
theorem linkDevice_ensures {userId : String} (hI : SagaInv h)
    (hr : h.requests[i]? = some (.registerDevice dto))
    (hrow : Row h dto.attemptId (AwaitsDevice userId)) :
    Ensures ((service config).alone i) SagaInv
      (fun h' r => SagaInv h' ∧ Row h' dto.attemptId (AwaitsDevice userId) ∧
        (r = .ok () → Row h' dto.attemptId (LinkedDevice h'))) h
      (RegistrationService.linkDevice dto userId) := by
  have hrow₁ : ∀ h₁ : History (service config), h₁.state.attempts = h.state.attempts →
      Row h₁ dto.attemptId (AwaitsDevice userId) := by
    intro h₁ hsame
    unfold Row
    rw [hsame]
    exact hrow
  refine (createDevice_ensures hI hr).bind ?_ ?_
  · rintro h₁ device ⟨hI₁, hgrows₁, hattempts₁, hdevice⟩
    rcases hdevice device rfl with ⟨hstored, huser, hlive, hcreates⟩
    refine (findOne_ensures hI₁).bind ?_ ?_
    · rintro h₂ updated ⟨hsame₂, hread⟩
      rcases hread updated rfl with ⟨hmem, hid⟩
      have hrow₂ := hsame₂.row (hrow₁ h₁ hattempts₁)
      have hknown := hrow₂ updated hmem hid
      have hold := hsame₂.inv.truthful updated hmem
      -- The row names the device that has just been created.
      have hlinked : Truthful h₂ { updated with deviceProfileId := some device.id } := by
        refine ⟨hold.step, hold.user, hold.userSet, fun d hd => ?_, fun hreached => ?_⟩
        · cases hd
          have hnow := hcreates.grows hsame₂.grows
          rw [← hid] at hnow
          exact hnow
        · exact absurd hreached (not_reached hknown.1 (by decide))
      refine (saveAttempt_ensures hsame₂.inv hlinked).mono fun h₃ r hsaved => ?_
      refine ⟨hsaved.inv, hsaved.row_kept hknown hrow₂, fun hok => hsaved.row hok hid ?_⟩
      refine ⟨device, ?_, rfl, ?_, hlive⟩
      · rw [hsaved.devices, hsame₂.devices]
        exact hstored
      · rw [huser]
        exact hknown.2
    · exact fun h₂ e hs => ⟨hs.1.inv, hs.1.row (hrow₁ h₁ hattempts₁), by simp⟩
  · exact fun h₁ e hs => ⟨hs.1, hrow₁ h₁ hs.2.2.1, by simp⟩

/-- `registerDevice` keeps the invariant, wherever it fails. -/
theorem registerDevice_ensures (hI : SagaInv h)
    (hr : h.requests[i]? = some (.registerDevice dto)) :
    Ensures ((service config).alone i) SagaInv (fun _ _ => True) h
      (RegistrationService.registerDevice dto) := by
  refine (findOne_ensures hI).bind ?_ fun _ _ _ => trivial
  rintro h₁ attempt ⟨hsame₁, hread⟩
  rcases hread attempt rfl with ⟨hmem, hid⟩
  unfold RegistrationService.requireStep
  split
  · trivial
  · rename_i hstep
    rw [pure_bind]
    cases huser : truthy? attempt.keycloakUserId with
    | none => trivial
    | some userId =>
        have hrow₁ : Row h₁ dto.attemptId (AwaitsDevice userId) := by
          intro a ha haid
          rw [Sql.Table.eq_of_id ha hmem (haid.trans hid.symm)]
          exact ⟨not_not.1 hstep, (Option.filter_eq_some_iff.1 huser).1⟩
        have hlink : Ensures ((service config).alone i) SagaInv
            (fun h' r => SagaInv h' ∧ (r = .ok () → Row h' dto.attemptId (LinkedDevice h'))) h₁
            ((RegistrationService.linkDevice dto userId).handle
              (RegistrationService.failed dto.attemptId DEVICE_REGISTERED)) := by
          refine (linkDevice_ensures hsame₁.inv (hsame₁.grows.requests i _ hr) hrow₁).handle
            (fun h' _ hs => ⟨hs.1, hs.2.2⟩) fun h' e hs => ?_
          refine (failed_ensures e hs.1 (fun _ _ h => h) hs.2.1
            fun h'' hI'' hrow'' => rollbackDevice_ensures hI'' hrow'').mono ?_
          rintro h'' r ⟨hI'', e, rfl⟩
          exact ⟨hI'', fun hok => by cases hok⟩
        refine hlink.bind ?_ fun _ _ _ => trivial
        intro h₂ _ hs
        exact (advance_ensures hs.1 (fun heq => by cases heq) fun _ => hs.2 rfl).mono
          fun _ _ _ => trivial

end Device

/-! ## The other requests -/

/-- An operation that keeps the invariant in any state. -/
def Op.Quiet (op : Op) : Prop :=
  op.part ≠ some .devices ∧ op.Plain

section Others

variable {h : History (service config)} {i : Nat}

theorem quiet_ensures {α : Type} {p : Prog α} {R : Own → Except HttpError α → Prop}
    (hI : SagaInv h) (hp : Follows (fun _ (op : Op) => op.Quiet) R (h.own i) p) :
    Ensures ((service config).alone i) SagaInv (fun _ _ => True) h p := by
  refine (Ensures.of_follows (V := service config) hp hI ?_).mono fun _ _ _ => trivial
  intro h' op ch hop hI'
  refine sagaInv_perform hI' ?_ ?_ ?_
  · rintro new rfl
    exact hop.2
  · rintro saved rfl
    exact hop.2.elim
  · rintro d rfl
    exact absurd rfl hop.1

theorem follows_quiet {own : Own} {op : Op} (hpart : op.part ≠ some .devices) (hplain : op.Plain) :
    Follows (fun _ (op : Op) => op.Quiet) (fun _ _ => True) own (call op) :=
  Program.follows_call ⟨hpart, hplain⟩

theorem verify_ensures {dto : VerifyOtpDto} (hI : SagaInv h) :
    Ensures ((service config).alone i) SagaInv (fun h' _ => SagaInv h') h
      (OtpService.verify config dto) := by
  have hidle : Follows (fun _ (op : Op) => op.Idle) (fun _ _ => True) (h.own i)
      (OtpService.verify config dto) := by
    have hverify := (@OtpService.follows_verify config dto).prepend (h.own i)
    rw [List.append_nil] at hverify
    refine hverify.mono ?_ fun _ _ _ => trivial
    rintro own op ⟨rest, _, hop⟩
    cases hop <;> exact ⟨by simp [Op.part], by simp [Op.part]⟩
  exact (idle_ensures hI hidle).mono fun h' _ hs => hs.1.inv

theorem verifyOtp_ensures {dto : VerifyRegistrationOtpDto} (hI : SagaInv h) :
    Ensures ((service config).alone i) SagaInv (fun _ _ => True) h
      (RegistrationService.verifyOtp config dto) := by
  refine (findOne_ensures hI).bind ?_ fun _ _ _ => trivial
  rintro h₁ attempt ⟨hsame₁, _⟩
  unfold RegistrationService.requireStep
  split
  · trivial
  · rw [pure_bind]
    refine (verify_ensures hsame₁.inv).bind ?_ fun _ _ _ => trivial
    intro h₂ _ hI₂
    exact (advance_ensures hI₂ (fun heq => by cases heq) fun heq => by cases heq).mono
      fun _ _ _ => trivial

theorem complete_ensures {id : String} (hI : SagaInv h) :
    Ensures ((service config).alone i) SagaInv (fun _ _ => True) h
      (RegistrationService.complete id) := by
  refine (findOne_ensures hI).bind ?_ fun _ _ _ => trivial
  rintro h₁ attempt ⟨hsame₁, _⟩
  unfold RegistrationService.requireStep
  split
  · trivial
  · rw [pure_bind]
    refine (advance_ensures hsame₁.inv (fun heq => by cases heq) fun heq => by cases heq).bind ?_
      fun _ _ _ => trivial
    exact fun _ _ _ => trivial

theorem follows_quietFindOne {own : Own} (id : String) :
    Follows (fun _ (op : Op) => op.Quiet) (fun _ _ => True) own (RegistrationService.findOne id) := by
  refine (follows_quiet (by simp [Op.part]) (by trivial)).andThen fun own found => ?_
  cases (found : Option RegistrationAttempt) with
  | none => trivial
  | some record => trivial

theorem follows_quietOtpFindOne {own : Own} (id : String) :
    Follows (fun _ (op : Op) => op.Quiet) (fun _ _ => True) own (OtpService.findOne id) := by
  refine (follows_quiet (by simp [Op.part]) (by trivial)).andThen fun own found => ?_
  cases (found : Option OtpChallenge) with
  | none => trivial
  | some record => trivial

/-- The requests that move no attempt. -/
theorem follows_quietRequest {own : Own} {r : Request} (hverify : ∀ dto, r ≠ .verifyOtp dto)
    (hcreate : ∀ dto, r ≠ .createCredentials dto) (hregister : ∀ dto, r ≠ .registerDevice dto)
    (hcomplete : ∀ id, r ≠ .complete id) (hotp : ∀ dto, r ≠ .otpVerify dto) :
    Follows (fun _ (op : Op) => op.Quiet) (fun _ _ => True) own (program config r) := by
  have hcall : ∀ {own : Own} {op : Op}, op.part ≠ some .devices → op.Plain →
      Follows (fun _ (op : Op) => op.Quiet) (fun _ _ => True) own (call op) :=
    fun hpart hplain => follows_quiet hpart hplain
  -- The five operations that are not quiet are excluded; the others are read off.
  cases r with
  | verifyOtp dto => exact absurd rfl (hverify dto)
  | createCredentials dto => exact absurd rfl (hcreate dto)
  | registerDevice dto => exact absurd rfl (hregister dto)
  | complete id => exact absurd rfl (hcomplete id)
  | otpVerify dto => exact absurd rfl (hotp dto)
  | create dto =>
      refine Follows.andThen ?_ fun _ _ => trivial
      exact (hcall (by simp [Op.part]) (by rfl)).andThen fun _ _ => trivial
  | resume id =>
      refine Follows.andThen ?_ fun _ _ => trivial
      refine (hcall (by simp [Op.part]) (by trivial)).andThen fun own found => ?_
      cases (found : Option RegistrationAttempt) with
      | none => trivial
      | some attempt => trivial
  | list => exact (hcall (by simp [Op.part]) (by trivial)).andThen fun _ _ => trivial
  | get id => exact (follows_quietFindOne id).andThen fun _ _ => trivial
  | delete id =>
      refine Follows.andThen ?_ fun _ _ => trivial
      exact (follows_quietFindOne id).andThen fun _ _ => hcall (by simp [Op.part]) (by trivial)
  | otpCreate dto =>
      refine Follows.andThen ?_ fun _ _ => trivial
      refine (hcall (by simp [Op.part]) (by trivial)).andThen fun _ _ => ?_
      refine (hcall (by simp [Op.part]) (by trivial)).andThen fun _ _ => ?_
      exact (hcall (by simp [Op.part]) (by trivial)).andThen fun _ _ => trivial
  | otpList => exact (hcall (by simp [Op.part]) (by trivial)).andThen fun _ _ => trivial
  | otpGet id => exact (follows_quietOtpFindOne id).andThen fun _ _ => trivial
  | otpDelete id =>
      refine Follows.andThen ?_ fun _ _ => trivial
      exact (follows_quietOtpFindOne id).andThen fun _ _ => hcall (by simp [Op.part]) (by trivial)

/-- Every request keeps the invariant. -/
theorem program_ensures {r : Request} (hI : SagaInv h) (hr : h.requests[i]? = some r) :
    Ensures ((service config).alone i) SagaInv (fun _ _ => True) h (program config r) := by
  cases r with
  | verifyOtp dto => exact (verifyOtp_ensures hI).bind (fun _ _ _ => trivial) fun _ _ _ => trivial
  | createCredentials dto =>
      exact (createCredentials_ensures hI hr).bind (fun _ _ _ => trivial) fun _ _ _ => trivial
  | registerDevice dto =>
      exact (registerDevice_ensures hI hr).bind (fun _ _ _ => trivial) fun _ _ _ => trivial
  | complete id => exact (complete_ensures hI).bind (fun _ _ _ => trivial) fun _ _ _ => trivial
  | otpVerify dto => exact (verify_ensures hI).bind (fun _ _ _ => trivial) fun _ _ _ => trivial
  | _ => exact quiet_ensures hI (follows_quietRequest (by simp) (by simp) (by simp) (by simp) (by simp))

end Others

/-! ## The law -/

theorem sagaInv_start {h : History (service config)} (hI : SagaInv h) (r : Request) :
    SagaInv (h.start r) := by
  refine ⟨fun a ha => ?_, hI.stored, hI.once⟩
  exact (hI.truthful a ha).grows (h.grows_start r) fun _ hlinked => hlinked

theorem sagaInv_run (config : OtpConfig) (s : Store) (hinit : ∀ a, a ∉ s.attempts)
    (as : List (Action (service config)))
    (hC : Config.Meets InOrder (Config.initial (service config) s) as) :
    SagaInv ((Config.initial (service config) s).run as).toHistory := by
  refine Config.run_ensures (I := SagaInv) (fun h r hI => sagaInv_start hI r) ?_ ?_ as hC
  · exact fun h i r _ hI hr _ => program_ensures hI hr
  · have hnone : ∀ i d, ¬ Creates (Config.initial (service config) s).toHistory i d := by
      rintro i d ⟨new, hmem⟩
      cases hmem
    exact ⟨fun a ha => absurd ha (hinit a), fun i d hd => absurd hd (hnone i d),
      fun i j d hd _ => absurd hd (hnone i d)⟩

/-- From one stored state to the next, attempts begin at `INIT` and go onward. -/
def Stepwise (s s' : Store) : Prop :=
  Forward s s' ∧
    ∀ a' ∈ s'.attempts, (∀ a ∈ s.attempts, a.id ≠ a'.id) → a'.currentStep = INIT.text

theorem Stepwise.refl (s : Store) : Stepwise s s :=
  ⟨.of_kept fun _ ha => ha, fun a ha hnew => absurd rfl (hnew a ha)⟩

/-- A request at work alone saves an attempt that nobody has changed meanwhile. -/
theorem savesCurrent_alone {h : History (service config)} {i : Nat} {r : Request} {op : Op}
    {ch : Choice} (halone : h.RunsAlone i) (hop : Awaits config r (h.own i) op) :
    SavesCurrent h ⟨⟨op, ((service config).perform op ch h.state).1⟩, i⟩ := by
  intro saved hsaved read hread stored hstored hid
  cases op with
  | saveAttempt a =>
      rcases awaits_saveAttempt hop with ⟨before, key, seen, hown, hchange, _⟩
      have hlast : lastRead? (h.own i) = some seen := by
        rw [hown]
        exact lastRead?_concat before key seen
      have hread : read = seen := Option.some.inj (hread.symm.trans hlast)
      have hsaved : saved = a := savedAttempt?_eq hsaved
      have hsame : stored = seen := by
        refine Sql.Table.eq_of_id hstored (read_stored halone hown).1 ?_
        exact hid.trans (hsaved ▸ hchange.id_eq)
      subst hsame hread
      exact ⟨rfl, fun hset => hset⟩
  | _ => cases hsaved

theorem stepwise_perform {h : History (service config)} {i : Nat} {r : Request} {op : Op}
    {ch : Choice} (halone : h.RunsAlone i) (hop : Awaits config r (h.own i) op) :
    Stepwise h.state (h.perform i op ch).state := by
  refine ⟨forward_perform hop (savesCurrent_alone halone hop), fun x hx hnew => ?_⟩
  rcases perform_attempts_cases op ch h.state with
    hsame | ⟨new, rfl, _, _, hmem⟩ | ⟨saved, rfl, _, hmem⟩ | ⟨id, rfl, hmem⟩
  · rw [History.perform_state, service_perform, hsame] at hx
    exact absurd rfl (hnew x hx)
  · rcases (hmem x).1 hx with hold | rfl
    · exact absurd rfl (hnew x hold)
    · exact awaits_insertAttempt hop
  · rcases awaits_saveAttempt hop with ⟨before, key, read, hown, hchange, _⟩
    rcases (hmem x).1 hx with rfl | ⟨hold, _⟩
    · exact absurd hchange.id_eq.symm (hnew read (read_stored halone hown).1)
    · exact absurd rfl (hnew x hold)
  · rcases (hmem x).1 hx with ⟨a, ha, rfl⟩
    refine absurd ?_ (hnew a ha)
    split
    · rfl
    · rfl

theorem stepwise_states (config : OtpConfig) (s : Store) (as : List (Action (service config)))
    (hC : Config.Meets InOrder (Config.initial (service config) s) as) :
    ((Config.initial (service config) s).states as).IsChain Stepwise := by
  have hstep : ∀ (h : History (service config)) i r op ch, h.Attributed → h.Sequential →
      h.requests[i]? = some r → Awaits config r (h.own i) op →
      InOrder h ⟨⟨op, ((service config).perform op ch h.state).1⟩, i⟩ →
      (h.perform i op ch).Sequential ∧ Stepwise h.state (h.perform i op ch).state := by
    intro h i r op ch hattr hI _ hop horder
    exact ⟨hI.perform hattr horder, stepwise_perform (hI.runsAlone hattr horder) hop⟩
  exact Config.states_isChain (follows_program config) (fun _ _ _ hI => hI) hstep Stepwise.refl
    (fun i _ hown => absurd rfl hown) (Config.poolEnds_initial s) (Config.attributed_initial s) hC

/-- The saga step tells the truth about what was provisioned. In a run of requests that do not
overlap, whatever fails, each attempt has come to its step one step at a time; and when it is live
its step is one of the order, from `KEYCLOAK_USER_CREATED` on it has the user that was created for
it, and from `DEVICE_REGISTERED` on a live device of this user that was created for it. -/
theorem saga_tells_the_truth (config : OtpConfig) (s : Store) (hinit : ∀ a, a ∉ s.attempts)
    (as : List (Action (service config)))
    (hC : Config.Meets InOrder (Config.initial (service config) s) as) :
    let c := (Config.initial (service config) s).run as
    ((Config.initial (service config) s).states as).IsChain Stepwise ∧
    ∀ a ∈ c.state.attempts, a.deletedAt = none →
      (∃ step ∈ STEP_ORDER, a.currentStep = step.text) ∧
      (Reached KEYCLOAK_USER_CREATED a → ∃ userId, a.keycloakUserId = some userId ∧
        UserProvisioned c.toHistory a userId) ∧
      (Reached DEVICE_REGISTERED a → ∃ device ∈ c.state.devices,
        a.deviceProfileId = some device.id ∧ a.keycloakUserId = some device.userId ∧
          device.deletedAt = none ∧ DeviceCreated c.toHistory a.id device.id) := by
  refine ⟨stepwise_states config s as hC, fun a ha _ => ?_⟩
  have htruthful := (sagaInv_run config s hinit as hC).truthful a ha
  refine ⟨?_, fun hreached => ?_, fun hreached => ?_⟩
  · rcases htruthful.step with ⟨step, hstep⟩
    exact ⟨step, by cases step <;> decide, hstep⟩
  · rcases Option.ne_none_iff_exists'.1 (htruthful.userSet hreached) with ⟨userId, huser⟩
    exact ⟨userId, huser, htruthful.user userId huser⟩
  · rcases htruthful.deviceLive hreached with ⟨device, hmem, hdevice, huser, hlive⟩
    exact ⟨device, hmem, hdevice, huser, hlive, htruthful.device device.id hdevice⟩

/-- No attempt is stored, and one challenge. -/
def freshStore : Store :=
  sampleStore [] [sampleChallenge] [] []

/-- A whole registration, one request after the other. -/
def fullRegistration : List (Action (service sampleConfig)) :=
  [.start (.create ⟨"9876543210", "CIF12345"⟩), .resume 0 (.smooth "attempt-1")] ++
  .start (.verifyOtp ⟨"attempt-1", "challenge-1", "123456"⟩) ::
    List.replicate 6 (.resume 1 (.smooth "")) ++
  .start (.createCredentials ⟨"attempt-1", "secret"⟩) ::
    List.replicate 13 (.resume 2 (.smooth "user-1")) ++
  .start (.registerDevice ⟨"attempt-1", "phone-1", none⟩) ::
    List.replicate 6 (.resume 3 (.smooth "device-1")) ++
  .start (.complete "attempt-1") :: List.replicate 3 (.resume 4 (.smooth ""))

theorem saga_tells_the_truth_fullRegistration :
    let c := (Config.initial (service sampleConfig) freshStore).run fullRegistration
    ((Config.initial (service sampleConfig) freshStore).states fullRegistration).IsChain Stepwise ∧
    ∀ a ∈ c.state.attempts, a.deletedAt = none →
      (∃ step ∈ STEP_ORDER, a.currentStep = step.text) ∧
      (Reached KEYCLOAK_USER_CREATED a → ∃ userId, a.keycloakUserId = some userId ∧
        UserProvisioned c.toHistory a userId) ∧
      (Reached DEVICE_REGISTERED a → ∃ device ∈ c.state.devices,
        a.deviceProfileId = some device.id ∧ a.keycloakUserId = some device.userId ∧
          device.deletedAt = none ∧ DeviceCreated c.toHistory a.id device.id) :=
  saga_tells_the_truth sampleConfig freshStore (fun _ ha => by cases ha) fullRegistration (by decide)

/-- It ends at the last step. -/
example : ((Config.initial (service sampleConfig) freshStore).run
    fullRegistration).state.attempts.rows =
      [attemptAt .COMPLETED (some "user-1") (some "device-1")] := by
  decide

end Auth
end IdentityBillpay
