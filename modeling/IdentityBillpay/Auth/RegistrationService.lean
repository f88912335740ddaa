import IdentityBillpay.Auth.OtpService

/-!
# RegistrationService — the steps of customer registration

The programs of `registration.service.ts` with the orchestrator, the compensation and the services
they call, one definition for each method and in its order of awaits.

* `RegistrationOrchestratorService.advance`, `fail` — one step forward; what a failed step does;
* `RegistrationService.createCredentials`, `registerDevice` — the two steps with a `try` block. Each
  ends in `return this.orchestrator.advance(…)` without `await`, so the `catch` block does not see
  that last call fail.
-/

namespace IdentityBillpay
namespace Auth

open Async Js Keycloak RegistrationStep
open Async.Program (Follows follows_call_bind)

namespace DeviceService

def findOne (id : String) : Prog DeviceProfile := do
  let record : Option DeviceProfile ← call (.findDevice id)
  match record with
  | none => throw (.notFound "Device profile not found")
  | some record => return record

def create (dto : RegisterDeviceDto) : Prog DeviceProfile := do
  let entity : NewDevice :=
    { userId := dto.userId, deviceId := dto.deviceId, deviceModel := dto.deviceModel,
      trusted := false }
  let id : String ← call (.insertDevice entity)
  return entity.row id

def softDelete (id : String) : Prog Unit := do
  let _ ← findOne id
  call (.softDeleteDevice id)

end DeviceService

namespace CredentialService

def softDeleteByKeycloakUserId (keycloakUserId : String) : Prog Unit := do
  let record : Option Credential ← call (.findCredential keycloakUserId)
  match record with
  | none => throw (.notFound ("No MPIN credential found for Keycloak user " ++ keycloakUserId))
  | some record => call (.softDeleteCredential record.id)

end CredentialService

namespace RegistrationCompensationService

/-- The error of an action is logged and dropped. -/
def safely (action : Prog Unit) : Prog Unit :=
  action.handle fun _ => return ()

def rollback (attemptId : String) (atStep : RegistrationStep) : Prog Unit := do
  let attempt : Option RegistrationAttempt ← call (.findAttempt attemptId)
  match attempt with
  | none => return ()
  | some attempt =>
      -- One compensation for each step that has an effect outside the attempt.
      match atStep with
      | DEVICE_REGISTERED =>
          match truthy? attempt.deviceProfileId with
          | some deviceProfileId => safely (DeviceService.softDelete deviceProfileId)
          | none => return ()
      | KEYCLOAK_USER_CREATED =>
          match truthy? attempt.keycloakUserId with
          | some keycloakUserId => safely (disableUser http keycloakUserId)
          | none => return ()
      | CREDENTIALS_SET =>
          match truthy? attempt.keycloakUserId with
          | some keycloakUserId =>
              safely (CredentialService.softDeleteByKeycloakUserId keycloakUserId)
          | none => return ()
      | _ => return ()

end RegistrationCompensationService

/-- What `resume` returns. -/
structure ResumeResult where
  attemptId : String
  currentStep : String
  nextAction : String
  deriving DecidableEq

namespace RegistrationOrchestratorService

def resume (attemptId : String) : Prog ResumeResult := do
  let attempt : Option RegistrationAttempt ← call (.findAttempt attemptId)
  match attempt with
  | none => throw (.notFound "Registration attempt not found")
  | some attempt =>
      return { attemptId := attemptId
               currentStep := attempt.currentStep
               nextAction := nextAction attempt.currentStep }

def advance (attemptId : String) (toStep : RegistrationStep) : Prog RegistrationAttempt := do
  let attempt : Option RegistrationAttempt ← call (.findAttempt attemptId)
  match attempt with
  | none => throw (.notFound "Registration attempt not found")
  | some attempt =>
      -- A step that is not in the list has the index -1.
      if indexOf toStep.text ≠ indexOf attempt.currentStep + 1 then
        throw (.badRequest ("Cannot move attempt " ++ attemptId ++ " from " ++
          attempt.currentStep ++ " to " ++ toStep.text))
      else do
        let advanced := { attempt with currentStep := toStep.text }
        call (.saveAttempt advanced)
        return advanced

def fail (attemptId : String) (atStep : RegistrationStep) (reason : String) : Prog Unit := do
  let attempt : Option RegistrationAttempt ← call (.findAttempt attemptId)
  match attempt with
  | none => RegistrationCompensationService.rollback attemptId atStep
  | some attempt => do
      call (.saveAttempt { attempt with failureReason := some reason })
      RegistrationCompensationService.rollback attemptId atStep

end RegistrationOrchestratorService

open RegistrationOrchestratorService (advance fail)

/-- What `complete` returns. -/
structure Completed where
  attemptId : String
  keycloakUserId : Option String
  status : RegistrationStep
  deriving DecidableEq

namespace RegistrationService

def findAll : Prog (List RegistrationAttempt) :=
  call .findAttempts

def findOne (id : String) : Prog RegistrationAttempt := do
  let record : Option RegistrationAttempt ← call (.findAttempt id)
  match record with
  | none => throw (.notFound "Registration attempt not found")
  | some record => return record

def create (dto : InitRegistrationDto) : Prog RegistrationAttempt := do
  let entity : NewAttempt :=
    { mobileNumber := dto.mobileNumber, panOrCif := dto.panOrCif, currentStep := INIT.text }
  let id : String ← call (.insertAttempt entity)
  return entity.row id

def requireStep (attempt : RegistrationAttempt) (expected : RegistrationStep) : Prog Unit :=
  if attempt.currentStep ≠ expected.text then
    throw (.badRequest ("Registration attempt " ++ attempt.id ++ " is at " ++
      attempt.currentStep ++ ", expected " ++ expected.text))
  else return ()

def verifyOtp (config : OtpConfig) (dto : VerifyRegistrationOtpDto) : Prog RegistrationAttempt := do
  let attempt ← findOne dto.attemptId
  requireStep attempt INIT
  let _ ← OtpService.verify config { challengeId := dto.challengeId, otp := dto.otp }
  advance dto.attemptId OTP_VERIFIED

/-! ## Credentials -/

def customer (mobileNumber password : String) : CreateUserPayload where
  username := mobileNumber
  email := mobileNumber ++ "@customer.bharat-banking.local"
  firstName := "Customer"
  lastName := mobileNumber
  password := password
  enabled := none

/-- The `catch` block of both steps. -/
def failed (attemptId : String) (atStep : RegistrationStep) (error : HttpError) : Prog Unit := do
  fail attemptId atStep error.message
  throw error

/-- The `try` block of `createCredentials`, up to its last call. -/
def provision (dto : CreateCredentialsDto) (mobileNumber : String) : Prog Unit := do
  let keycloakUser ← createUser http (customer mobileNumber dto.password)
  assignRealmRoleToUser http keycloakUser "RETAIL_CUSTOMER"
  let updated ← findOne dto.attemptId
  call (.saveAttempt { updated with keycloakUserId := some keycloakUser })

def requireCredentialsStep (dto : CreateCredentialsDto) (attempt : RegistrationAttempt) :
    Prog Unit :=
  if attempt.currentStep ≠ OTP_VERIFIED.text ∧ attempt.currentStep ≠ CREDENTIALS_SET.text then
    throw (.badRequest ("Registration attempt " ++ dto.attemptId ++ " is at " ++
      attempt.currentStep ++ ", expected " ++
      "OTP_VERIFIED, or CREDENTIALS_SET to retry a previously failed attempt"))
  else return ()

/-- The first call moves on; a retry is there already. -/
def markCredentialsSet (dto : CreateCredentialsDto) (attempt : RegistrationAttempt) :
    Prog Unit :=
  if attempt.currentStep = OTP_VERIFIED.text then do
    let _ ← advance dto.attemptId CREDENTIALS_SET
    return ()
  else return ()

def createCredentials (dto : CreateCredentialsDto) : Prog RegistrationAttempt := do
  let attempt ← findOne dto.attemptId
  requireCredentialsStep dto attempt
  markCredentialsSet dto attempt
  (provision dto attempt.mobileNumber).handle (failed dto.attemptId CREDENTIALS_SET)
  advance dto.attemptId KEYCLOAK_USER_CREATED

/-! ## Device -/

/-- The `try` block of `registerDevice`, up to its last call. -/
def linkDevice (dto : RegisterAttemptDeviceDto) (keycloakUserId : String) : Prog Unit := do
  let device ← DeviceService.create
    { userId := keycloakUserId, deviceId := dto.deviceId, deviceModel := dto.deviceModel }
  let updated ← findOne dto.attemptId
  call (.saveAttempt { updated with deviceProfileId := some device.id })

def registerDevice (dto : RegisterAttemptDeviceDto) : Prog RegistrationAttempt := do
  let attempt ← findOne dto.attemptId
  requireStep attempt KEYCLOAK_USER_CREATED
  match truthy? attempt.keycloakUserId with
  | none =>
      throw (.badRequest ("Attempt " ++ dto.attemptId ++
        " has no Keycloak user to link a device to"))
  | some keycloakUserId => do
      (linkDevice dto keycloakUserId).handle (failed dto.attemptId DEVICE_REGISTERED)
      advance dto.attemptId DEVICE_REGISTERED

/-! ## The rest -/

def complete (attemptId : String) : Prog Completed := do
  let attempt ← findOne attemptId
  requireStep attempt DEVICE_REGISTERED
  let _ ← advance attemptId COMPLETED
  return { attemptId := attemptId, keycloakUserId := attempt.keycloakUserId, status := COMPLETED }

def softDelete (id : String) : Prog Unit := do
  let _ ← findOne id
  call (.softDeleteAttempt id)

end RegistrationService

/-! ## What a request writes to an attempt -/

/-- What an attempt may become when a request saves it. -/
inductive RegistrationAttempt.Changes (attempt : RegistrationAttempt) : RegistrationAttempt → Prop
  | step {toStep : RegistrationStep}
      (hnext : indexOf toStep.text = indexOf attempt.currentStep + 1) (hne : toStep ≠ INIT) :
      Changes attempt { attempt with currentStep := toStep.text }
  | user (userId : String) : Changes attempt { attempt with keycloakUserId := some userId }
  | device (deviceId : String) : Changes attempt { attempt with deviceProfileId := some deviceId }
  | reason (message : String) : Changes attempt { attempt with failureReason := some message }

section Changes

variable {a a' : RegistrationAttempt}

theorem RegistrationAttempt.Changes.id_eq (h : a.Changes a') : a'.id = a.id := by
  cases h <;> rfl

theorem RegistrationAttempt.Changes.mobileNumber_eq (h : a.Changes a') :
    a'.mobileNumber = a.mobileNumber := by
  cases h <;> rfl

/-- The only way on from `INIT`. -/
theorem RegistrationAttempt.Changes.of_INIT (h : a.Changes a') (hinit : a.currentStep = INIT.text)
    (hpast : a'.currentStep ≠ INIT.text) : a'.currentStep = OTP_VERIFIED.text := by
  have hnextStep : ∀ toStep : RegistrationStep, indexOf toStep.text = indexOf INIT.text + 1 →
      toStep.text = OTP_VERIFIED.text := by
    intro toStep
    cases toStep <;> decide
  cases h with
  | @step toStep hnext _ =>
      rw [hinit] at hnext
      exact hnextStep toStep hnext
  | user userId => exact absurd hinit hpast
  | device deviceId => exact absurd hinit hpast
  | reason message => exact absurd hinit hpast

end Changes

/-- Not a save; and an attempt that it inserts is at `INIT`. -/
def Op.Plain : Op → Prop
  | .saveAttempt _ | .saveChallenge _ => False
  | .insertAttempt new => new.currentStep = INIT.text
  | _ => True

/-- The device is the one the attempt had, or one that the events have created. -/
def DeviceKnown (own : Own) (attempt changed : RegistrationAttempt) : Prop :=
  changed.deviceProfileId = attempt.deviceProfileId ∨
    ∃ d new, changed.deviceProfileId = some d ∧
      (⟨.insertDevice new, .ok d⟩ : Awaited sig HttpError) ∈ own

/-- The awaits of every request but a verification: an attempt is saved right after it has been
read, but not moved to `OTP_VERIFIED`, and no challenge is saved. -/
inductive StepAwaits : Own → Op → Prop
  | saveAttempt {own : Own} {id : String} {attempt changed : RegistrationAttempt}
      (hchange : attempt.Changes changed)
      (hverified : changed.currentStep = OTP_VERIFIED.text →
        attempt.currentStep = OTP_VERIFIED.text)
      (hdevice : DeviceKnown own attempt changed) :
      StepAwaits (own ++ [⟨.findAttempt id, .ok (some attempt)⟩]) (.saveAttempt changed)
  | other {own : Own} {op : Op} (hplain : op.Plain) : StepAwaits own op

inductive AdvanceAwaits (attemptId : String) (toStep : RegistrationStep) : Own → Op → Prop
  | findAttempt : AdvanceAwaits attemptId toStep [] (.findAttempt attemptId)
  | saveAttempt {attempt : RegistrationAttempt}
      (hnext : indexOf toStep.text = indexOf attempt.currentStep + 1) :
      AdvanceAwaits attemptId toStep [⟨.findAttempt attemptId, .ok (some attempt)⟩]
        (.saveAttempt { attempt with currentStep := toStep.text })

/-- How `advance` settles: it fails before its save has been done, or returns the row it saved. -/
inductive AdvanceEnds (attemptId : String) (toStep : RegistrationStep) :
    Own → Except HttpError RegistrationAttempt → Prop
  | failed {own : Own} {e : HttpError} (hreads : ∀ a ∈ own, a.op.part ≠ some .challenges) :
      AdvanceEnds attemptId toStep own (.error e)
  | advanced {attempt : RegistrationAttempt}
      (hnext : indexOf toStep.text = indexOf attempt.currentStep + 1) :
      AdvanceEnds attemptId toStep
        [⟨.findAttempt attemptId, .ok (some attempt)⟩,
          ⟨.saveAttempt { attempt with currentStep := toStep.text }, .ok ()⟩]
        (.ok { attempt with currentStep := toStep.text })

section Protocol

variable {own : Own}

theorem follows_advance (attemptId : String) (toStep : RegistrationStep) :
    Follows (AdvanceAwaits attemptId toStep) (AdvanceEnds attemptId toStep) []
      (advance attemptId toStep) := by
  unfold advance
  apply follows_call_bind .findAttempt
  · exact fun e => .failed (by simp [Op.part])
  · intro found
    cases (found : Option RegistrationAttempt) with
    | none => exact .failed (by simp [Op.part])
    | some attempt =>
        dsimp only
        split
        · exact .failed (by simp [Op.part])
        · rename_i hnext
          apply follows_call_bind (.saveAttempt (not_not.1 hnext))
          · exact fun e => .failed (by simp [Op.part])
          · exact fun _ => .advanced (not_not.1 hnext)

/-! ### Every request but a verification -/

theorem follows_other {op : Op} (hplain : op.Plain) :
    Follows StepAwaits (fun _ _ => True) own (call op) :=
  Program.follows_call (.other hplain)

/-- A part of a program for the attempt that is read first, if there is one. -/
theorem follows_findAttempt {α : Type} {id : String} {f : Option RegistrationAttempt → Prog α}
    (hnone : ∀ own, Follows StepAwaits (fun _ _ => True) own (f none))
    (hsome : ∀ own attempt, Follows StepAwaits (fun _ _ => True)
      (own ++ [⟨.findAttempt id, .ok (some attempt)⟩]) (f (some attempt))) :
    Follows StepAwaits (fun _ _ => True) own (call (.findAttempt id) >>= f) := by
  apply follows_call_bind (.other trivial)
  · exact fun _ => trivial
  · intro found
    cases (found : Option RegistrationAttempt) with
    | none => exact hnone _
    | some attempt => exact hsome _ attempt

theorem follows_findOne (id : String) :
    Follows StepAwaits (fun _ _ => True) own (RegistrationService.findOne id) :=
  follows_findAttempt (fun _ => trivial) fun _ _ => trivial

theorem follows_http (own : Own) (op : KeycloakOp) :
    Follows StepAwaits (fun _ _ => True) own (http op) :=
  follows_other trivial

theorem follows_stepAdvance (attemptId : String) {toStep : RegistrationStep} (hne : toStep ≠ INIT)
    (hne' : toStep ≠ OTP_VERIFIED) :
    Follows StepAwaits (fun _ _ => True) own (advance attemptId toStep) := by
  refine follows_findAttempt (fun _ => trivial) fun own attempt => ?_
  dsimp only
  split
  · trivial
  · rename_i hnext
    exact (Program.follows_call (.saveAttempt (.step (not_not.1 hnext) hne)
      (fun h => absurd (text_injective h) hne') (.inl rfl))).andThen fun _ _ => trivial

theorem follows_rollback (attemptId : String) (atStep : RegistrationStep) :
    Follows StepAwaits (fun _ _ => True) own
      (RegistrationCompensationService.rollback attemptId atStep) := by
  refine follows_findAttempt (fun _ => trivial) fun own attempt => ?_
  dsimp only
  have hsafely : ∀ action : Prog Unit, Follows StepAwaits (fun _ _ => True)
      (own ++ [⟨.findAttempt attemptId, .ok (some attempt)⟩]) action →
      Follows StepAwaits (fun _ _ => True)
        (own ++ [⟨.findAttempt attemptId, .ok (some attempt)⟩])
        (RegistrationCompensationService.safely action) :=
    fun action h => h.orElse fun _ _ => trivial
  split
  · split
    · refine hsafely _ (Follows.andThen ?_ fun own _ => follows_other trivial)
      refine (follows_other (by trivial)).andThen fun own device => ?_
      cases (device : Option DeviceProfile) with
      | none => trivial
      | some device => trivial
    · trivial
  · split
    · exact hsafely _ (follows_disableUser _ follows_http _)
    · trivial
  · split
    · refine hsafely _ ((follows_other (by trivial)).andThen fun own credential => ?_)
      cases (credential : Option Credential) with
      | none => trivial
      | some credential => exact follows_other trivial
    · trivial
  · trivial

theorem follows_failed (attemptId : String) (atStep : RegistrationStep) (error : HttpError) :
    Follows StepAwaits (fun _ _ => True) own
      (RegistrationService.failed attemptId atStep error) := by
  refine Follows.andThen ?_ fun _ _ => trivial
  refine follows_findAttempt (fun _ => follows_rollback _ _) fun own attempt => ?_
  exact (Program.follows_call (.saveAttempt (.reason _) id (.inl rfl))).andThen
    fun _ _ => follows_rollback _ _

/-- The end of both `try` blocks: the attempt is read again and saved with one more id. -/
theorem follows_update {id : String} {f : RegistrationAttempt → RegistrationAttempt}
    (hf : ∀ attempt : RegistrationAttempt, attempt.Changes (f attempt))
    (hstep : ∀ attempt, (f attempt).currentStep = attempt.currentStep)
    (hdevice : ∀ attempt, DeviceKnown own attempt (f attempt)) :
    Follows StepAwaits (fun _ _ => True) own
      (RegistrationService.findOne id >>= fun updated => call (.saveAttempt (f updated))) := by
  unfold RegistrationService.findOne
  rw [bind_assoc]
  apply follows_call_bind (.other trivial)
  · exact fun _ => trivial
  · intro found
    cases (found : Option RegistrationAttempt) with
    | none => trivial
    | some attempt =>
        have hsave := @StepAwaits.saveAttempt own id attempt (f attempt) (hf attempt)
          (fun h => (hstep attempt).symm.trans h) (hdevice attempt)
        exact @Program.follows_call _ _ StepAwaits _ _ hsave

theorem follows_createCredentials (dto : CreateCredentialsDto) :
    Follows StepAwaits (fun _ _ => True) own (RegistrationService.createCredentials dto) := by
  refine (follows_findOne _).andThen fun own attempt => Follows.andThen ?_ fun own _ =>
    Follows.andThen ?_ fun own _ => Follows.andThen (Follows.orElse ?_ fun _ _ =>
      follows_failed _ _ _) fun own _ => follows_stepAdvance _ (by decide) (by decide)
  · unfold RegistrationService.requireCredentialsStep
    split <;> trivial
  · unfold RegistrationService.markCredentialsSet
    split
    · exact (follows_stepAdvance _ (by decide) (by decide)).andThen fun _ _ => trivial
    · trivial
  · refine (follows_createUser _ follows_http _).andThen fun own userId => ?_
    refine (follows_assignRealmRoleToUser _ (fun own op _ => follows_http own op) _ _).andThen fun own _ => ?_
    exact follows_update (fun attempt => .user userId) (fun _ => rfl) fun _ => .inl rfl

theorem follows_requireStep (attempt : RegistrationAttempt) (expected : RegistrationStep) :
    Follows StepAwaits (fun _ _ => True) own
      (RegistrationService.requireStep attempt expected) := by
  unfold RegistrationService.requireStep
  split <;> trivial

theorem follows_createDevice (own : Own) (body : RegisterDeviceDto) :
    Follows StepAwaits
      (fun own r => ∀ device, r = .ok device → ∃ new,
        (⟨.insertDevice new, .ok device.id⟩ : Awaited sig HttpError) ∈ own) own
      (DeviceService.create body) := by
  refine follows_call_bind (.other trivial) (fun _ _ h => by cases h) fun id device hdevice => ?_
  cases hdevice
  exact ⟨_, List.mem_append_right _ List.mem_cons_self⟩

theorem follows_registerDevice (dto : RegisterAttemptDeviceDto) :
    Follows StepAwaits (fun _ _ => True) own (RegistrationService.registerDevice dto) := by
  refine (follows_findOne _).andThen fun own attempt =>
    (follows_requireStep _ _).andThen fun own _ => ?_
  cases truthy? attempt.keycloakUserId with
  | none => trivial
  | some userId =>
      refine Follows.andThen (Follows.orElse ?_ fun _ _ => follows_failed _ _ _) fun own _ =>
        follows_stepAdvance _ (by decide) (by decide)
      refine Follows.bind (follows_createDevice own _) ?_ fun _ _ _ => trivial
      intro own device hcreated
      rcases hcreated device rfl with ⟨new, hmem⟩
      exact follows_update (fun attempt => .device device.id) (fun _ => rfl)
        fun _ => .inr ⟨device.id, new, rfl, hmem⟩

theorem follows_complete (id : String) :
    Follows StepAwaits (fun _ _ => True) own (RegistrationService.complete id) :=
  (follows_findOne _).andThen fun _ _ => (follows_requireStep _ _).andThen fun _ _ =>
    (follows_stepAdvance _ (by decide) (by decide)).andThen fun _ _ => trivial

end Protocol

end Auth
end IdentityBillpay
