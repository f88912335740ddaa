import IdentityBillpay.Auth.RegistrationService

/-!
# Service — the requests of registration and of the one-time passwords

* `Request`, `service` — every entry point as a request, answered by its program;
* `Awaits`, `Ends` — what a request may await after the events it has seen, and how it settles;
* `follows_program` — every program follows its protocol.
-/

namespace IdentityBillpay
namespace Auth

open Async Keycloak
open Async.Program (Follows follows_call_bind)

inductive Request
  | create (dto : InitRegistrationDto)
  | verifyOtp (dto : VerifyRegistrationOtpDto)
  | createCredentials (dto : CreateCredentialsDto)
  | registerDevice (dto : RegisterAttemptDeviceDto)
  | complete (id : String)
  | resume (id : String)
  | list
  | get (id : String)
  | delete (id : String)
  | otpCreate (dto : GenerateOtpDto)
  | otpVerify (dto : VerifyOtpDto)
  | otpList
  | otpGet (id : String)
  | otpDelete (id : String)
  deriving DecidableEq

inductive Reply
  | attempt (attempt : RegistrationAttempt)
  | attempts (attempts : List RegistrationAttempt)
  | resumed (result : ResumeResult)
  | completed (result : Completed)
  | deleted (id : String)
  | generated (otp : GeneratedOtp)
  | verified (mobileNumber : String)
  | challenge (challenge : OtpChallenge)
  | challenges (challenges : List OtpChallenge)
  deriving DecidableEq

def program (config : OtpConfig) : Request → Prog Reply
  | .create dto => do return .attempt (← RegistrationService.create dto)
  | .verifyOtp dto => do return .attempt (← RegistrationService.verifyOtp config dto)
  | .createCredentials dto => do return .attempt (← RegistrationService.createCredentials dto)
  | .registerDevice dto => do return .attempt (← RegistrationService.registerDevice dto)
  | .complete id => do return .completed (← RegistrationService.complete id)
  | .resume id => do return .resumed (← RegistrationOrchestratorService.resume id)
  | .list => do return .attempts (← RegistrationService.findAll)
  | .get id => do return .attempt (← RegistrationService.findOne id)
  | .delete id => do
      RegistrationService.softDelete id
      return .deleted id
  | .otpCreate dto => do return .generated (← OtpService.create config dto)
  | .otpVerify dto => do return .verified (← OtpService.verify config dto)
  | .otpList => do return .challenges (← OtpService.findAll)
  | .otpGet id => do return .challenge (← OtpService.findOne id)
  | .otpDelete id => do
      OtpService.softDelete id
      return .deleted id

abbrev service (config : OtpConfig) : Service sig HttpError :=
  { backend with
    Request := Request
    Reply := Reply
    program := program config }

@[simp] theorem service_perform (config : OtpConfig) (op : Op) (ch : Choice) (s : Store) :
    (service config).perform op ch s = perform op ch s := rfl

/-! ## The order of awaits -/

/-- The body that `RegistrationService.verifyOtp` passes to `OtpService.verify`. -/
def VerifyRegistrationOtpDto.verifyDto (dto : VerifyRegistrationOtpDto) : VerifyOtpDto where
  challengeId := dto.challengeId
  otp := dto.otp

/-- After the events `own`, a call of `OtpService.verify` awaits `op`. -/
def Verifying (config : OtpConfig) (dto : VerifyOtpDto) (own : Own) (op : Op) : Prop :=
  OtpService.VerifyAwaits config dto own op ∧
    ∃ k, (OtpService.verify config dto).after own = .await op k

/-- After the events `own`, a call of `OtpService.verify` has settled. -/
def VerifySettled (config : OtpConfig) (dto : VerifyOtpDto) (own : Own)
    (r : Except HttpError String) : Prop :=
  OtpService.VerifyEnds config dto own r ∧
    (OtpService.verify config dto).after own = Program.settled r

theorem follows_verifying (config : OtpConfig) (dto : VerifyOtpDto) :
    Follows (Verifying config dto) (VerifySettled config dto) []
      (OtpService.verify config dto) := by
  refine OtpService.follows_verify.recorded.mono ?_ ?_
  · intro own op hop
    rcases hop with ⟨hop, as, k, hown, hafter⟩
    have heq : own = as := by simpa using hown
    exact ⟨hop, k, heq ▸ hafter⟩
  · intro own r hr
    rcases hr with ⟨hr, as, hown, hafter⟩
    have heq : own = as := by simpa using hown
    exact ⟨hr, heq ▸ hafter⟩

/-- `verifyOtp` reads the attempt, verifies the code, and advances the attempt. -/
inductive VerifyOtpAwaits (config : OtpConfig) (dto : VerifyRegistrationOtpDto) : Own → Op → Prop
  | findAttempt : VerifyOtpAwaits config dto [] (.findAttempt dto.attemptId)
  | verify {attempt : RegistrationAttempt} {own : Own} {op : Op}
      (hstep : attempt.currentStep = RegistrationStep.INIT.text)
      (hverify : Verifying config dto.verifyDto own op) :
      VerifyOtpAwaits config dto (⟨.findAttempt dto.attemptId, .ok (some attempt)⟩ :: own) op
  | advance {attempt : RegistrationAttempt} {own own' : Own} {op : Op} {mobileNumber : String}
      (hverified : VerifySettled config dto.verifyDto own (.ok mobileNumber))
      (hadvance : AdvanceAwaits dto.attemptId .OTP_VERIFIED own' op) :
      VerifyOtpAwaits config dto
        (⟨.findAttempt dto.attemptId, .ok (some attempt)⟩ :: (own ++ own')) op

inductive VerifyOtpEnds (config : OtpConfig) (dto : VerifyRegistrationOtpDto) : Own → Prop
  | refused {own : Own} (hreads : ∀ a ∈ own, a.op.part ≠ some .challenges) :
      VerifyOtpEnds config dto own
  | stopped {attempt : RegistrationAttempt} {own : Own} {e : HttpError}
      (hverify : VerifySettled config dto.verifyDto own (.error e)) :
      VerifyOtpEnds config dto (⟨.findAttempt dto.attemptId, .ok (some attempt)⟩ :: own)
  | advanced {attempt : RegistrationAttempt} {own own' : Own} {mobileNumber : String}
      {r : Except HttpError RegistrationAttempt}
      (hverified : VerifySettled config dto.verifyDto own (.ok mobileNumber))
      (hadvance : AdvanceEnds dto.attemptId .OTP_VERIFIED own' r) :
      VerifyOtpEnds config dto (⟨.findAttempt dto.attemptId, .ok (some attempt)⟩ :: (own ++ own'))

/-- Reading the attempt and checking its step. -/
theorem follows_readAtStep (config : OtpConfig) (dto : VerifyRegistrationOtpDto) :
    Follows (VerifyOtpAwaits config dto)
      (fun own r => match r with
        | .ok _ => ∃ attempt : RegistrationAttempt,
            attempt.currentStep = RegistrationStep.INIT.text ∧
            own = [⟨.findAttempt dto.attemptId, .ok (some attempt)⟩]
        | .error _ => VerifyOtpEnds config dto own) []
      (RegistrationService.findOne dto.attemptId >>= fun attempt =>
        RegistrationService.requireStep attempt .INIT) := by
  unfold RegistrationService.findOne
  rw [bind_assoc]
  apply follows_call_bind .findAttempt
  · exact fun e => .refused (by simp [Op.part])
  · intro found
    cases (found : Option RegistrationAttempt) with
    | none => exact .refused (by simp [Op.part])
    | some attempt =>
        change Follows _ _ _ (RegistrationService.requireStep attempt .INIT)
        unfold RegistrationService.requireStep
        split
        · exact .refused (by simp [Op.part])
        · rename_i hstep
          exact ⟨attempt, not_not.1 hstep, rfl⟩

theorem follows_verifyOtp (config : OtpConfig) (dto : VerifyRegistrationOtpDto) :
    Follows (VerifyOtpAwaits config dto) (fun own _ => VerifyOtpEnds config dto own) []
      (RegistrationService.verifyOtp config dto) := by
  have hread := follows_readAtStep config dto
  -- The reads of the step come first, then `verify`, then `advance`.
  have hsplit : RegistrationService.verifyOtp config dto =
      (RegistrationService.findOne dto.attemptId >>= fun attempt =>
        RegistrationService.requireStep attempt .INIT) >>= fun _ =>
      OtpService.verify config dto.verifyDto >>= fun _ =>
      RegistrationOrchestratorService.advance dto.attemptId .OTP_VERIFIED := by
    rw [bind_assoc]
    rfl
  rw [hsplit]
  refine hread.bind ?_ fun _ _ h => h
  intro own _ hown
  rcases hown with ⟨attempt, hstep, rfl⟩
  have hverify := (follows_verifying config dto.verifyDto).prepend
    [⟨.findAttempt dto.attemptId, .ok (some attempt)⟩]
  refine Follows.bind (hverify.mono ?_ fun _ _ h => h) ?_ ?_
  · intro own op hop
    rcases hop with ⟨rest, rfl, hop⟩
    exact .verify hstep hop
  · intro own mobileNumber hverified
    rcases hverified with ⟨rest, rfl, hverified⟩
    have hadvance := (follows_advance dto.attemptId .OTP_VERIFIED).prepend
      (⟨.findAttempt dto.attemptId, .ok (some attempt)⟩ :: rest)
    rw [List.append_nil] at hadvance
    refine hadvance.mono ?_ ?_
    · intro own op hop
      rcases hop with ⟨rest', rfl, hop⟩
      exact .advance hverified hop
    · intro own r hr
      rcases hr with ⟨rest', rfl, hr⟩
      exact .advanced hverified hr
  · intro own e hstopped
    rcases hstopped with ⟨rest, rfl, hstopped⟩
    exact .stopped hstopped

/-- What a request may await after the events `own`. -/
def Awaits (config : OtpConfig) : Request → Own → Op → Prop
  | .verifyOtp dto, own, op => VerifyOtpAwaits config dto own op
  | .otpVerify dto, own, op => Verifying config dto own op
  | _, own, op => StepAwaits own op

/-- How a request settles; nothing is said but about the verifications. -/
def Ends (config : OtpConfig) : Request → Own → Except HttpError Reply → Prop
  | .verifyOtp dto, own, _ => VerifyOtpEnds config dto own
  | .otpVerify dto, own, _ => ∃ r, VerifySettled config dto own r
  | _, _, _ => True

theorem follows_otpCreate (config : OtpConfig) (dto : GenerateOtpDto) (own : Own) :
    Follows StepAwaits (fun _ _ => True) own (OtpService.create config dto) := by
  refine (follows_other (by trivial)).andThen fun own _ => ?_
  refine (follows_other (by trivial)).andThen fun own _ => ?_
  exact (follows_other (by trivial)).andThen fun _ _ => trivial

theorem follows_otpFindOne (id : String) (own : Own) :
    Follows StepAwaits (fun _ _ => True) own (OtpService.findOne id) := by
  refine (follows_other (by trivial)).andThen fun own found => ?_
  cases (found : Option OtpChallenge) with
  | none => trivial
  | some record => trivial

/-- Every request but a verification. -/
theorem follows_step (config : OtpConfig) {r : Request} (hverify : ∀ dto, r ≠ .verifyOtp dto)
    (hotp : ∀ dto, r ≠ .otpVerify dto) :
    Follows StepAwaits (fun _ _ => True) [] (program config r) := by
  cases r with
  | verifyOtp dto => exact absurd rfl (hverify dto)
  | otpVerify dto => exact absurd rfl (hotp dto)
  | create dto =>
      refine Follows.andThen ?_ fun _ _ => trivial
      exact (follows_other (by rfl)).andThen fun _ _ => trivial
  | createCredentials dto => exact (follows_createCredentials dto).andThen fun _ _ => trivial
  | registerDevice dto => exact (follows_registerDevice dto).andThen fun _ _ => trivial
  | complete id => exact (follows_complete id).andThen fun _ _ => trivial
  | resume id =>
      refine Follows.andThen ?_ fun _ _ => trivial
      exact follows_findAttempt (fun _ => trivial) fun _ _ => trivial
  | list =>
      refine Follows.andThen ?_ fun _ _ => trivial
      exact follows_other trivial
  | get id => exact (follows_findOne id).andThen fun _ _ => trivial
  | delete id =>
      refine Follows.andThen ?_ fun _ _ => trivial
      exact (follows_findOne id).andThen fun _ _ => follows_other trivial
  | otpCreate dto => exact (follows_otpCreate config dto []).andThen fun _ _ => trivial
  | otpList =>
      refine Follows.andThen ?_ fun _ _ => trivial
      exact follows_other trivial
  | otpGet id => exact (follows_otpFindOne id []).andThen fun _ _ => trivial
  | otpDelete id =>
      refine Follows.andThen ?_ fun _ _ => trivial
      exact (follows_otpFindOne id []).andThen fun _ _ => follows_other trivial

/-- Every program follows its protocol. -/
theorem follows_program (config : OtpConfig) (r : Request) :
    Follows (Awaits config r) (Ends config r) [] (program config r) := by
  cases r with
  | verifyOtp dto => exact (follows_verifyOtp config dto).bind (fun _ _ h => h) fun _ _ h => h
  | otpVerify dto =>
      exact (follows_verifying config dto).bind (fun _ _ h => ⟨_, h⟩) fun _ _ h => ⟨_, h⟩
  | _ => exact follows_step config (by simp) (by simp)

/-! ## Writes of verifications -/

/-- The body of the call of `OtpService.verify` that a request makes. -/
def Request.verifyDto? : Request → Option VerifyOtpDto
  | .otpVerify dto => some dto
  | .verifyOtp dto => some dto.verifyDto
  | _ => none

section Writes

variable {config : OtpConfig} {r : Request} {own : Own}

theorem verifying_reads {dto : VerifyOtpDto} {op : Op} (h : Verifying config dto own op) :
    ∀ a ∈ own, a.op.part ≠ some .challenges := by
  cases h.1 with
  | findChallenge => simp
  | now hread => exact hread.reads
  | saveChallenge hread _ _ => exact hread.reads
  | softDeleteChallenge hread _ => exact hread.reads

theorem StepAwaits.ne_saveChallenge {challenge : OtpChallenge}
    (h : StepAwaits own (.saveChallenge challenge)) : False := by
  cases h with
  | other hplain => exact hplain

/-- Whatever inserts an attempt inserts it at `INIT`. -/
theorem awaits_insertAttempt {new : NewAttempt} (h : Awaits config r own (.insertAttempt new)) :
    new.currentStep = RegistrationStep.INIT.text := by
  have hstep : ∀ {own : Own}, StepAwaits own (.insertAttempt new) →
      new.currentStep = RegistrationStep.INIT.text := by
    intro own h
    cases h with
    | other hplain => exact hplain
  cases r with
  | otpVerify dto => cases h.1
  | verifyOtp dto =>
      cases h with
      | verify _ hverify => cases hverify.1
      | advance _ hadvance => cases hadvance
  | _ => exact hstep h

/-- Whatever saves an attempt saves a change of the row it has read just before, with a device it
knows of; and what moves it to `OTP_VERIFIED` is a `verifyOtp` whose code has been verified. -/
theorem awaits_saveAttempt {changed : RegistrationAttempt}
    (h : Awaits config r own (.saveAttempt changed)) :
    ∃ before id attempt, own = before ++ [⟨.findAttempt id, .ok (some attempt)⟩] ∧
      attempt.Changes changed ∧
      (changed.currentStep = RegistrationStep.OTP_VERIFIED.text →
        attempt.currentStep = RegistrationStep.OTP_VERIFIED.text ∨
        ∃ dto found seen mobileNumber, r = .verifyOtp dto ∧ id = dto.attemptId ∧
          before = ⟨.findAttempt dto.attemptId, .ok (some found)⟩ :: seen ∧
          VerifySettled config dto.verifyDto seen (.ok mobileNumber)) ∧
      DeviceKnown before attempt changed := by
  have hstep : ∀ {own : Own}, StepAwaits own (.saveAttempt changed) →
      ∃ before id attempt, own = before ++ [⟨.findAttempt id, .ok (some attempt)⟩] ∧
        attempt.Changes changed ∧
        (changed.currentStep = RegistrationStep.OTP_VERIFIED.text →
          attempt.currentStep = RegistrationStep.OTP_VERIFIED.text) ∧
        DeviceKnown before attempt changed := by
    intro own h
    cases h with
    | saveAttempt hchange hverified hdevice => exact ⟨_, _, _, rfl, hchange, hverified, hdevice⟩
    | other hplain => exact absurd hplain id
  -- Only `verifyOtp` brings an attempt to OTP_VERIFIED.
  cases r with
  | otpVerify dto => cases h.1
  | verifyOtp dto =>
      cases h with
      | verify _ hverify => cases hverify.1
      | @advance found seen _ _ mobileNumber hverified hadvance =>
          cases hadvance with
          | saveAttempt hnext =>
              refine ⟨_ :: seen, dto.attemptId, _, rfl, .step hnext (by decide), fun _ => .inr ?_,
                .inl rfl⟩
              exact ⟨dto, found, seen, mobileNumber, rfl, rfl, rfl, hverified⟩
  | _ =>
      rcases hstep h with ⟨before, id, attempt, hown, hchange, hverified, hdevice⟩
      exact ⟨before, id, attempt, hown, hchange, fun heq => .inl (hverified heq), hdevice⟩

/-- The attempt that an event has found. -/
def readAttempt? : Awaited sig HttpError → Option RegistrationAttempt
  | ⟨.findAttempt _, .ok found⟩ => found
  | _ => none

/-- The attempt a request has read last. -/
def lastRead? (own : Own) : Option RegistrationAttempt :=
  own.reverse.findSome? readAttempt?

theorem lastRead?_concat (own : Own) (id : String) (a : RegistrationAttempt) :
    lastRead? (own ++ [⟨.findAttempt id, .ok (some a)⟩]) = some a := by
  rw [lastRead?, List.reverse_append]
  rfl

/-- The attempt that an event has saved. -/
def savedAttempt? : Awaited sig HttpError → Option RegistrationAttempt
  | ⟨.saveAttempt attempt, .ok _⟩ => some attempt
  | _ => none

theorem savedAttempt?_ok {a : RegistrationAttempt} {res : Except HttpError Unit}
    (h : res = .ok ()) : savedAttempt? ⟨.saveAttempt a, res⟩ = some a := by
  rw [h]
  rfl

theorem savedAttempt?_eq {a saved : RegistrationAttempt} {res : Except HttpError Unit}
    (h : savedAttempt? ⟨.saveAttempt a, res⟩ = some saved) : saved = a := by
  cases res with
  | ok _ => exact (Option.some.inj h).symm
  | error e => cases h

/-- The challenge that an event has found. -/
def readChallenge? : Awaited sig HttpError → Option OtpChallenge
  | ⟨.findChallenge _, .ok found⟩ => found
  | _ => none

/-- The challenge that an operation saves. -/
def Op.savedChallenge? : Op → Option OtpChallenge
  | .saveChallenge challenge => some challenge
  | _ => none

/-- Only a verification saves a challenge: the one it has read, counted, and before any other
write to a challenge. -/
theorem awaits_saveChallenge {c' : OtpChallenge} (h : Awaits config r own (.saveChallenge c')) :
    ∃ dto c, r.verifyDto? = some dto ∧
      (⟨.findChallenge dto.challengeId, .ok (some c)⟩ : Awaited sig HttpError) ∈ own ∧
      OtpService.Counted config c c' ∧ ∀ a ∈ own, a.op.part ≠ some .challenges := by
  have hverify : ∀ {dto : VerifyOtpDto} {own : Own}, Verifying config dto own (.saveChallenge c') →
      ∃ c, (⟨.findChallenge dto.challengeId, .ok (some c)⟩ : Awaited sig HttpError) ∈ own ∧
        OtpService.Counted config c c' ∧ ∀ a ∈ own, a.op.part ≠ some .challenges := by
    intro dto own h
    cases h.1 with
    | saveChallenge hread _ hcounted => exact ⟨_, hread.mem, hcounted, hread.reads⟩
  cases r with
  | otpVerify dto =>
      rcases hverify h with ⟨c, hread, hcounted, hreads⟩
      exact ⟨dto, c, rfl, hread, hcounted, hreads⟩
  | verifyOtp dto =>
      cases h with
      | verify _ h =>
          rcases hverify h with ⟨c, hread, hcounted, hreads⟩
          refine ⟨dto.verifyDto, c, rfl, List.mem_cons_of_mem _ hread, hcounted, ?_⟩
          intro a ha
          rcases List.mem_cons.1 ha with rfl | ha
          · simp [Op.part]
          · exact hreads a ha
      | advance _ hadvance => cases hadvance
  | _ => exact h.ne_saveChallenge.elim

/-- A verification writes a challenge when it has read it, and has written none before. -/
theorem awaits_challengeWrite {op : Op} {dto : VerifyOtpDto} (h : Awaits config r own op)
    (hr : r.verifyDto? = some dto) (hop : op.part = some .challenges) :
    ∃ c, (⟨.findChallenge dto.challengeId, .ok (some c)⟩ : Awaited sig HttpError) ∈ own ∧
      ∀ a ∈ own, a.op.part ≠ some .challenges := by
  have hverify : ∀ {own : Own}, Verifying config dto own op →
      ∃ c, (⟨.findChallenge dto.challengeId, .ok (some c)⟩ : Awaited sig HttpError) ∈ own ∧
        ∀ a ∈ own, a.op.part ≠ some .challenges := by
    intro own h
    cases h.1 with
    | findChallenge => cases hop
    | now _ => cases hop
    | saveChallenge hread _ _ => exact ⟨_, hread.mem, hread.reads⟩
    | softDeleteChallenge hread _ => exact ⟨_, hread.mem, hread.reads⟩
  cases r with
  | otpVerify dto' =>
      cases hr
      exact hverify h
  | verifyOtp dto' =>
      cases hr
      cases h with
      | findAttempt => cases hop
      | verify _ h =>
          rcases hverify h with ⟨c, hread, hreads⟩
          refine ⟨c, List.mem_cons_of_mem _ hread, ?_⟩
          intro a ha
          rcases List.mem_cons.1 ha with rfl | ha
          · simp [Op.part]
          · exact hreads a ha
      | advance _ hadvance =>
          cases hadvance with
          | findAttempt => cases hop
          | saveAttempt _ => cases hop
  | _ => cases hr

end Writes

/-! ## Sample data -/

/-- Five attempts, fifteen minutes of lock, five minutes to live; a code is its own hash. -/
def sampleConfig : OtpConfig :=
  .fromEnv 5 15 300 id

/-- Nothing fails, no time passes, and a new row or user takes the given id. -/
def Choice.smooth (freshId : String) : Choice where
  fails := false
  lost := false
  message := ""
  refusal := none
  freshId := freshId
  location := some ["users"]
  pick := 0
  elapsed := 0
  random := 23456

/-- The operation fails. -/
def Choice.failing (message : String) : Choice :=
  { Choice.smooth "" with fails := true, message := message }

def sampleAttempt : RegistrationAttempt :=
  (NewAttempt.mk "9876543210" "CIF12345" RegistrationStep.INIT.text).row "attempt-1"

/-- The same attempt, later. -/
def attemptAt (step : RegistrationStep) (keycloakUserId deviceProfileId : Option String) :
    RegistrationAttempt :=
  { sampleAttempt with
    currentStep := step.text
    keycloakUserId := keycloakUserId
    deviceProfileId := deviceProfileId }

def sampleChallenge : OtpChallenge :=
  (NewChallenge.mk "9876543210" "123456" 0 300000).row "challenge-1"

/-- At the time 0, with the role that customers get. -/
def sampleStore (attempts : List RegistrationAttempt) (challenges : List OtpChallenge)
    (devices : List DeviceProfile) (users : List KeycloakUser) : Store where
  attempts := .ofRows _ _ attempts
  challenges := .ofRows _ _ challenges
  devices := .ofRows _ _ devices
  credentials := .empty
  realm :=
    { users := .ofRows _ _ users
      roles := .ofRows _ _ [⟨"role-1", "RETAIL_CUSTOMER", ""⟩] }
  clock := 0

end Auth
end IdentityBillpay
