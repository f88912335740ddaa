import IdentityBillpay.Auth.Service
import IdentityBillpay.Keycloak.Calls

/-!
# Signup — two ways to an account

`POST /auth/signup` makes a user of Keycloak in one request, `createCredentials` makes one in the
middle of a registration. Both call `createUser`.

* `KeycloakService.signup` — the program, and `site`, the service with both ways;
* `AccountAwaits` — the protocol of both: a request writes to the user that it has created, with its
  own password;
* `SignupEnds` — what a signup that has returned has done.
-/

namespace IdentityBillpay
namespace Auth

open Async Js Keycloak RegistrationStep
open Async.Program (Follows follows_call_bind)

/-- The body of `signup`. -/
structure SignupDto where
  username : String
  password : String
  email : Option String := none
  firstName : Option String := none
  lastName : Option String := none
  deriving DecidableEq

/-- What `signup` returns. -/
structure SignedUp where
  keycloakUserId : String
  username : String
  deriving DecidableEq

def SIGNUP_ROLE : String := "RETAIL_CUSTOMER"

namespace KeycloakService

/-- The payload that `signup` passes to `createUser`. -/
def account (dto : SignupDto) : CreateUserPayload where
  username := dto.username
  email := dto.email.getD (dto.username ++ "@signup.bharat-banking.local")
  firstName := dto.firstName.getD dto.username
  lastName := dto.lastName.getD dto.username
  password := dto.password
  enabled := some true

def signup (dto : SignupDto) : Prog SignedUp := do
  let existing ← findUsersByUsername http dto.username
  if 0 < existing.length then
    throw (.conflict ("Username " ++ dto.username ++ " already exists"))
  else do
    let user ← createUser http (account dto)
    assignRealmRoleToUser http user SIGNUP_ROLE
    return { keycloakUserId := user, username := dto.username }

end KeycloakService

inductive SiteRequest
  | registration (request : Request)
  | signup (dto : SignupDto)
  deriving DecidableEq

inductive SiteReply
  | registration (reply : Reply)
  | signedUp (result : SignedUp)
  deriving DecidableEq

def siteProgram (config : OtpConfig) : SiteRequest → Prog SiteReply
  | .registration r => do return .registration (← program config r)
  | .signup dto => do return .signedUp (← KeycloakService.signup dto)

/-- Registration and signup, over one Keycloak. -/
abbrev site (config : OtpConfig) : Service sig HttpError :=
  { backend with
    Request := SiteRequest
    Reply := SiteReply
    program := siteProgram config }

@[simp] theorem site_perform (config : OtpConfig) (op : Op) (ch : Choice) (s : Store) :
    (site config).perform op ch s = perform op ch s := rfl

/-! ## The protocol -/

/-- The password that the user of a request gets. -/
def Request.password : Request → String
  | .createCredentials dto => dto.password
  | _ => ""

def SiteRequest.password : SiteRequest → String
  | .registration r => r.password
  | .signup dto => dto.password

/-- The operation changes no account. -/
def Op.leavesAccounts : Op → Bool
  | .keycloak op => op.isRead
  | _ => true

/-- `POST users` has created the user for a request: the answer names it, or it was looked up. -/
def MadeUser (own : Own) (user : UserRepresentation) (userId : String) : Prop :=
  ∃ response : CreateUserResponse,
    (⟨.keycloak (.postUser user), .ok response⟩ : Awaited sig HttpError) ∈ own ∧
    response.status < 400 ∧
    (response.userId? = some userId ∨
      ∃ (found : KeycloakUser) (rest : List KeycloakUser), found.id = userId ∧
        (⟨.keycloak (.getUsers user.username), .ok (found :: rest)⟩ : Awaited sig HttpError) ∈ own)

theorem MadeUser.mono {own own' : Own} {user : UserRepresentation} {userId : String}
    (h : MadeUser own user userId) (hsub : own ⊆ own') : MadeUser own' user userId := by
  rcases h with ⟨response, hpost, hstatus, hid | ⟨found, rest, hid, hget⟩⟩
  · exact ⟨response, hsub hpost, hstatus, .inl hid⟩
  · exact ⟨response, hsub hpost, hstatus, .inr ⟨found, rest, hid, hsub hget⟩⟩

/-- The awaits of a request that gives its account this password. -/
inductive AccountAwaits (password : String) : Own → Op → Prop
  | other {own : Own} {op : Op} (hleaves : op.leavesAccounts = true) : AccountAwaits password own op
  | postUser {own : Own} (user : UserRepresentation) :
      AccountAwaits password own (.keycloak (.postUser user))
  | putPassword {own : Own} {user : UserRepresentation} {userId : String}
      (hmade : MadeUser own user userId) :
      AccountAwaits password own (.keycloak (.putPassword userId password))
  | postRoleMapping {own : Own} {user : UserRepresentation} {userId : String} {role : Role}
      (hmade : MadeUser own user userId)
      (hrole : (⟨.keycloak (.getRole SIGNUP_ROLE), .ok role⟩ : Awaited sig HttpError) ∈ own) :
      AccountAwaits password own (.keycloak (.postRoleMapping userId role))

/-- The user has been created and has got its password. -/
def HasAccount (password : String) (own : Own) (user : UserRepresentation) (userId : String) :
    Prop :=
  MadeUser own user userId ∧
    (⟨.keycloak (.putPassword userId password), .ok ()⟩ : Awaited sig HttpError) ∈ own

/-- The user has got the role of a customer. -/
def HasRole (own : Own) (userId : String) : Prop :=
  ∃ role : Role, (⟨.keycloak (.postRoleMapping userId role), .ok ()⟩ : Awaited sig HttpError) ∈ own

section Protocol

variable {password : String} {own : Own}

theorem follows_leaving {op : Op} (hleaves : op.leavesAccounts = true) :
    Follows (AccountAwaits password) (fun _ _ => True) own (call op) :=
  Program.follows_call (.other hleaves)

/-- The id that `createUser` goes on with is the id of the user it has created. -/
theorem follows_createdUserId (payload : CreateUserPayload) {response : CreateUserResponse}
    (hstatus : response.status < 400)
    (hpost : (⟨.keycloak (.postUser payload.representation), .ok response⟩ :
      Awaited sig HttpError) ∈ own) :
    Follows (AccountAwaits password)
      (fun own' r => own ⊆ own' ∧ ∀ userId, r = .ok userId →
        MadeUser own' payload.representation userId) own
      (createdUserId http payload response) := by
  unfold createdUserId
  cases hid : response.userId? with
  | some userId =>
      refine ⟨List.Subset.refl _, fun userId' heq => ?_⟩
      cases heq
      exact ⟨response, hpost, hstatus, .inl hid⟩
  | none =>
      unfold findUsersByUsername
      rw [bind_assoc]
      refine follows_call_bind (.other rfl) (fun e => ⟨by simp, fun _ h => by cases h⟩) fun _ => ?_
      refine follows_call_bind (.other rfl) (fun e => ⟨?_, fun _ h => by cases h⟩) fun users => ?_
      · exact fun a ha => by simp [ha]
      · cases husers : (users : List KeycloakUser) with
        | nil => exact ⟨fun a ha => by simp [ha], fun _ h => by cases h⟩
        | cons found rest =>
            refine ⟨fun a ha => by simp [ha], fun userId heq => ?_⟩
            cases heq
            refine ⟨response, by simp [hpost], hstatus, .inr ⟨found, rest, rfl, ?_⟩⟩
            exact List.mem_append_right _ (List.mem_singleton_self _)

theorem follows_createUser' (payload : CreateUserPayload) :
    Follows (AccountAwaits payload.password)
      (fun own' r => own ⊆ own' ∧ ∀ userId, r = .ok userId →
        HasAccount payload.password own' payload.representation userId) own
      (createUser http payload) := by
  unfold createUser
  refine follows_call_bind (.other rfl) (fun e => ⟨by simp, fun _ h => by cases h⟩) fun _ => ?_
  refine follows_call_bind (.postUser _) (fun e => ⟨?_, fun _ h => by cases h⟩) fun response => ?_
  · exact fun a ha => by simp [ha]
  split
  · exact ⟨fun a ha => by simp [ha], fun _ h => by cases h⟩
  · rename_i hstatus
    refine (follows_createdUserId payload (not_le.1 hstatus) (by simp)).bind ?_ ?_
    · rintro own₁ userId ⟨hsub₁, hmade⟩
      have hsub : own ⊆ own₁ := fun a ha => hsub₁ (by simp [ha])
      refine follows_call_bind (.putPassword (hmade userId rfl))
        (fun e => ⟨fun a ha => by simp [hsub ha], fun _ h => by cases h⟩) fun _ => ?_
      refine ⟨fun a ha => by simp [hsub ha], fun userId' heq => ?_⟩
      cases heq
      exact ⟨(hmade userId rfl).mono (List.subset_append_left _ _), by simp⟩
    · rintro own₁ e ⟨hsub₁, _⟩
      exact ⟨fun a ha => hsub₁ (by simp [ha]), fun _ h => by cases h⟩

theorem follows_assignRole {user : UserRepresentation} {userId : String}
    (hmade : MadeUser own user userId) :
    Follows (AccountAwaits password)
      (fun own' r => own ⊆ own' ∧ (r = .ok () → HasRole own' userId)) own
      (assignRealmRoleToUser http userId SIGNUP_ROLE) := by
  unfold assignRealmRoleToUser
  refine follows_call_bind (.other rfl) (fun e => ⟨by simp, fun h => by cases h⟩) fun _ => ?_
  refine follows_call_bind (.other rfl) (fun e => ⟨?_, fun h => by cases h⟩) fun role => ?_
  · exact fun a ha => by simp [ha]
  · refine ⟨.postRoleMapping (hmade.mono fun a ha => by simp [ha]) (by simp), fun r => ?_⟩
    refine Program.follows_settled.2 ⟨fun a ha => by simp [ha], fun hr => ?_⟩
    rw [hr]
    exact ⟨role, by simp⟩

/-- What a signup has done when it returns. -/
def SignupEnds (dto : SignupDto) (own : Own) (r : Except HttpError SiteReply) : Prop :=
  ∀ result, r = .ok (.signedUp result) → result.username = dto.username ∧
    HasAccount dto.password own (KeycloakService.account dto).representation
      result.keycloakUserId ∧ HasRole own result.keycloakUserId

theorem follows_signup (dto : SignupDto) :
    Follows (AccountAwaits dto.password) (SignupEnds dto) own
      (KeycloakService.signup dto >>= fun result => pure (.signedUp result)) := by
  unfold KeycloakService.signup findUsersByUsername
  rw [bind_assoc, bind_assoc]
  refine follows_call_bind (.other rfl) (fun e _ h => by cases h) fun _ => ?_
  refine follows_call_bind (.other rfl) (fun e _ h => by cases h) fun existing => ?_
  split
  · exact fun _ h => by cases h
  · rw [bind_assoc]
    refine (follows_createUser' (KeycloakService.account dto)).bind ?_ fun _ _ _ _ h => by cases h
    rintro own₁ userId ⟨_, haccount⟩
    have hcreated := haccount userId rfl
    rw [bind_assoc]
    refine (follows_assignRole hcreated.1).bind ?_ fun _ _ _ _ h => by cases h
    rintro own₂ _ ⟨hsub, hrole⟩ result heq
    cases heq
    exact ⟨rfl, ⟨hcreated.1.mono hsub, hsub hcreated.2⟩, hrole rfl⟩

/-! ### Registration -/

theorem follows_leavingFindOne (id : String) :
    Follows (AccountAwaits password) (fun _ _ => True) own (RegistrationService.findOne id) := by
  refine (follows_leaving rfl).andThen fun own found => ?_
  cases (found : Option RegistrationAttempt) with
  | none => trivial
  | some record => trivial

theorem follows_leavingOtpFindOne (id : String) :
    Follows (AccountAwaits password) (fun _ _ => True) own (OtpService.findOne id) := by
  refine (follows_leaving rfl).andThen fun own found => ?_
  cases (found : Option OtpChallenge) with
  | none => trivial
  | some record => trivial

theorem follows_leavingRequireStep (attempt : RegistrationAttempt) (expected : RegistrationStep) :
    Follows (AccountAwaits password) (fun _ _ => True) own
      (RegistrationService.requireStep attempt expected) := by
  unfold RegistrationService.requireStep
  split <;> trivial

theorem follows_leavingVerify (config : OtpConfig) (dto : VerifyOtpDto) :
    Follows (AccountAwaits password) (fun _ _ => True) own (OtpService.verify config dto) := by
  have hverify := (@OtpService.follows_verify config dto).prepend own
  rw [List.append_nil] at hverify
  refine hverify.mono ?_ fun _ _ _ => trivial
  rintro own op ⟨rest, _, hop⟩
  cases hop <;> exact .other rfl

theorem follows_leavingAdvance (attemptId : String) (toStep : RegistrationStep) :
    Follows (AccountAwaits password) (fun _ _ => True) own
      (RegistrationOrchestratorService.advance attemptId toStep) := by
  have hadvance := (follows_advance attemptId toStep).prepend own
  rw [List.append_nil] at hadvance
  refine hadvance.mono ?_ fun _ _ _ => trivial
  rintro own op ⟨rest, _, hop⟩
  cases hop <;> exact .other rfl

/-- Neither step that fails disables a user. -/
theorem follows_leavingRollback (attemptId : String) {atStep : RegistrationStep}
    (hstep : atStep = CREDENTIALS_SET ∨ atStep = DEVICE_REGISTERED) :
    Follows (AccountAwaits password) (fun _ _ => True) own
      (RegistrationCompensationService.rollback attemptId atStep) := by
  refine (follows_leaving rfl).andThen fun own found => ?_
  cases (found : Option RegistrationAttempt) with
  | none => trivial
  | some attempt =>
      rcases hstep with rfl | rfl
      · cases hid : truthy? attempt.keycloakUserId with
        | none => simp [hid]
        | some userId =>
            simp only [hid]
            refine Follows.orElse ((follows_leaving rfl).andThen fun own credential => ?_)
              fun _ _ => trivial
            cases (credential : Option Credential) with
            | none => trivial
            | some credential => exact follows_leaving rfl
      · cases hid : truthy? attempt.deviceProfileId with
        | none => simp [hid]
        | some deviceId =>
            simp only [hid]
            refine Follows.orElse (Follows.andThen ((follows_leaving rfl).andThen
              fun own device => ?_) fun own _ => follows_leaving rfl) fun _ _ => trivial
            cases (device : Option DeviceProfile) with
            | none => trivial
            | some device => trivial

theorem follows_leavingFailed (attemptId : String) {atStep : RegistrationStep} (error : HttpError)
    (hstep : atStep = CREDENTIALS_SET ∨ atStep = DEVICE_REGISTERED) :
    Follows (AccountAwaits password) (fun _ _ => True) own
      (RegistrationService.failed attemptId atStep error) := by
  refine Follows.andThen ?_ fun _ _ => trivial
  refine (follows_leaving rfl).andThen fun own found => ?_
  cases (found : Option RegistrationAttempt) with
  | none => exact follows_leavingRollback _ hstep
  | some attempt => exact (follows_leaving rfl).andThen fun _ _ => follows_leavingRollback _ hstep

theorem follows_accountCredentials (dto : CreateCredentialsDto) :
    Follows (AccountAwaits dto.password) (fun _ _ => True) own
      (RegistrationService.createCredentials dto) := by
  refine (follows_leavingFindOne _).andThen fun own attempt => Follows.andThen ?_ fun own _ =>
    Follows.andThen ?_ fun own _ => Follows.andThen (Follows.orElse ?_ fun _ _ =>
      follows_leavingFailed _ _ (.inl rfl)) fun own _ => follows_leavingAdvance _ _
  · unfold RegistrationService.requireCredentialsStep
    split <;> trivial
  · unfold RegistrationService.markCredentialsSet
    split
    · exact (follows_leavingAdvance _ _).andThen fun _ _ => trivial
    · trivial
  · refine (follows_createUser' (RegistrationService.customer attempt.mobileNumber
      dto.password)).bind ?_ fun _ _ _ => trivial
    rintro own₁ userId ⟨_, haccount⟩
    refine (follows_assignRole (haccount userId rfl).1).bind ?_ fun _ _ _ => trivial
    intro own₂ _ _
    exact (follows_leavingFindOne _).andThen fun own _ => follows_leaving rfl

theorem follows_leavingDevice (dto : RegisterAttemptDeviceDto) :
    Follows (AccountAwaits password) (fun _ _ => True) own
      (RegistrationService.registerDevice dto) := by
  refine (follows_leavingFindOne _).andThen fun own attempt =>
    (follows_leavingRequireStep _ _).andThen fun own _ => ?_
  cases truthy? attempt.keycloakUserId with
  | none => trivial
  | some userId =>
      refine Follows.andThen (Follows.orElse ?_ fun _ _ => follows_leavingFailed _ _ (.inr rfl))
        fun own _ => follows_leavingAdvance _ _
      refine Follows.andThen ((follows_leaving rfl).andThen fun _ _ => trivial) fun own _ => ?_
      exact (follows_leavingFindOne _).andThen fun own _ => follows_leaving rfl

theorem follows_accountRegistration (config : OtpConfig) (r : Request) :
    Follows (AccountAwaits r.password) (fun _ _ => True) own (program config r) := by
  cases r with
  | createCredentials dto => exact (follows_accountCredentials dto).andThen fun _ _ => trivial
  | verifyOtp dto =>
      refine Follows.andThen ?_ fun _ _ => trivial
      refine (follows_leavingFindOne _).andThen fun own attempt =>
        (follows_leavingRequireStep _ _).andThen fun own _ => ?_
      exact (follows_leavingVerify config _).andThen fun own _ => follows_leavingAdvance _ _
  | registerDevice dto => exact (follows_leavingDevice dto).andThen fun _ _ => trivial
  | complete id =>
      refine Follows.andThen ?_ fun _ _ => trivial
      refine (follows_leavingFindOne _).andThen fun own attempt =>
        (follows_leavingRequireStep _ _).andThen fun own _ => ?_
      exact (follows_leavingAdvance _ _).andThen fun _ _ => trivial
  | create dto =>
      refine Follows.andThen ?_ fun _ _ => trivial
      exact (follows_leaving rfl).andThen fun _ _ => trivial
  | resume id =>
      refine Follows.andThen ?_ fun _ _ => trivial
      refine (follows_leaving rfl).andThen fun own found => ?_
      cases (found : Option RegistrationAttempt) with
      | none => trivial
      | some attempt => trivial
  | list => exact (follows_leaving rfl).andThen fun _ _ => trivial
  | get id => exact (follows_leavingFindOne id).andThen fun _ _ => trivial
  | delete id =>
      refine Follows.andThen ?_ fun _ _ => trivial
      exact (follows_leavingFindOne id).andThen fun _ _ => follows_leaving rfl
  | otpCreate dto =>
      refine Follows.andThen ?_ fun _ _ => trivial
      refine (follows_leaving rfl).andThen fun _ _ => (follows_leaving rfl).andThen fun _ _ => ?_
      exact (follows_leaving rfl).andThen fun _ _ => trivial
  | otpVerify dto => exact (follows_leavingVerify config dto).andThen fun _ _ => trivial
  | otpList => exact (follows_leaving rfl).andThen fun _ _ => trivial
  | otpGet id => exact (follows_leavingOtpFindOne id).andThen fun _ _ => trivial
  | otpDelete id =>
      refine Follows.andThen ?_ fun _ _ => trivial
      exact (follows_leavingOtpFindOne id).andThen fun _ _ => follows_leaving rfl

/-! ### Both -/

def SiteEnds : SiteRequest → Own → Except HttpError SiteReply → Prop
  | .registration _, _, _ => True
  | .signup dto, own, r => SignupEnds dto own r

theorem follows_site (config : OtpConfig) (r : SiteRequest) :
    Follows (AccountAwaits r.password) (SiteEnds r) own (siteProgram config r) := by
  cases r with
  | registration r => exact (follows_accountRegistration config r).andThen fun _ _ => trivial
  | signup dto => exact follows_signup dto

end Protocol

end Auth
end IdentityBillpay
