import IdentityBillpay.Js.Date
import IdentityBillpay.Keycloak.KeycloakService

/-!
# Entities — rows and request bodies of the auth module

* `RegistrationStep`, `STEP_ORDER`, `indexOf` — the steps of the saga and their order;
* `RegistrationAttempt`, `OtpChallenge`, `DeviceProfile`, `Credential` — the tables' rows;
* the request bodies, and `OtpConfig`, what the OTP service takes from its environment.
-/

namespace IdentityBillpay
namespace Auth

open Js (Date)

/-! ## The saga's steps -/

inductive RegistrationStep
  | INIT
  | OTP_VERIFIED
  | CREDENTIALS_SET
  | DEVICE_REGISTERED
  | KEYCLOAK_USER_CREATED
  | COMPLETED
  deriving DecidableEq

namespace RegistrationStep

/-- The value of the enum member, as `currentStep` stores it. -/
def text : RegistrationStep → String
  | INIT => "INIT"
  | OTP_VERIFIED => "OTP_VERIFIED"
  | CREDENTIALS_SET => "CREDENTIALS_SET"
  | DEVICE_REGISTERED => "DEVICE_REGISTERED"
  | KEYCLOAK_USER_CREATED => "KEYCLOAK_USER_CREATED"
  | COMPLETED => "COMPLETED"

end RegistrationStep

open RegistrationStep

def STEP_ORDER : List RegistrationStep :=
  [INIT, OTP_VERIFIED, CREDENTIALS_SET, KEYCLOAK_USER_CREATED, DEVICE_REGISTERED, COMPLETED]

/-- `STEP_ORDER.indexOf(step)`: `-1` for a text that is no step. -/
def indexOf (step : String) : Int :=
  match STEP_ORDER.findIdx? fun s => s.text == step with
  | some i => i
  | none => -1

def NEXT_ACTION : RegistrationStep → String
  | INIT => "POST /auth/otp/create then /auth/registration/verify-otp"
  | OTP_VERIFIED => "POST /auth/registration/create-credentials"
  | CREDENTIALS_SET =>
      "Keycloak user provisioning did not complete — retry POST /auth/registration/create-credentials"
  | KEYCLOAK_USER_CREATED => "POST /auth/registration/register-device"
  | DEVICE_REGISTERED => "POST /auth/registration/complete"
  | COMPLETED => "Registration already complete — POST /auth/login"

/-- `NEXT_ACTION[step] ?? NEXT_ACTION[INIT]`. -/
def nextAction (step : String) : String :=
  match STEP_ORDER.find? fun s => s.text == step with
  | some s => NEXT_ACTION s
  | none => NEXT_ACTION INIT

/-! ## Rows -/

structure RegistrationAttempt where
  id : String
  mobileNumber : String
  panOrCif : String
  currentStep : String
  failureReason : Option String
  keycloakUserId : Option String
  deviceProfileId : Option String
  deletedAt : Option Date
  deriving DecidableEq

structure OtpChallenge where
  id : String
  mobileNumber : String
  otpHash : String
  attemptCount : Nat
  lockedUntil : Option Date
  expiresAt : Date
  deletedAt : Option Date
  deriving DecidableEq

structure DeviceProfile where
  id : String
  userId : String
  deviceId : String
  deviceModel : Option String
  trusted : Bool
  deletedAt : Option Date
  deriving DecidableEq

structure Credential where
  id : String
  keycloakUserId : String
  hashedMpin : String
  lastRotatedAt : Option Date
  deletedAt : Option Date
  deriving DecidableEq

/-- A column that may be `NULL`, when its value is truthy. -/
def truthy? (column : Option String) : Option String :=
  column.filter (· ≠ "")

/-! ## Entities before their insert -/

structure NewAttempt where
  mobileNumber : String
  panOrCif : String
  currentStep : String
  deriving DecidableEq

def NewAttempt.row (new : NewAttempt) (id : String) : RegistrationAttempt where
  id := id
  mobileNumber := new.mobileNumber
  panOrCif := new.panOrCif
  currentStep := new.currentStep
  failureReason := none
  keycloakUserId := none
  deviceProfileId := none
  deletedAt := none

structure NewChallenge where
  mobileNumber : String
  otpHash : String
  attemptCount : Nat
  expiresAt : Date
  deriving DecidableEq

def NewChallenge.row (new : NewChallenge) (id : String) : OtpChallenge where
  id := id
  mobileNumber := new.mobileNumber
  otpHash := new.otpHash
  attemptCount := new.attemptCount
  lockedUntil := none
  expiresAt := new.expiresAt
  deletedAt := none

structure NewDevice where
  userId : String
  deviceId : String
  deviceModel : Option String
  trusted : Bool
  deriving DecidableEq

def NewDevice.row (new : NewDevice) (id : String) : DeviceProfile where
  id := id
  userId := new.userId
  deviceId := new.deviceId
  deviceModel := new.deviceModel
  trusted := new.trusted
  deletedAt := none

/-! ## Request bodies -/

structure InitRegistrationDto where
  mobileNumber : String
  panOrCif : String
  deriving DecidableEq

structure VerifyRegistrationOtpDto where
  attemptId : String
  challengeId : String
  otp : String
  deriving DecidableEq

structure CreateCredentialsDto where
  attemptId : String
  password : String
  deriving DecidableEq

structure RegisterAttemptDeviceDto where
  attemptId : String
  deviceId : String
  deviceModel : Option String
  deriving DecidableEq

structure GenerateOtpDto where
  mobileNumber : String
  deriving DecidableEq

structure VerifyOtpDto where
  challengeId : String
  otp : String
  deriving DecidableEq

structure RegisterDeviceDto where
  userId : String
  deviceId : String
  deviceModel : Option String
  deriving DecidableEq

/-! ## Configuration -/

/-- What `OtpService` takes from the environment, with both durations in milliseconds, and Node's
SHA-256 in hexadecimal. -/
structure OtpConfig where
  maxAttempts : Nat
  lockDuration : Nat
  timeToLive : Nat
  hashOtp : String → String

/-- The configuration for `OTP_MAX_ATTEMPTS`, `OTP_LOCK_MINUTES` and `OTP_TTL_SECONDS`. -/
def OtpConfig.fromEnv (maxAttempts lockMinutes ttlSeconds : Nat) (hashOtp : String → String) :
    OtpConfig where
  maxAttempts := maxAttempts
  lockDuration := lockMinutes * 60000
  timeToLive := ttlSeconds * 1000
  hashOtp := hashOtp

/-! ## The order of the steps -/

@[simp] theorem indexOf_INIT : indexOf INIT.text = 0 := by decide

theorem text_injective {step step' : RegistrationStep} (h : step.text = step'.text) :
    step = step' := by
  cases step <;> cases step' <;> first | rfl | (revert h; decide)

/-- A step comes first in the order exactly when it is `INIT`. -/
theorem indexOf_eq_zero {step : RegistrationStep} : indexOf step.text = 0 ↔ step = INIT := by
  cases step <;> decide

theorem indexOf_injective {step step' : RegistrationStep}
    (h : indexOf step.text = indexOf step'.text) : step = step' := by
  cases step <;> cases step' <;> first | rfl | (revert h; decide)

end Auth
end IdentityBillpay
