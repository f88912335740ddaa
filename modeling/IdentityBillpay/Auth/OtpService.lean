import IdentityBillpay.Async.Replay
import IdentityBillpay.Auth.Store

/-!
# OtpService — creating and verifying one-time passwords

The programs of `otp.service.ts`. `verify` is cut where the code is compared: `usable` holds the
checks before it, `compareCode` the comparison with the write that follows it.

* `VerifyAwaits`, `VerifyEnds` — the order of awaits of `verify`, and how it settles.
-/

namespace IdentityBillpay
namespace Auth

open Async Js Keycloak
open Async.Program (Follows follows_call_bind)

/-- `isExpired` of `date.util.ts`. -/
def isExpired (date : Date) : Prog Bool := do
  let now : Date ← call .now
  return decide (date < now)

/-- What `OtpService.create` returns. -/
structure GeneratedOtp where
  saved : OtpChallenge
  otp : String
  deriving DecidableEq

namespace OtpService

def findAll : Prog (List OtpChallenge) :=
  call .findChallenges

def findOne (id : String) : Prog OtpChallenge := do
  let record : Option OtpChallenge ← call (.findChallenge id)
  match record with
  | none => throw (.notFound "OTP challenge not found")
  | some record => return record

def create (config : OtpConfig) (dto : GenerateOtpDto) : Prog GeneratedOtp := do
  -- The upper bound of `randomInt` is exclusive.
  let number : Nat ← call (.randomInt 100000 999999)
  let otp := toString number
  let now : Date ← call .now
  let entity : NewChallenge :=
    { mobileNumber := dto.mobileNumber
      otpHash := config.hashOtp otp
      attemptCount := 0
      expiresAt := now + config.timeToLive }
  let id : String ← call (.insertChallenge entity)
  return { saved := entity.row id, otp := otp }

/-! ## Verifying -/

def checkUnlocked (challenge : OtpChallenge) : Prog Unit :=
  match challenge.lockedUntil with
  | none => return ()
  | some lockedUntil => do
      let expired ← isExpired lockedUntil
      if expired then return ()
      else
        throw (.forbidden ("Too many failed attempts — locked until " ++ Date.toISOString lockedUntil))

def checkUnexpired (challenge : OtpChallenge) : Prog Unit := do
  let expired ← isExpired challenge.expiresAt
  if expired then throw (.badRequest "OTP has expired") else return ()

/-- The challenge, once it may be compared with a code. -/
def usable (dto : VerifyOtpDto) : Prog OtpChallenge := do
  let challenge : Option OtpChallenge ← call (.findChallenge dto.challengeId)
  match challenge with
  | none => throw (.notFound "OTP challenge not found")
  | some challenge => do
      checkUnlocked challenge
      checkUnexpired challenge
      return challenge

def countWrong (config : OtpConfig) (challenge : OtpChallenge) : Prog Unit :=
  if config.maxAttempts ≤ challenge.attemptCount + 1 then do
    let now : Date ← call .now
    call (.saveChallenge
      { challenge with
        attemptCount := challenge.attemptCount + 1
        lockedUntil := some (now + config.lockDuration) })
  else
    call (.saveChallenge { challenge with attemptCount := challenge.attemptCount + 1 })

def compareCode (config : OtpConfig) (otp : String) (challenge : OtpChallenge) : Prog String :=
  if config.hashOtp otp ≠ challenge.otpHash then do
    countWrong config challenge
    throw (.badRequest "Invalid OTP")
  else do
    call (.softDeleteChallenge challenge.id)
    return challenge.mobileNumber

/-- The mobile number of `{ verified: true, mobileNumber }`. -/
def verify (config : OtpConfig) (dto : VerifyOtpDto) : Prog String := do
  let challenge ← usable dto
  compareCode config dto.otp challenge

def softDelete (id : String) : Prog Unit := do
  let _ ← findOne id
  call (.softDeleteChallenge id)

/-! ## The order of awaits of `verify` -/

/-- What a call of `verify` has seen once it has read its challenge: the row, and then the clock. -/
def HasRead (dto : VerifyOtpDto) (challenge : OtpChallenge) (own : Own) : Prop :=
  ∃ nows : Own, own = ⟨.findChallenge dto.challengeId, .ok (some challenge)⟩ :: nows ∧
    ∀ a ∈ nows, a.op = .now

/-- The challenge as a wrong code leaves it: counted, and locked once that is one too many. -/
def Counted (config : OtpConfig) (challenge counted : OtpChallenge) : Prop :=
  ∃ lockedUntil, counted =
      { challenge with attemptCount := challenge.attemptCount + 1, lockedUntil := lockedUntil } ∧
    if config.maxAttempts ≤ challenge.attemptCount + 1 then lockedUntil ≠ none
    else lockedUntil = challenge.lockedUntil

inductive VerifyAwaits (config : OtpConfig) (dto : VerifyOtpDto) : Own → Op → Prop
  | findChallenge : VerifyAwaits config dto [] (.findChallenge dto.challengeId)
  | now {own : Own} {c : OtpChallenge} (hread : HasRead dto c own) :
      VerifyAwaits config dto own .now
  | saveChallenge {own : Own} {c c' : OtpChallenge} (hread : HasRead dto c own)
      (hwrong : config.hashOtp dto.otp ≠ c.otpHash) (hcounted : Counted config c c') :
      VerifyAwaits config dto own (.saveChallenge c')
  | softDeleteChallenge {own : Own} {c : OtpChallenge} (hread : HasRead dto c own)
      (hright : config.hashOtp dto.otp = c.otpHash) :
      VerifyAwaits config dto own (.softDeleteChallenge c.id)

/-- How `verify` settles: refused before it writes, stopped by an operation that fails, answered
after a wrong code has been counted, or verified. -/
inductive VerifyEnds (config : OtpConfig) (dto : VerifyOtpDto) : Own → Except HttpError String → Prop
  | refused {own : Own} {e : HttpError} (hreads : ∀ a ∈ own, a.op.part ≠ some .challenges)
      (he : e ≠ .badRequest "Invalid OTP") : VerifyEnds config dto own (.error e)
  | failed {own : Own} {op : Op} {e : HttpError}
      (hreads : ∀ a ∈ own, a.op.part ≠ some .challenges) :
      VerifyEnds config dto (own ++ [⟨op, .error e⟩]) (.error e)
  | wrong {own : Own} {c c' : OtpChallenge} (hread : HasRead dto c own)
      (hcounted : Counted config c c') :
      VerifyEnds config dto (own ++ [⟨.saveChallenge c', .ok ()⟩])
        (.error (.badRequest "Invalid OTP"))
  | verified {own : Own} {c : OtpChallenge} (hread : HasRead dto c own) :
      VerifyEnds config dto (own ++ [⟨.softDeleteChallenge c.id, .ok ()⟩]) (.ok c.mobileNumber)

section Verify

variable {config : OtpConfig} {dto : VerifyOtpDto} {own : Own} {challenge : OtpChallenge}

theorem HasRead.now (h : HasRead dto challenge own) (r : Except HttpError Date) :
    HasRead dto challenge (own ++ [⟨.now, r⟩]) := by
  rcases h with ⟨nows, rfl, hnows⟩
  refine ⟨nows ++ [⟨.now, r⟩], by simp, ?_⟩
  intro a ha
  rcases List.mem_append.1 ha with ha | ha
  · exact hnows a ha
  · rw [List.mem_singleton.1 ha]

/-- Nothing has been written yet. -/
theorem HasRead.reads (h : HasRead dto challenge own) :
    ∀ a ∈ own, a.op.part ≠ some .challenges := by
  rcases h with ⟨nows, rfl, hnows⟩
  intro a ha
  rcases List.mem_cons.1 ha with rfl | ha
  · simp [Op.part]
  · simp [hnows a ha, Op.part]

theorem HasRead.mem (h : HasRead dto challenge own) :
    (⟨.findChallenge dto.challengeId, .ok (some challenge)⟩ : Awaited sig HttpError) ∈ own := by
  rcases h with ⟨nows, rfl, _⟩
  exact List.mem_cons_self

/-- Looking at the clock leaves what has been read. -/
theorem follows_isExpired (h : HasRead dto challenge own) (date : Date) :
    Follows (VerifyAwaits config dto)
      (fun own r => match r with
        | .ok _ => HasRead dto challenge own
        | .error e => VerifyEnds config dto own (.error e)) own (isExpired date) := by
  unfold isExpired
  apply follows_call_bind (.now h)
  · exact fun e => .failed h.reads
  · exact fun now => h.now _

theorem follows_checkUnlocked (h : HasRead dto challenge own) :
    Follows (VerifyAwaits config dto)
      (fun own r => match r with
        | .ok _ => HasRead dto challenge own
        | .error e => VerifyEnds config dto own (.error e)) own (checkUnlocked challenge) := by
  unfold checkUnlocked
  cases challenge.lockedUntil with
  | none => exact h
  | some lockedUntil =>
      refine (follows_isExpired h lockedUntil).bind ?_ fun _ _ he => he
      intro own expired hread
      cases expired with
      | true => exact hread
      | false => exact .refused hread.reads (by simp)

theorem follows_checkUnexpired (h : HasRead dto challenge own) :
    Follows (VerifyAwaits config dto)
      (fun own r => match r with
        | .ok _ => HasRead dto challenge own
        | .error e => VerifyEnds config dto own (.error e)) own (checkUnexpired challenge) := by
  unfold checkUnexpired
  refine (follows_isExpired h challenge.expiresAt).bind ?_ fun _ _ he => he
  intro own expired hread
  cases expired with
  | true => exact .refused hread.reads (by simp)
  | false => exact hread

theorem follows_usable :
    Follows (VerifyAwaits config dto)
      (fun own r => match r with
        | .ok c => HasRead dto c own
        | .error e => VerifyEnds config dto own (.error e)) [] (usable dto) := by
  unfold usable
  apply follows_call_bind .findChallenge
  · have hreads : ∀ a ∈ ([] : Own), a.op.part ≠ some .challenges := by simp
    exact fun e => .failed hreads
  · intro found
    cases (found : Option OtpChallenge) with
    | none => exact .refused (by simp [Op.part]) (by simp)
    | some c =>
        have hread : HasRead dto c
            ([] ++ [⟨.findChallenge dto.challengeId, .ok (some c)⟩]) := ⟨[], rfl, by simp⟩
        refine (follows_checkUnlocked hread).bind ?_ fun _ _ he => he
        intro own _ hunlocked
        refine (follows_checkUnexpired hunlocked).bind ?_ fun _ _ he => he
        exact fun own _ hunexpired => hunexpired

theorem follows_countWrong (h : HasRead dto challenge own)
    (hwrong : config.hashOtp dto.otp ≠ challenge.otpHash) :
    Follows (VerifyAwaits config dto)
      (fun own r => VerifyEnds config dto own
        (match r with
        | .ok _ => .error (.badRequest "Invalid OTP")
        | .error e => .error e)) own (countWrong config challenge) := by
  unfold countWrong
  split
  · rename_i hmax
    apply follows_call_bind (.now h)
    · exact fun e => .failed h.reads
    · intro now
      have hcounted : Counted config challenge
          { challenge with
            attemptCount := challenge.attemptCount + 1
            lockedUntil := some ((now : Date) + config.lockDuration) } :=
        ⟨_, rfl, by simp [hmax]⟩
      refine ⟨.saveChallenge (h.now _) hwrong hcounted, fun r => ?_⟩
      cases r with
      | ok _ => exact .wrong (h.now _) hcounted
      | error e => exact .failed (h.now _).reads
  · rename_i hmax
    have hcounted : Counted config challenge
        { challenge with attemptCount := challenge.attemptCount + 1 } :=
      ⟨challenge.lockedUntil, rfl, by simp [hmax]⟩
    refine ⟨.saveChallenge h hwrong hcounted, fun r => ?_⟩
    cases r with
    | ok _ => exact .wrong h hcounted
    | error e => exact .failed h.reads

theorem follows_verify :
    Follows (VerifyAwaits config dto) (VerifyEnds config dto) [] (verify config dto) := by
  refine follows_usable.bind ?_ fun _ _ he => he
  intro own challenge hread
  unfold compareCode
  split
  · rename_i hwrong
    refine (follows_countWrong hread hwrong).bind ?_ fun _ _ he => he
    exact fun own _ hcounted => hcounted
  · rename_i hright
    apply follows_call_bind (.softDeleteChallenge hread (not_not.1 hright))
    · exact fun e => .failed hread.reads
    · exact fun _ => .verified hread

end Verify

end OtpService

end Auth
end IdentityBillpay
