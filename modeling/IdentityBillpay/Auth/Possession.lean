import IdentityBillpay.Async.Sequential
import IdentityBillpay.Auth.OneTime

/-!
# Possession — whose number a verified attempt has

`verifyOtp` takes an attempt and a challenge by their ids. It verifies the code of the challenge and
advances the attempt, but it does not compare the numbers of the two. When requests do not overlap,
every attempt past `INIT` has a verified challenge of its own; that it is a challenge for the
attempt's number depends on the ids the clients send.

* `OwnNumber` — the condition on one event;
* `possession_proven` — the law; `possession_unproven` — a run that breaks it.
-/

namespace IdentityBillpay
namespace Auth

open Async Keycloak OtpService RegistrationStep

variable {config : OtpConfig} {id : String}

/-! ## Sequential verifications -/

section Step

variable {h : History (service config)} {i : Nat} {r : Request} {op : Op} {ch : Choice}

/-- A request at work alone saves a change of the row that is stored. -/
theorem read_stored (halone : h.RunsAlone i) {before : Own} {key : String}
    {a : RegistrationAttempt} (hown : h.own i = before ++ [⟨.findAttempt key, .ok (some a)⟩]) :
    a ∈ h.state.attempts ∧ a.id = key := by
  rcases halone.last hown fun _ _ => rfl with ⟨ch, hres⟩
  have hread := findAttempt_some hres
  exact ⟨hread.1, hread.2.1⟩

/-- The challenge that a verification at work alone is about to write is stored as it has read it. -/
theorem challenge_stored (halone : h.RunsAlone i) {dto : VerifyOtpDto} {c : OtpChallenge}
    (hread : (⟨.findChallenge dto.challengeId, .ok (some c)⟩ : Awaited sig HttpError) ∈ h.own i)
    (hreads : ∀ a ∈ h.own i, a.op.part ≠ some .challenges) :
    c ∈ h.state.challenges ∧ c.id = dto.challengeId ∧ c.deletedAt = none := by
  have hkeep : ∀ a ∈ h.own i, ∀ ch m, (perform a.op ch m).2.challenges = m.challenges :=
    fun a ha ch m => perform_challenges_eq (hreads a ha) ch m
  rcases halone.seen hread Store.challenges hkeep with ⟨ch, m, hres, hsame⟩
  rw [← hsame]
  exact findChallenge_some hres

/-- So it writes only while the row is live. -/
theorem writesLive_alone (halone : h.RunsAlone i) (hr : h.requests[i]? = some r)
    (hop : Awaits config r (h.own i) op) :
    WritesLive h ⟨⟨op, ((service config).perform op ch h.state).1⟩, i⟩ := by
  intro hpart dto hdto
  have hverify : r.verifyDto? = some dto := by simpa [hr] using hdto
  rcases awaits_challengeWrite hop hverify hpart with ⟨c, hread, hreads⟩
  exact ⟨c, challenge_stored halone hread hreads⟩

end Step

/-! ## The condition -/

/-- The body of a `verifyOtp`. -/
def Request.registrationDto? : Request → Option VerifyRegistrationOtpDto
  | .verifyOtp dto => some dto
  | _ => none

/-- A `verifyOtp` saves its attempt only if the challenge it names is for the attempt's number. -/
def OwnNumber (h : History (service config)) (e : Event sig HttpError) : Prop :=
  ∀ a ∈ savedAttempt? e.toAwaited, ∀ dto ∈ h.requests[e.who]?.bind Request.registrationDto?,
    ∀ c ∈ h.state.challenges, c.id = dto.challengeId → c.mobileNumber = a.mobileNumber

instance (h : History (service config)) (e : Event sig HttpError) : Decidable (OwnNumber h e) :=
  inferInstanceAs (Decidable (∀ a ∈ savedAttempt? e.toAwaited,
    ∀ dto ∈ h.requests[e.who]?.bind Request.registrationDto?, ∀ c ∈ h.state.challenges, _))

/-! ## The law -/

/-- A `verifyOtp` on the attempt has verified the challenge. -/
def VerifiedFor (h : History (service config)) (attemptId challengeId : String) : Prop :=
  ∃ i dto, h.requests[i]? = some (.verifyOtp dto) ∧ dto.attemptId = attemptId ∧
    Verified h challengeId i

/-- The attempt is past `INIT` only with a verified challenge for its number. -/
def Proven (h : History (service config)) (a : RegistrationAttempt) : Prop :=
  a.currentStep ≠ INIT.text →
    ∃ c ∈ h.state.challenges, c.mobileNumber = a.mobileNumber ∧ VerifiedFor h a.id c.id

structure PossessionInv (h : History (service config)) : Prop where
  once : ∀ id, OnceInv id h
  proven : ∀ a ∈ h.state.attempts, Proven h a

section Step

variable {h : History (service config)} {i : Nat} {r : Request} {op : Op} {ch : Choice}

theorem Verified.start {j : Nat} (hv : Verified h id j) (r : Request) :
    Verified (h.start r) id j := by
  rcases hv with ⟨r', dto, mobileNumber, hr', hrest⟩
  exact ⟨r', dto, mobileNumber, History.start_requests_some hr', hrest⟩

theorem Verified.perform {j : Nat} (hv : Verified h id j) (i : Nat) (op : Op) (ch : Choice) :
    Verified (h.perform i op ch) id j := by
  rcases hv with ⟨r, dto, mobileNumber, hr, hdto, hid, hafter⟩
  refine ⟨r, dto, mobileNumber, hr, hdto, hid, ?_⟩
  by_cases hji : j = i
  · subst hji
    rw [History.perform_own_self, Program.after_append (verify config dto), hafter]
    exact @Program.after_settled sig HttpError String _ (.ok mobileNumber) _
  · rw [History.perform_own_ne _ _ _ hji]
    exact hafter

theorem VerifiedFor.perform {attemptId challengeId : String}
    (hv : VerifiedFor h attemptId challengeId) (i : Nat) (op : Op) (ch : Choice) :
    VerifiedFor (h.perform i op ch) attemptId challengeId := by
  rcases hv with ⟨j, dto, hr, hid, hverified⟩
  exact ⟨j, dto, hr, hid, hverified.perform i op ch⟩

/-- Whatever a request at work alone does, a stored challenge keeps its id and its number. -/
theorem number_kept (halone : h.RunsAlone i) (hop : Awaits config r (h.own i) op)
    {c : OtpChallenge} (hc : c ∈ h.state.challenges) :
    ∃ c' ∈ (perform op ch h.state).2.challenges, c'.id = c.id ∧ c'.mobileNumber = c.mobileNumber := by
  rcases perform_challenges_cases op ch h.state with
    hsame | ⟨new, rfl, _, _, hmem⟩ | ⟨saved, rfl, _, hmem⟩ | ⟨id, rfl, _, hmem⟩
  · exact ⟨c, by rw [hsame]; exact hc, rfl, rfl⟩
  · exact ⟨c, (hmem c).2 (.inl hc), rfl, rfl⟩
  · by_cases hid : c.id = saved.id
    · rcases awaits_saveChallenge hop with ⟨dto, read, _, hread, hcounted, hreads⟩
      have hstored := challenge_stored halone hread hreads
      rcases hcounted with ⟨lockedUntil, rfl, _⟩
      have hsame : c = read := Sql.Table.eq_of_id hc hstored.1 hid
      subst hsame
      exact ⟨_, (hmem _).2 (.inl rfl), rfl, rfl⟩
    · exact ⟨c, (hmem c).2 (.inr ⟨hc, hid⟩), rfl, rfl⟩
  · refine ⟨_, (hmem _).2 ⟨c, hc, rfl⟩, ?_⟩
    split
    · exact ⟨rfl, rfl⟩
    · exact ⟨rfl, rfl⟩

/-- An attempt that is proven stays so, whatever else changes in its row. -/
theorem proven_kept (halone : h.RunsAlone i) (hop : Awaits config r (h.own i) op)
    {a a' : RegistrationAttempt} (ha : Proven h a) (hpast : a.currentStep ≠ INIT.text)
    (hid : a'.id = a.id) (hmobile : a'.mobileNumber = a.mobileNumber) :
    Proven (h.perform i op ch) a' := by
  intro _
  rcases ha hpast with ⟨c, hc, hnumber, hverified⟩
  rcases number_kept halone hop hc with ⟨c', hc', hcid, hcnumber⟩
  refine ⟨c', hc', hcnumber.trans (hnumber.trans hmobile.symm), ?_⟩
  rw [hid, hcid]
  exact hverified.perform i op ch

/-- A `verifyOtp` that is about to save its attempt has verified its challenge. -/
theorem verified_before_save {dto : VerifyRegistrationOtpDto} {found read : RegistrationAttempt}
    {seen : Own} {mobileNumber : String} (hr : h.requests[i]? = some (.verifyOtp dto))
    (hown : h.own i = ⟨.findAttempt dto.attemptId, .ok (some found)⟩ :: seen ++
      [⟨.findAttempt dto.attemptId, .ok (some read)⟩])
    (hsettled : VerifySettled config dto.verifyDto seen (.ok mobileNumber)) :
    Verified h dto.challengeId i := by
  refine ⟨.verifyOtp dto, dto.verifyDto, mobileNumber, hr, rfl, rfl, ?_⟩
  have hskip : (verify config dto.verifyDto).after
      (⟨.findAttempt dto.attemptId, .ok (some found)⟩ :: seen) =
        (verify config dto.verifyDto).after seen := rfl
  rw [hown, Program.after_append (verify config dto.verifyDto), hskip, hsettled.2]
  exact @Program.after_settled sig HttpError String _ (.ok mobileNumber) _

theorem saved_proven (hI : PossessionInv h) (hr : h.requests[i]? = some r) {a : RegistrationAttempt}
    (hop : Awaits config r (h.own i) (.saveAttempt a)) (halone : h.RunsAlone i)
    (hC : OwnNumber h
      ⟨⟨.saveAttempt a, ((service config).perform (.saveAttempt a) ch h.state).1⟩, i⟩)
    (hdone : (perform (.saveAttempt a) ch h.state).1 = .ok ()) :
    Proven (h.perform i (.saveAttempt a) ch) a := by
  intro hpast
  rcases awaits_saveAttempt hop with ⟨before, key, read, hown, hchange, hverified, _⟩
  have hstored := read_stored halone hown
  by_cases hinit : read.currentStep = INIT.text
  · -- The step from `INIT` is a verified one, and the condition compares the numbers.
    rcases hverified (hchange.of_INIT hinit hpast) with
      hread | ⟨dto, found, seen, mobileNumber, rfl, rfl, rfl, hsettled⟩
    · rw [hinit] at hread
      exact absurd hread (by decide)
    · have hv := verified_before_save hr hown hsettled
      have honce := hI.once dto.challengeId
      rcases honce.deleted (List.ne_nil_of_mem (hv.consumed honce.answered)) with ⟨c, hc, hcid, _⟩
      have hdto : dto ∈ h.requests[i]?.bind Request.registrationDto? := by
        rw [hr]
        rfl
      have hnumber := hC a (savedAttempt?_ok hdone) dto hdto c hc hcid
      rcases number_kept halone hop hc with ⟨c', hc', hcid', hnumber'⟩
      have haid : a.id = dto.attemptId := hchange.id_eq.trans hstored.2
      refine ⟨c', hc', hnumber'.trans hnumber, i, dto, hr, haid.symm, ?_⟩
      rw [hcid', hcid]
      exact hv.perform i _ ch
  · exact proven_kept halone hop (hI.proven read hstored.1) hinit hchange.id_eq
      hchange.mobileNumber_eq hpast

theorem possessionInv_perform (hI : PossessionInv h) (hr : h.requests[i]? = some r)
    (hop : Awaits config r (h.own i) op) (halone : h.RunsAlone i)
    (hC : OwnNumber h ⟨⟨op, ((service config).perform op ch h.state).1⟩, i⟩) :
    PossessionInv (h.perform i op ch) := by
  have hkept : ∀ a ∈ h.state.attempts, Proven (h.perform i op ch) a :=
    fun a ha hpast => proven_kept halone hop (hI.proven a ha) hpast rfl rfl hpast
  refine ⟨fun id => onceInv_perform (hI.once id) hr hop (writesLive_alone halone hr hop), ?_⟩
  intro x hx
  rcases perform_attempts_cases op ch h.state with
    hsame | ⟨new, rfl, _, _, hmem⟩ | ⟨a, rfl, hdone, hmem⟩ | ⟨id, rfl, hmem⟩
  · rw [History.perform_state, service_perform, hsame] at hx
    exact hkept x hx
  · rcases (hmem x).1 hx with hold | rfl
    · exact hkept x hold
    · exact fun hpast => absurd (awaits_insertAttempt hop) hpast
  · rcases (hmem x).1 hx with rfl | ⟨hold, _⟩
    · exact saved_proven hI hr hop halone hC hdone
    · exact hkept x hold
  · rcases (hmem x).1 hx with ⟨a, ha, rfl⟩
    split
    · exact fun hpast => proven_kept halone hop (hI.proven a ha) hpast rfl rfl hpast
    · exact hkept a ha

end Step

theorem VerifiedFor.start {h : History (service config)} {attemptId challengeId : String}
    (hv : VerifiedFor h attemptId challengeId) (r : Request) :
    VerifiedFor (h.start r) attemptId challengeId := by
  rcases hv with ⟨j, dto, hr, hid, hverified⟩
  exact ⟨j, dto, History.start_requests_some hr, hid, hverified.start r⟩

theorem possessionInv_run (config : OtpConfig) (s : Store)
    (hinit : ∀ a ∈ s.attempts, a.currentStep = INIT.text) (as : List (Action (service config)))
    (hC : Config.Meets (fun h e => InOrder h e ∧ OwnNumber h e)
      (Config.initial (service config) s) as) :
    PossessionInv ((Config.initial (service config) s).run as).toHistory := by
  refine Config.run_induction_sequential (follows_program config) ?_ ?_ ?_ as hC
  · intro h r hattr hI
    refine ⟨fun id => (hI.once id).start hattr r, fun a ha hpast => ?_⟩
    rcases hI.proven a ha hpast with ⟨c, hc, hnumber, hv⟩
    exact ⟨c, hc, hnumber, hv.start r⟩
  · exact fun h i r op ch _ hI hr hop halone hC => possessionInv_perform hI hr hop halone hC
  · refine ⟨fun id => onceInv_initial config id s, fun a ha hpast => ?_⟩
    exact absurd (hinit a ha) hpast

/-- Registration proves possession of the attempt's own number. In a run of requests that do not
overlap, and in which no `verifyOtp` goes on with a challenge for another number, every attempt past
`INIT` has a challenge for its number that was verified for it; and no challenge was verified for two
attempts. -/
theorem possession_proven (config : OtpConfig) (s : Store)
    (hinit : ∀ a ∈ s.attempts, a.currentStep = INIT.text) (as : List (Action (service config)))
    (hC : Config.Meets (fun h e => InOrder h e ∧ OwnNumber h e)
      (Config.initial (service config) s) as) :
    let c := (Config.initial (service config) s).run as
    (∀ a ∈ c.state.attempts, a.currentStep ≠ INIT.text → ∃ challenge ∈ c.state.challenges,
      challenge.mobileNumber = a.mobileNumber ∧ VerifiedFor c.toHistory a.id challenge.id) ∧
    ∀ attemptId attemptId' challengeId, VerifiedFor c.toHistory attemptId challengeId →
      VerifiedFor c.toHistory attemptId' challengeId → attemptId = attemptId' := by
  have hI := possessionInv_run config s hinit as hC
  refine ⟨hI.proven, fun attemptId attemptId' challengeId hv hv' => ?_⟩
  rcases hv with ⟨i, dto, hr, rfl, hi⟩
  rcases hv' with ⟨j, dto', hr', rfl, hj⟩
  have hij : i = j := (hI.once challengeId).unique hi hj
  subst hij
  rw [hr] at hr'
  cases hr'
  rfl

/-- An attempt at its start, and a challenge whose code is `123456`. -/
def startedStore (mobileNumber : String) : Store :=
  sampleStore [sampleAttempt] [{ sampleChallenge with mobileNumber := mobileNumber }] [] []

/-- One `verifyOtp` with the right code, from its start to its end. -/
def soloVerifyOtp : List (Action (service sampleConfig)) :=
  .start (.verifyOtp ⟨"attempt-1", "challenge-1", "123456"⟩) ::
    List.replicate 6 (.resume 0 (.smooth ""))

theorem possession_proven_soloVerifyOtp :
    let c := (Config.initial (service sampleConfig) (startedStore "9876543210")).run soloVerifyOtp
    (∀ a ∈ c.state.attempts, a.currentStep ≠ INIT.text → ∃ challenge ∈ c.state.challenges,
      challenge.mobileNumber = a.mobileNumber ∧ VerifiedFor c.toHistory a.id challenge.id) ∧
    ∀ attemptId attemptId' challengeId, VerifiedFor c.toHistory attemptId challengeId →
      VerifiedFor c.toHistory attemptId' challengeId → attemptId = attemptId' :=
  possession_proven sampleConfig (startedStore "9876543210") (by decide) soloVerifyOtp (by decide)

/-- The same request, when the challenge is for another number: the attempt goes on, and no
challenge is for its number. -/
theorem possession_unproven :
    let c := (Config.initial (service sampleConfig) (startedStore "9000000001")).run soloVerifyOtp
    Config.Meets InOrder (Config.initial (service sampleConfig) (startedStore "9000000001"))
      soloVerifyOtp ∧
    c.state.attempts.rows = [attemptAt .OTP_VERIFIED none none] ∧
    ¬ ∀ a ∈ c.state.attempts, a.currentStep ≠ INIT.text → ∃ challenge ∈ c.state.challenges,
      challenge.mobileNumber = a.mobileNumber := by
  decide

end Auth
end IdentityBillpay
