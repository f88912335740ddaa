import IdentityBillpay.Auth.OneTime

/-!
# Counting — every wrong guess is counted

A wrong code adds one to the `attemptCount` that `OtpService.verify` has read and writes the row
back. Two calls that overlap can both write the same number. As long as each counts only while the
stored number is still the one it has read, the counter is the number of calls that were answered
`Invalid OTP`, and the lock is set before it passes the maximum.

* `CountsAsRead` — the condition on one event;
* `wrong_guesses_counted` — the law; `wrong_guess_uncounted` — a run that breaks it.
-/

namespace IdentityBillpay
namespace Auth

open Async Keycloak OtpService

variable {config : OtpConfig} {id : String}

/-- The call of `OtpService.verify` that request `i` makes, for the challenge `id`, has been
answered `Invalid OTP`. -/
def answeredInvalid (h : History (service config)) (id : String) (i : Nat) : Bool :=
  match h.requests[i]?.bind Request.verifyDto? with
  | some dto =>
      dto.challengeId == id &&
        decide (((verify config dto).after (h.own i)).outcome? =
          some (.error (.badRequest "Invalid OTP")))
  | none => false

/-- The requests whose call was answered `Invalid OTP`. -/
def invalidAnswers (h : History (service config)) (id : String) : List Nat :=
  (List.range h.requests.length).filter (answeredInvalid h id)

/-- A verification saves a challenge only while the stored count is still the one it has read. -/
def CountsAsRead (h : History (service config)) (e : Event sig HttpError) : Prop :=
  e.op.savedChallenge?.isSome → ∀ a ∈ h.own e.who, ∀ read ∈ readChallenge? a,
    ∃ c ∈ h.state.challenges, c.id = read.id ∧ c.attemptCount = read.attemptCount

instance (h : History (service config)) (e : Event sig HttpError) : Decidable (CountsAsRead h e) :=
  inferInstanceAs (Decidable (_ → ∀ a ∈ h.own e.who, ∀ read ∈ readChallenge? a,
    ∃ c ∈ h.state.challenges, _))

/-- A wrong code for the challenge has been counted. -/
def counts (id : String) (_ : Request) : Awaited sig HttpError → Bool
  | ⟨.saveChallenge challenge, .ok _⟩ => challenge.id == id
  | _ => false

theorem counts_iff {r : Request} {a : Awaited sig HttpError} :
    counts id r a = true ↔ ∃ c : OtpChallenge, c.id = id ∧ a = ⟨.saveChallenge c, .ok ()⟩ := by
  constructor
  · intro h
    rcases a with ⟨op, res⟩
    cases op with
    | saveChallenge c =>
        cases res with
        | ok u => exact ⟨c, by simpa [counts] using h, rfl⟩
        | error e => simp [counts] at h
    | _ => simp [counts] at h
  · intro h
    rcases h with ⟨c, hid, rfl⟩
    simpa [counts] using hid

/-! ## The counter -/

/-- The count is the number of saves, no two of one request, and the lock is set in time. -/
structure CountInv (id : String) (h : History (service config)) : Prop where
  answered : h.Answered
  saved : ∀ c i, (⟨⟨.saveChallenge c, .ok ()⟩, i⟩ : Event sig HttpError) ∈ h.trace →
    ∃ r dto, h.requests[i]? = some r ∧ r.verifyDto? = some dto ∧ dto.challengeId = c.id
  once : ((h.selected (counts id)).map Event.who).Nodup
  count : ∃ c ∈ h.state.challenges, c.id = id ∧
    c.attemptCount = (h.selected (counts id)).length ∧
    (c.lockedUntil = none → c.attemptCount < config.maxAttempts)

section Step

variable {h : History (service config)} {i : Nat} {r : Request} {op : Op} {ch : Choice}

theorem saved_perform (hI : CountInv id h) (hr : h.requests[i]? = some r)
    (hop : Awaits config r (h.own i) op) {c : OtpChallenge} {j : Nat}
    (hc : (⟨⟨.saveChallenge c, .ok ()⟩, j⟩ : Event sig HttpError) ∈ (h.perform i op ch).trace) :
    ∃ r dto, h.requests[j]? = some r ∧ r.verifyDto? = some dto ∧ dto.challengeId = c.id := by
  rcases History.mem_perform.1 hc with hold | ⟨rfl, rfl, _⟩
  · exact hI.saved c j hold
  · rcases awaits_saveChallenge hop with ⟨dto, d, hdto, hread, hcounted, _⟩
    rcases hcounted with ⟨lockedUntil, rfl, _⟩
    exact ⟨r, dto, hr, hdto, (read_challenge hI.answered hread).1.symm⟩

/-- A request that saves a challenge has not saved one before. -/
theorem once_perform (hI : CountInv id h) (hr : h.requests[i]? = some r)
    (hop : Awaits config r (h.own i) op) :
    (((h.perform i op ch).selected (counts id)).map Event.who).Nodup := by
  rw [History.selected_perform hr]
  split
  · rename_i hmark
    rcases counts_iff.1 hmark with ⟨c, _, hev⟩
    have hopeq : op = .saveChallenge c := congrArg Awaited.op hev
    subst hopeq
    rcases awaits_saveChallenge hop with ⟨dto, d, _, _, _, hreads⟩
    rw [List.map_append]
    refine hI.once.append (List.nodup_singleton _) ?_
    simp only [List.map_singleton, List.disjoint_singleton]
    intro hi
    rcases List.mem_map.1 hi with ⟨e, he, rfl⟩
    rcases History.mem_selected.1 he with ⟨hmem, r', _, hmark'⟩
    rcases counts_iff.1 hmark' with ⟨c', _, hev'⟩
    have hown : e.toAwaited ∈ h.own e.who := History.mem_own.2 hmem
    rw [hev'] at hown
    exact hreads _ hown rfl
  · simpa using hI.once

/-- Unless a counted row of the challenge is saved, nothing is counted. -/
theorem selected_quiet (hr : h.requests[i]? = some r)
    (hquiet : ∀ c : OtpChallenge, c.id = id →
      (⟨op, (perform op ch h.state).1⟩ : Awaited sig HttpError) ≠ ⟨.saveChallenge c, .ok ()⟩) :
    (h.perform i op ch).selected (counts id) = h.selected (counts id) := by
  rw [History.selected_perform hr]
  split
  · rename_i hmark
    rcases counts_iff.1 hmark with ⟨c, hid, hev⟩
    exact absurd hev (hquiet c hid)
  · exact List.append_nil _

/-- A counted save of the challenge raises the stored count by one. -/
theorem count_save (hI : CountInv id h) (hr : h.requests[i]? = some r) {c' : OtpChallenge}
    (hop : Awaits config r (h.own i) (.saveChallenge c')) (hid' : c'.id = id)
    (hok : (perform (.saveChallenge c') ch h.state).1 = .ok ())
    (hC : CountsAsRead h
      ⟨⟨.saveChallenge c', ((service config).perform (.saveChallenge c') ch h.state).1⟩, i⟩) :
    c'.attemptCount = ((h.perform i (.saveChallenge c') ch).selected (counts id)).length ∧
      (c'.lockedUntil = none → c'.attemptCount < config.maxAttempts) := by
  rcases hI.count with ⟨c, hc, hid, hcount, _⟩
  rcases awaits_saveChallenge hop with ⟨dto, read, _, hread, hcounted, _⟩
  rcases hC rfl _ hread read rfl with ⟨x, hx, hxid, hxcount⟩
  rcases hcounted with ⟨lockedUntil, rfl, hlocked⟩
  have hsame : x = c := Sql.Table.eq_of_id hx hc (hxid.trans (hid'.trans hid.symm))
  have hreadCount : read.attemptCount = (h.selected (counts id)).length := by
    rw [← hxcount, hsame, hcount]
  have hmark : counts id r ⟨.saveChallenge { read with
      attemptCount := read.attemptCount + 1, lockedUntil := lockedUntil }, .ok ()⟩ = true :=
    counts_iff.2 ⟨_, hid', rfl⟩
  refine ⟨?_, fun hnone => ?_⟩
  · rw [History.selected_perform hr, service_perform, hok, if_pos hmark]
    simp [hreadCount]
  · -- Not locked: the maximum has not been reached.
    have hnone' : lockedUntil = none := hnone
    by_contra hge
    have hmax : config.maxAttempts ≤ read.attemptCount + 1 := Nat.le_of_not_lt hge
    simp [hmax, hnone'] at hlocked

theorem count_perform (hI : CountInv id h) (hr : h.requests[i]? = some r)
    (hop : Awaits config r (h.own i) op)
    (hC : CountsAsRead h ⟨⟨op, ((service config).perform op ch h.state).1⟩, i⟩) :
    ∃ c ∈ (h.perform i op ch).state.challenges, c.id = id ∧
      c.attemptCount = ((h.perform i op ch).selected (counts id)).length ∧
      (c.lockedUntil = none → c.attemptCount < config.maxAttempts) := by
  rcases hI.count with ⟨c, hc, hid, hcount, hlock⟩
  by_cases hsave : ∃ c', op = .saveChallenge c'
  · rcases hsave with ⟨c', rfl⟩
    rcases perform_saveChallenge c' ch h.state with ⟨e, hp⟩ | ⟨t, hp, hmem⟩
    · rw [selected_quiet hr fun c'' _ heq => by rw [hp] at heq; cases heq]
      refine ⟨c, ?_, hid, hcount, hlock⟩
      rw [History.perform_state, service_perform, hp]
      exact hc
    · have hok : (perform (.saveChallenge c') ch h.state).1 = .ok () := congrArg Prod.fst hp
      have hstored : ∀ x, x ∈ (h.perform i (.saveChallenge c') ch).state.challenges ↔
          x = c' ∨ (x ∈ h.state.challenges ∧ x.id ≠ c'.id) := by
        rw [History.perform_state, service_perform, hp]
        exact hmem
      -- A save of this challenge counts; a save of another one does not.
      by_cases hid' : c'.id = id
      · exact ⟨c', (hstored c').2 (.inl rfl), hid', count_save hI hr hop hid' hok hC⟩
      · rw [selected_quiet hr fun c'' hid'' heq => by
          have hsame : c' = c'' := Op.saveChallenge.inj (congrArg Awaited.op heq)
          exact hid' (hsame ▸ hid'')]
        refine ⟨c, (hstored c).2 (.inr ⟨hc, fun hcc => hid' (hcc ▸ hid)⟩), hid, hcount, hlock⟩
  · -- No other write changes the count.
    rw [selected_quiet hr fun c' _ heq => hsave ⟨c', congrArg Awaited.op heq⟩]
    rcases perform_challenges_cases op ch h.state with
      hsame | ⟨new, rfl, _, _, hmem⟩ | ⟨c', rfl, _, _⟩ | ⟨id', rfl, _, hmem⟩
    · exact ⟨c, by rw [History.perform_state, service_perform, hsame]; exact hc, hid, hcount, hlock⟩
    · exact ⟨c, (hmem c).2 (.inl hc), hid, hcount, hlock⟩
    · exact absurd ⟨c', rfl⟩ hsave
    · refine ⟨_, (hmem _).2 ⟨c, hc, rfl⟩, ?_⟩
      split
      · exact ⟨hid, hcount, hlock⟩
      · exact ⟨hid, hcount, hlock⟩

theorem countInv_perform (hI : CountInv id h) (hr : h.requests[i]? = some r)
    (hop : Awaits config r (h.own i) op)
    (hC : CountsAsRead h ⟨⟨op, ((service config).perform op ch h.state).1⟩, i⟩) :
    CountInv id (h.perform i op ch) where
  answered := hI.answered.perform i op ch
  saved _ _ hc := saved_perform hI hr hop hc
  once := once_perform hI hr hop
  count := count_perform hI hr hop hC

end Step

theorem countInv_run (hmax : 1 ≤ config.maxAttempts) {s : Store} {c : OtpChallenge}
    (hc : c ∈ s.challenges) (hid : c.id = id) (hzero : c.attemptCount = 0)
    {as : List (Action (service config))}
    (hC : Config.Meets CountsAsRead (Config.initial (service config) s) as) :
    CountInv id ((Config.initial (service config) s).run as).toHistory := by
  refine Config.run_induction (follows_program config) ?_ ?_ ?_ as hC
  · intro h r hattr hI
    refine ⟨hI.answered, fun c i hc => ?_, ?_, ?_⟩
    · rcases hI.saved c i hc with ⟨r', dto, hr', hdto⟩
      exact ⟨r', dto, History.start_requests_some hr', hdto⟩
    · rw [History.selected_start hattr]
      exact hI.once
    · rw [History.selected_start hattr]
      exact hI.count
  · exact fun h i r op ch _ hI hr hop hC => countInv_perform hI hr hop hC
  · refine ⟨fun e he => ?_, fun c i hc => ?_, ?_, c, hc, hid, ?_, fun _ => ?_⟩
    · simp [Config.initial] at he
    · simp [Config.initial] at hc
    · simp [History.selected, Config.initial]
    · simp [History.selected, Config.initial, hzero]
    · rw [hzero]
      exact hmax

/-! ## The answers -/

section Answers

variable {own : Own} {dto : VerifyOtpDto} {c : OtpChallenge}

/-- A call that has counted a wrong code answers `Invalid OTP`. -/
theorem VerifyEnds.answer {r : Except HttpError String} (h : VerifyEnds config dto own r)
    (hsaved : (⟨.saveChallenge c, .ok ()⟩ : Awaited sig HttpError) ∈ own) :
    r = .error (.badRequest "Invalid OTP") := by
  have hlast : ∀ {before : Own} {a : Awaited sig HttpError},
      (∀ b ∈ before, b.op.part ≠ some .challenges) →
      (⟨.saveChallenge c, .ok ()⟩ : Awaited sig HttpError) ∈ before ++ [a] →
      a = ⟨.saveChallenge c, .ok ()⟩ := by
    intro before a hreads hmem
    rcases List.mem_append.1 hmem with hmem | hmem
    · exact absurd rfl (hreads _ hmem)
    · exact (List.mem_singleton.1 hmem).symm
  cases h with
  | refused hreads _ => exact absurd rfl (hreads _ hsaved)
  | @failed before op e hreads =>
      have heq := hlast hreads hsaved
      injection heq with hop hres
      subst hop
      cases hres
  | wrong hread _ => rfl
  | verified hread =>
      have heq := hlast hread.reads hsaved
      cases heq

theorem answeredInvalid_iff {h : History (service config)} {i : Nat} :
    answeredInvalid h id i = true ↔ ∃ r dto, h.requests[i]? = some r ∧ r.verifyDto? = some dto ∧
      dto.challengeId = id ∧
      (verify config dto).after (h.own i) = Program.settled (.error (.badRequest "Invalid OTP")) := by
  unfold answeredInvalid
  cases hr : h.requests[i]?.bind Request.verifyDto? with
  | none =>
      constructor
      · intro hfalse
        cases hfalse
      · intro hex
        rcases hex with ⟨r, dto, hri, hdto, _⟩
        simp [hri, hdto] at hr
  | some dto =>
      rcases Option.bind_eq_some_iff.1 hr with ⟨r, hri, hdto⟩
      simp only [Bool.and_eq_true, beq_iff_eq, decide_eq_true_eq, Program.outcome?_eq_some]
      constructor
      · intro h
        exact ⟨r, dto, hri, hdto, h⟩
      · intro hex
        rcases hex with ⟨r', dto', hri', hdto', h⟩
        have hsame : dto' = dto := by
          rw [hri] at hri'
          rw [Option.some.inj hri', hdto'] at hdto
          exact Option.some.inj hdto
        exact hsame ▸ h

/-- A call that is answered `Invalid OTP` has counted its wrong code. -/
theorem counted_of_answered {h : History (service config)} (ha : h.Answered) {i : Nat}
    (hi : answeredInvalid h id i = true) : i ∈ (h.selected (counts id)).map Event.who := by
  rcases answeredInvalid_iff.1 hi with ⟨r, dto, hr, _, hid, hafter⟩
  rcases follows_verify.after hafter with ⟨seen, hsub, hends⟩
  rw [List.nil_append] at hends
  have hend : ∀ {own : Own} {res : Except HttpError String}, VerifyEnds config dto own res →
      own.Sublist (h.own i) → res = .error (.badRequest "Invalid OTP") →
      ∃ c : OtpChallenge, c.id = id ∧
        (⟨.saveChallenge c, .ok ()⟩ : Awaited sig HttpError) ∈ h.own i := by
    intro own res hends hsub hres
    cases hends with
    | refused _ he => exact absurd (Except.error.inj hres) he
    | @failed before op e hreads =>
        -- The operations fail with other errors.
        have hmem : (⟨op, .error e⟩ : Awaited sig HttpError) ∈ h.own i := hsub.subset (by simp)
        rcases ha.own hmem with ⟨ch, s, hfail⟩
        have he : e = .badRequest "Invalid OTP" := Except.error.inj hres
        have houtside := perform_error hfail.symm
        rw [he] at houtside
        cases houtside
    | @wrong before c c' hread hcounted =>
        have hc := read_challenge ha (hsub.subset (List.mem_append_left _ hread.mem))
        have hc' : c'.id = c.id := by
          rcases hcounted with ⟨lockedUntil, rfl, _⟩
          rfl
        exact ⟨c', hc'.trans (hc.1.trans hid), hsub.subset (by simp)⟩
    | verified _ => cases hres
  rcases hend hends hsub rfl with ⟨c, hcid, hmem⟩
  refine List.mem_map.2 ⟨⟨⟨.saveChallenge c, .ok ()⟩, i⟩, ?_, rfl⟩
  exact History.mem_selected.2 ⟨History.mem_own.1 hmem, r, hr, counts_iff.2 ⟨c, hcid, rfl⟩⟩

/-- What comes before the call of `verify` is passed over. -/
theorem verify_after_findAttempt (attemptId : String) (res : Except HttpError (Option RegistrationAttempt))
    (own : Own) : (verify config dto).after (⟨.findAttempt attemptId, res⟩ :: own) =
      (verify config dto).after own := rfl

theorem settled_of_saved {r : Except HttpError String} (h : VerifySettled config dto own r)
    (hsaved : (⟨.saveChallenge c, .ok ()⟩ : Awaited sig HttpError) ∈ own) :
    (verify config dto).after own = Program.settled (.error (.badRequest "Invalid OTP")) := by
  have hr := VerifyEnds.answer h.1 hsaved
  rw [← hr]
  exact h.2

theorem AdvanceAwaits.reads {attemptId : String} {toStep : RegistrationStep} {op : Op}
    (h : AdvanceAwaits attemptId toStep own op) : ∀ a ∈ own, a.op.part ≠ some .challenges := by
  cases h with
  | findAttempt => simp
  | saveAttempt _ => simp [Op.part]

theorem AdvanceEnds.reads {attemptId : String} {toStep : RegistrationStep}
    {r : Except HttpError RegistrationAttempt} (h : AdvanceEnds attemptId toStep own r) :
    ∀ a ∈ own, a.op.part ≠ some .challenges := by
  cases h with
  | failed hreads => exact hreads
  | advanced _ => simp [Op.part]

/-- `verifyOtp` goes on after a call of `verify` that has counted nothing. -/
theorem verifyOtp_uncounted {dto : VerifyRegistrationOtpDto} {op : Op}
    (h : VerifyOtpAwaits config dto own op)
    (hsaved : (⟨.saveChallenge c, .ok ()⟩ : Awaited sig HttpError) ∈ own) : False := by
  cases h with
  | findAttempt => cases hsaved
  | verify _ hverify =>
      rcases List.mem_cons.1 hsaved with heq | hsaved
      · cases heq
      · exact verifying_reads hverify _ hsaved rfl
  | advance hverified hadvance =>
      rcases List.mem_cons.1 hsaved with heq | hsaved
      · cases heq
      · rcases List.mem_append.1 hsaved with hsaved | hsaved
        · cases VerifyEnds.answer hverified.1 hsaved
        · exact hadvance.reads _ hsaved rfl

theorem verifyOtp_answered {dto : VerifyRegistrationOtpDto} (h : VerifyOtpEnds config dto own)
    (hsaved : (⟨.saveChallenge c, .ok ()⟩ : Awaited sig HttpError) ∈ own) :
    (verify config dto.verifyDto).after own =
      Program.settled (.error (.badRequest "Invalid OTP")) := by
  cases h with
  | refused hreads => exact absurd rfl (hreads _ hsaved)
  | stopped hverify =>
      rcases List.mem_cons.1 hsaved with heq | hsaved
      · cases heq
      · rw [verify_after_findAttempt]
        exact settled_of_saved hverify hsaved
  | advanced hverified hadvance =>
      rcases List.mem_cons.1 hsaved with heq | hsaved
      · cases heq
      · rcases List.mem_append.1 hsaved with hsaved | hsaved
        · cases VerifyEnds.answer hverified.1 hsaved
        · exact absurd rfl (hadvance.reads _ hsaved)

/-- A verification that has counted a wrong code has been answered `Invalid OTP`. -/
theorem answered_of_counted {c : Config (service config)}
    (hpool : c.PoolEnds (Awaits config) (Ends config))
    (hI : CountInv id c.toHistory) (ha : c.Attributed) {i : Nat}
    (hi : i ∈ (c.selected (counts id)).map Event.who) :
    answeredInvalid c.toHistory id i = true := by
  rcases List.mem_map.1 hi with ⟨e, he, rfl⟩
  rcases History.mem_selected.1 he with ⟨hmem, r, hr, hmark⟩
  rcases counts_iff.1 hmark with ⟨saved, hid, hev⟩
  have hown : (⟨.saveChallenge saved, .ok ()⟩ : Awaited sig HttpError) ∈ c.own e.who := by
    rw [← hev]
    exact History.mem_own.2 hmem
  rcases hI.saved saved e.who (History.mem_own.1 hown) with ⟨r', dto, hr', hdto, hdtoId⟩
  have hsame : r' = r := by
    rw [hr] at hr'
    exact (Option.some.inj hr').symm
  subst hsame
  have hlt : e.who < c.pool.length := by
    rw [hpool.1]
    exact ha e hmem
  have hfollows := hpool.2 e.who r' _ hr (List.getElem?_eq_getElem hlt)
  refine answeredInvalid_iff.2 ⟨r', dto, hr, hdto, hdtoId.trans hid, ?_⟩
  -- A call that has yet to settle has counted nothing.
  cases r' with
  | otpVerify dto' =>
      cases hdto
      rcases hfollows.cases with ⟨res, _, r, hsettled⟩ | ⟨op, hop⟩
      · exact settled_of_saved hsettled hown
      · exact absurd rfl (verifying_reads hop _ hown)
  | verifyOtp dto' =>
      cases hdto
      rcases hfollows.cases with ⟨res, _, hends⟩ | ⟨op, hop⟩
      · exact verifyOtp_answered hends hown
      · exact (verifyOtp_uncounted hop hown).elim
  | _ => cases hdto

end Answers

/-- The requests answered `Invalid OTP` are those that have counted a wrong code. -/
theorem invalidAnswers_length {c : Config (service config)}
    (hpool : c.PoolEnds (Awaits config) (Ends config)) (hI : CountInv id c.toHistory)
    (ha : c.Attributed) :
    (invalidAnswers c.toHistory id).length = (c.selected (counts id)).length := by
  have hmem : ∀ i, i ∈ invalidAnswers c.toHistory id ↔
      i ∈ (c.selected (counts id)).map Event.who := by
    intro i
    constructor
    · intro hi
      exact counted_of_answered hI.answered (List.mem_filter.1 hi).2
    · intro hi
      have hlt : i < c.requests.length := by
        rcases List.mem_map.1 hi with ⟨e, he, rfl⟩
        exact ha e (History.mem_selected.1 he).1
      exact List.mem_filter.2 ⟨List.mem_range.2 hlt, answered_of_counted hpool hI ha hi⟩
  have hnodup : (invalidAnswers c.toHistory id).Nodup := List.nodup_range.filter _
  have hperm := (List.perm_ext_iff_of_nodup hnodup hI.once).2 hmem
  rw [hperm.length_eq, List.length_map]

/-- No wrong guess goes uncounted. In a run in which verifications save a challenge only while the
stored count is still the one they have read, the counter is the number of calls answered
`Invalid OTP`, and it reaches the maximum no later than the lock is set. -/
theorem wrong_guesses_counted (config : OtpConfig) (hmax : 1 ≤ config.maxAttempts) (s : Store)
    (c : OtpChallenge) (hc : c ∈ s.challenges) (hzero : c.attemptCount = 0)
    (as : List (Action (service config)))
    (hC : Config.Meets CountsAsRead (Config.initial (service config) s) as) :
    ∃ c' ∈ ((Config.initial (service config) s).run as).state.challenges, c'.id = c.id ∧
      c'.attemptCount =
        (invalidAnswers ((Config.initial (service config) s).run as).toHistory c.id).length ∧
      (c'.lockedUntil = none → c'.attemptCount < config.maxAttempts) := by
  have hI := countInv_run hmax hc rfl hzero hC
  have hreach := Config.run_follows (follows_program config) s as
  rw [invalidAnswers_length hreach.1 hI hreach.2]
  exact hI.count

def wrongCode : Request :=
  .otpVerify ⟨"challenge-1", "000000"⟩

/-- One call with a wrong code, from its start to its end. -/
def soloGuess : List (Action (service sampleConfig)) :=
  [.start wrongCode, .resume 0 (.smooth ""), .resume 0 (.smooth ""), .resume 0 (.smooth "")]

theorem wrong_guesses_counted_soloGuess :
    ∃ c' ∈ ((Config.initial (service sampleConfig) challengedStore).run soloGuess).state.challenges,
      c'.id = "challenge-1" ∧
      c'.attemptCount = (invalidAnswers ((Config.initial (service sampleConfig)
        challengedStore).run soloGuess).toHistory "challenge-1").length ∧
      (c'.lockedUntil = none → c'.attemptCount < 5) :=
  wrong_guesses_counted sampleConfig (by decide) challengedStore sampleChallenge (by decide) rfl
    soloGuess (by decide)

/-- Two calls with a wrong code: both read the count 0 before either writes. -/
def overlappingGuesses : List (Action (service sampleConfig)) :=
  [.start wrongCode, .start wrongCode, .resume 0 (.smooth ""), .resume 1 (.smooth ""),
    .resume 0 (.smooth ""), .resume 1 (.smooth ""), .resume 0 (.smooth ""), .resume 1 (.smooth "")]

/-- Both are answered `Invalid OTP`, and the count is 1. -/
theorem wrong_guess_uncounted :
    (invalidAnswers ((Config.initial (service sampleConfig) challengedStore).run
      overlappingGuesses).toHistory "challenge-1").length = 2 ∧
    ∀ c' ∈ ((Config.initial (service sampleConfig) challengedStore).run
      overlappingGuesses).state.challenges, c'.attemptCount = 1 := by
  decide

end Auth
end IdentityBillpay
