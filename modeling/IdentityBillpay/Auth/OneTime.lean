import IdentityBillpay.Auth.Service

/-!
# OneTime — a challenge verifies at most once

`OtpService.verify` reads a challenge, compares the code, and soft-deletes the challenge. Two calls
that overlap can both read it before either deletes it. As long as each writes only while the row is
still live, at most one of them returns verified.

* `WritesLive` — the condition on one event;
* `challenge_verified_once` — the law; `challenge_verified_twice` — a run that breaks it.
-/

namespace IdentityBillpay
namespace Auth

open Async Keycloak OtpService

variable {config : OtpConfig} {id : String}

/-- The call of `OtpService.verify` that request `i` makes, for the challenge `id`, has returned
verified. -/
def Verified (h : History (service config)) (id : String) (i : Nat) : Prop :=
  ∃ r dto mobileNumber, h.requests[i]? = some r ∧ r.verifyDto? = some dto ∧
    dto.challengeId = id ∧ (verify config dto).after (h.own i) = .resolve mobileNumber

/-- A verification writes a challenge only while the row is still live. -/
def WritesLive (h : History (service config)) (e : Event sig HttpError) : Prop :=
  e.op.part = some .challenges → ∀ dto ∈ h.requests[e.who]?.bind Request.verifyDto?,
    ∃ c ∈ h.state.challenges, c.id = dto.challengeId ∧ c.deletedAt = none

instance (h : History (service config)) (e : Event sig HttpError) : Decidable (WritesLive h e) :=
  inferInstanceAs (Decidable (_ → ∀ dto ∈ h.requests[e.who]?.bind Request.verifyDto?,
    ∃ c ∈ h.state.challenges, _))

/-- The operation with which a verification of the challenge succeeds. -/
def consumes (id : String) (r : Request) (a : Awaited sig HttpError) : Bool :=
  (r.verifyDto?.any fun dto => dto.challengeId == id) &&
    decide (a = ⟨.softDeleteChallenge id, .ok ()⟩)

theorem consumes_iff {r : Request} {a : Awaited sig HttpError} :
    consumes id r a = true ↔
      ∃ dto, r.verifyDto? = some dto ∧ dto.challengeId = id ∧
        a = ⟨.softDeleteChallenge id, .ok ()⟩ := by
  simp only [consumes, Bool.and_eq_true, decide_eq_true_eq, Option.any_eq_true, beq_iff_eq]
  constructor
  · intro h
    rcases h with ⟨⟨dto, hdto, hid⟩, ha⟩
    exact ⟨dto, hdto, hid, ha⟩
  · intro h
    rcases h with ⟨dto, hdto, hid, ha⟩
    exact ⟨⟨dto, hdto, hid⟩, ha⟩

/-! ## The law -/

/-- What a verification has read is a live row of the challenge it names. -/
theorem read_challenge {h : History (service config)} (ha : h.Answered) {i : Nat} {key : String}
    {c : OtpChallenge} (hread : (⟨.findChallenge key, .ok (some c)⟩ : Awaited sig HttpError) ∈ h.own i) :
    c.id = key ∧ c.deletedAt = none := by
  rcases ha.own hread with ⟨ch, s, hres⟩
  exact (findChallenge_some hres).2

/-- At most one verification has succeeded, and after it the row is deleted. -/
structure OnceInv (id : String) (h : History (service config)) : Prop where
  answered : h.Answered
  once : (h.selected (consumes id)).length ≤ 1
  deleted : h.selected (consumes id) ≠ [] → ∃ c ∈ h.state.challenges, c.id = id ∧ c.deletedAt ≠ none

section Step

variable {h : History (service config)} {i : Nat} {r : Request} {op : Op} {ch : Choice}

/-- A deleted challenge stays deleted: a verification writes over it only while it is live. -/
theorem deleted_kept (ha : h.Answered) (hr : h.requests[i]? = some r)
    (hop : Awaits config r (h.own i) op)
    (hC : WritesLive h ⟨⟨op, ((service config).perform op ch h.state).1⟩, i⟩)
    (hdeleted : ∃ c ∈ h.state.challenges, c.id = id ∧ c.deletedAt ≠ none) :
    ∃ c ∈ (h.perform i op ch).state.challenges, c.id = id ∧ c.deletedAt ≠ none := by
  rcases hdeleted with ⟨c, hc, hid, hdel⟩
  rcases perform_challenges_cases op ch h.state with
    hsame | ⟨new, rfl, _, _, hmem⟩ | ⟨c', rfl, _, hmem⟩ | ⟨id', rfl, _, hmem⟩
  · exact ⟨c, by rw [History.perform_state, service_perform, hsame]; exact hc, hid, hdel⟩
  · exact ⟨c, (hmem c).2 (.inl hc), hid, hdel⟩
  · rcases awaits_saveChallenge hop with ⟨dto, d, hdto, hread, hcounted, _⟩
    rcases hC rfl dto (by simp [hr, hdto]) with ⟨live, hlive, hliveId, hnone⟩
    have hd := read_challenge ha hread
    rcases hcounted with ⟨lockedUntil, rfl, _⟩
    refine ⟨c, (hmem c).2 (.inr ⟨hc, fun hcd => ?_⟩), hid, hdel⟩
    have hsame : c = live := Sql.Table.eq_of_id hc hlive (hcd.trans (hd.1.trans hliveId.symm))
    exact hdel (hsame ▸ hnone)
  · refine ⟨_, (hmem _).2 ⟨c, hc, rfl⟩, ?_, ?_⟩
    · split
      · exact hid
      · exact hid
    · split
      · simp
      · exact hdel

/-- When a verification succeeds, its challenge is stored live. -/
theorem consumes_live (hr : h.requests[i]? = some r)
    (hC : WritesLive h ⟨⟨op, ((service config).perform op ch h.state).1⟩, i⟩)
    (hmark : consumes id r ⟨op, ((service config).perform op ch h.state).1⟩ = true) :
    op = .softDeleteChallenge id ∧ (perform (.softDeleteChallenge id) ch h.state).1 = .ok () ∧
      ∃ c ∈ h.state.challenges, c.id = id ∧ c.deletedAt = none := by
  rcases consumes_iff.1 hmark with ⟨dto, hdto, rfl, hev⟩
  have hopeq : op = .softDeleteChallenge dto.challengeId := congrArg Awaited.op hev
  subst hopeq
  injection hev with _ hres
  exact ⟨rfl, hres, hC rfl dto (by simp [hr, hdto])⟩

theorem onceInv_perform (hI : OnceInv id h) (hr : h.requests[i]? = some r)
    (hop : Awaits config r (h.own i) op)
    (hC : WritesLive h ⟨⟨op, ((service config).perform op ch h.state).1⟩, i⟩) :
    OnceInv id (h.perform i op ch) := by
  refine ⟨hI.answered.perform i op ch, ?_, ?_⟩
  · refine History.selected_length_perform hr hI.once fun hmark => ?_
    by_contra hne
    rcases hI.deleted hne with ⟨c, hc, hid, hdel⟩
    rcases consumes_live hr hC hmark with ⟨_, _, d, hd, hdid, hlive⟩
    have hsame : c = d := Sql.Table.eq_of_id hc hd (hid.trans hdid.symm)
    exact hdel (hsame ▸ hlive)
  · intro hne
    by_cases hold : h.selected (consumes id) = []
    · have hmark : consumes id r ⟨op, ((service config).perform op ch h.state).1⟩ = true := by
        rw [History.selected_perform hr, hold, List.nil_append] at hne
        by_contra hnot
        simp [hnot] at hne
      rcases consumes_live hr hC hmark with ⟨rfl, hres, d, hd, hdid, _⟩
      refine ⟨{ d with deletedAt := some h.state.clock }, ?_, hdid, by simp⟩
      rw [History.perform_state, service_perform, perform_softDeleteChallenge hres]
      exact mem_softDeleteChallenge.2 ⟨d, hd, by simp [hdid]⟩
    · exact deleted_kept hI.answered hr hop hC (hI.deleted hold)

end Step

theorem OnceInv.start {h : History (service config)} (hI : OnceInv id h) (hattr : h.Attributed)
    (r : Request) : OnceInv id (h.start r) := by
  refine ⟨hI.answered, ?_, ?_⟩
  · rw [History.selected_start hattr]
    exact hI.once
  · rw [History.selected_start hattr]
    exact hI.deleted

theorem onceInv_initial (config : OtpConfig) (id : String) (s : Store) :
    OnceInv id (Config.initial (service config) s).toHistory := by
  refine ⟨fun e he => ?_, by simp [History.selected, Config.initial], fun hne => ?_⟩
  · simp [Config.initial] at he
  · simp [History.selected, Config.initial] at hne

theorem onceInv_run (config : OtpConfig) (id : String) (s : Store)
    (as : List (Action (service config)))
    (hC : Config.Meets WritesLive (Config.initial (service config) s) as) :
    OnceInv id ((Config.initial (service config) s).run as).toHistory := by
  refine Config.run_induction (follows_program config) ?_ ?_ (onceInv_initial config id s) as hC
  · exact fun h r hattr hI => hI.start hattr r
  · exact fun h i r op ch _ hI hr hop hC => onceInv_perform hI hr hop hC

/-- A call that has returned verified has soft-deleted its challenge. -/
theorem Verified.consumed {h : History (service config)} (ha : h.Answered) {i : Nat}
    (hv : Verified h id i) :
    ⟨⟨.softDeleteChallenge id, .ok ()⟩, i⟩ ∈ h.selected (consumes id) := by
  rcases hv with ⟨r, dto, mobileNumber, hr, hdto, hid, hafter⟩
  have hsettled : (verify config dto).after (h.own i) = Program.settled (.ok mobileNumber) := hafter
  rcases follows_verify.after hsettled with ⟨seen, hsub, hends⟩
  cases hends with
  | @verified own c hread =>
      have hsoft : (⟨.softDeleteChallenge c.id, .ok ()⟩ : Awaited sig HttpError) ∈ h.own i :=
        hsub.subset (by simp)
      have hc := read_challenge ha (hsub.subset (List.mem_append_left _ hread.mem))
      have hcid : c.id = id := hc.1.trans hid
      rw [hcid] at hsoft
      refine History.mem_selected.2 ⟨History.mem_own.1 hsoft, r, hr, ?_⟩
      exact consumes_iff.2 ⟨dto, hdto, hid, rfl⟩

/-- All verified calls are the same one. -/
theorem OnceInv.unique {h : History (service config)} (hI : OnceInv id h) {i j : Nat}
    (hi : Verified h id i) (hj : Verified h id j) : i = j :=
  congrArg Event.who (History.selected_unique hI.once (hi.consumed hI.answered)
    (hj.consumed hI.answered))

/-- One-time passwords are used once. In a run in which verifications write a challenge only while
the row is still live, at most one call returns verified for it. -/
theorem challenge_verified_once (config : OtpConfig) (id : String) (s : Store)
    (as : List (Action (service config)))
    (hC : Config.Meets WritesLive (Config.initial (service config) s) as) (i j : Nat)
    (hi : Verified ((Config.initial (service config) s).run as).toHistory id i)
    (hj : Verified ((Config.initial (service config) s).run as).toHistory id j) : i = j :=
  (onceInv_run config id s as hC).unique hi hj

/-- One challenge is stored, whose code is `123456`. -/
def challengedStore : Store :=
  sampleStore [] [sampleChallenge] [] []

def rightCode : Request :=
  .otpVerify ⟨"challenge-1", "123456"⟩

/-- One call with the right code, from its start to its end. -/
def soloVerify : List (Action (service sampleConfig)) :=
  [.start rightCode, .resume 0 (.smooth ""), .resume 0 (.smooth ""), .resume 0 (.smooth "")]

theorem challenge_verified_once_soloVerify :
    Verified ((Config.initial (service sampleConfig) challengedStore).run soloVerify).toHistory
      "challenge-1" 0 ∧ (0 : Nat) = 0 := by
  have hverified : Verified ((Config.initial (service sampleConfig) challengedStore).run
      soloVerify).toHistory "challenge-1" 0 := ⟨_, _, _, rfl, rfl, rfl, rfl⟩
  exact ⟨hverified, challenge_verified_once sampleConfig "challenge-1" challengedStore soloVerify
    (by decide) 0 0 hverified hverified⟩

/-- Two calls with the right code: both read the challenge before either deletes it. -/
def overlappingVerifies : List (Action (service sampleConfig)) :=
  [.start rightCode, .start rightCode, .resume 0 (.smooth ""), .resume 1 (.smooth ""),
    .resume 0 (.smooth ""), .resume 1 (.smooth ""), .resume 0 (.smooth ""), .resume 1 (.smooth "")]

/-- Both return verified. -/
theorem challenge_verified_twice :
    Verified ((Config.initial (service sampleConfig) challengedStore).run
      overlappingVerifies).toHistory "challenge-1" 0 ∧
    Verified ((Config.initial (service sampleConfig) challengedStore).run
      overlappingVerifies).toHistory "challenge-1" 1 :=
  ⟨⟨_, _, _, rfl, rfl, rfl, rfl⟩, ⟨_, _, _, rfl, rfl, rfl, rfl⟩⟩

end Auth
end IdentityBillpay
