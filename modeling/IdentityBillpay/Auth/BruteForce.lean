import IdentityBillpay.Async.Hoare
import IdentityBillpay.Auth.Service

/-!
# BruteForce — how often one challenge can be compared with a code

Calls of `OtpService.verify` that do not overlap, at any times and with any codes. Each comparison
is paid for: before the first lock by one of the `maxAttempts`, after it by a lock that has run out
within the time to live. `remaining` is what is left to spend.

* `usable_ensures`, `compareCode_ensures` — what the two halves of `verify` do to the store;
* `remaining_exec` — one call spends what it compares;
* `comparisons_bounded` — the bound over the whole life of a challenge.
-/

namespace IdentityBillpay
namespace Auth

open Async Js Keycloak OtpService

/-! ## The two halves of `verify` -/

/-- Only time has passed. -/
def Later (s s' : Store) : Prop :=
  s.clock ≤ s'.clock ∧ s' = { s with clock := s'.clock }

theorem Later.refl (s : Store) : Later s s :=
  ⟨Nat.le_refl _, rfl⟩

theorem Later.trans {s s' s'' : Store} (h : Later s s') (h' : Later s' s'') : Later s s'' := by
  refine ⟨Nat.le_trans h.1 h'.1, ?_⟩
  rw [h'.2, h.2]

theorem Later.challenges {s s' : Store} (h : Later s s') : s'.challenges = s.challenges := by
  rw [h.2]

/-- The challenge a call may compare at the time `now`: live, not expired, past its lock. -/
structure Usable (s : Store) (dto : VerifyOtpDto) (now : Date) (c : OtpChallenge) : Prop where
  stored : c ∈ s.challenges
  id : c.id = dto.challengeId
  live : c.deletedAt = none
  unexpired : now ≤ c.expiresAt
  unlocked : ∀ lockedUntil, c.lockedUntil = some lockedUntil → lockedUntil < now

section Halves

variable {config : OtpConfig} {s : Store}

theorem isExpired_ensures (date : Date) :
    Ensures backend (fun _ => True)
      (fun s' r => Later s s' ∧ r = .ok (decide (date < s'.clock))) s (isExpired date) := by
  refine ensures_call_bind (fun _ => trivial) ?_ ?_
  · intro ch e he
    cases he
  · intro ch now hnow
    cases hnow
    exact ⟨⟨Nat.le_add_right _ _, rfl⟩, rfl⟩

theorem checkUnlocked_ensures (c : OtpChallenge) :
    Ensures backend (fun _ => True)
      (fun s' r => Later s s' ∧
        (r = .ok () → ∀ lockedUntil, c.lockedUntil = some lockedUntil → lockedUntil < s'.clock))
      s (checkUnlocked c) := by
  unfold checkUnlocked
  cases c.lockedUntil with
  | none => exact ⟨.refl s, fun _ l hl => by cases hl⟩
  | some lockedUntil =>
      refine (isExpired_ensures lockedUntil).bind ?_ ?_
      · intro s' expired hexpired
        rcases hexpired with ⟨hlater, hr⟩
        cases expired with
        | true =>
            refine ⟨hlater, fun _ l hl => ?_⟩
            cases hl
            exact of_decide_eq_true (Except.ok.inj hr).symm
        | false => exact ⟨hlater, fun hok => by cases hok⟩
      · exact fun s' e he => ⟨he.1, fun hok => by cases hok⟩

theorem checkUnexpired_ensures (c : OtpChallenge) :
    Ensures backend (fun _ => True)
      (fun s' r => Later s s' ∧ (r = .ok () → s'.clock ≤ c.expiresAt)) s (checkUnexpired c) := by
  refine (isExpired_ensures c.expiresAt).bind ?_ ?_
  · intro s' expired hexpired
    rcases hexpired with ⟨hlater, hr⟩
    cases expired with
    | true => exact ⟨hlater, fun hok => by cases hok⟩
    | false =>
        refine ⟨hlater, fun _ => ?_⟩
        exact Nat.le_of_not_lt (of_decide_eq_false (Except.ok.inj hr).symm)
  · exact fun s' e he => ⟨he.1, fun hok => by cases hok⟩

/-- The first half reads, looks at the clock, and lets usable challenges through. -/
theorem usable_ensures (dto : VerifyOtpDto) :
    Ensures backend (fun _ => True)
      (fun s' r => Later s s' ∧ ∀ c, r = .ok c → Usable s dto s'.clock c) s (usable dto) := by
  refine ensures_call_bind (fun _ => trivial) ?_ ?_
  · intro ch e he
    cases he
  · intro ch found hfound
    cases (found : Option OtpChallenge) with
    | none => exact ⟨.refl s, fun c hc => by cases hc⟩
    | some c =>
        have hread := findChallenge_some hfound.symm
        refine (checkUnlocked_ensures c).bind ?_ ?_
        · intro s' _ hunlocked
          refine (checkUnexpired_ensures c).bind ?_ ?_
          · intro s'' _ hunexpired
            refine ⟨hunlocked.1.trans hunexpired.1, fun c' hc' => ?_⟩
            cases hc'
            exact ⟨hread.1, hread.2.1, hread.2.2, hunexpired.2 rfl,
              fun l hl => Nat.lt_of_lt_of_le (hunlocked.2 rfl l hl) hunexpired.1.1⟩
          · exact fun s'' e he => ⟨hunlocked.1.trans he.1, fun c' hc' => by cases hc'⟩
        · exact fun s' e he => ⟨he.1, fun c' hc' => by cases hc'⟩

/-- The challenge after a wrong code at the time `now`. -/
def counted (config : OtpConfig) (now : Date) (c : OtpChallenge) : OtpChallenge :=
  { c with
    attemptCount := c.attemptCount + 1
    lockedUntil :=
      if config.maxAttempts ≤ c.attemptCount + 1 then some (now + config.lockDuration)
      else c.lockedUntil }

/-- What the second half leaves: only a later clock when its write fails, else the challenge
counted or deleted. -/
inductive Compared (config : OtpConfig) (c : OtpChallenge) (s s' : Store) :
    Except HttpError String → Prop
  | failed {e : HttpError} (he : e.fromOutside = true) (hlater : Later s s') :
      Compared config c s s' (.error e)
  | wrong {r : Except HttpError String} (hclock : s.clock ≤ s'.clock)
      (hrows : ∀ x, x ∈ s'.challenges ↔
        x = counted config s'.clock c ∨ (x ∈ s.challenges ∧ x.id ≠ c.id)) :
      Compared config c s s' r
  | right {r : Except HttpError String} (hclock : s.clock ≤ s'.clock)
      (hrows : ∀ x, x ∈ s'.challenges ↔ ∃ d ∈ s.challenges,
        x = if d.id == c.id then { d with deletedAt := some s.clock } else d) :
      Compared config c s s' r

theorem saveChallenge_ensures {Q : Store → Except HttpError Unit → Prop} (c : OtpChallenge)
    (hfail : ∀ e, e.fromOutside = true → Q s (.error e))
    (hok : ∀ t, (∀ x, x ∈ t ↔ x = c ∨ (x ∈ s.challenges ∧ x.id ≠ c.id)) →
      Q { s with challenges := t } (.ok ())) :
    Ensures backend (fun _ => True) Q s (call (.saveChallenge c)) := by
  intro ch
  refine ⟨trivial, ensures_settled.2 ?_⟩
  rcases perform_saveChallenge c ch s with ⟨e, hp⟩ | ⟨t, hp, hmem⟩
  · simpa only [backend, hp] using hfail e (perform_error (congrArg Prod.fst hp))
  · simpa only [backend, hp] using hok t hmem

theorem countWrong_ensures (c : OtpChallenge) :
    Ensures backend (fun _ => True)
      (fun s' r => Compared config c s s' (match r with
        | .ok _ => .error (.badRequest "Invalid OTP")
        | .error e => .error e)) s (countWrong config c) := by
  unfold countWrong
  split
  · rename_i hmax
    refine ensures_call_bind (fun _ => trivial) ?_ ?_
    · intro ch e he
      cases he
    · intro ch now hnow
      cases hnow
      refine saveChallenge_ensures _ ?_ ?_
      · exact fun e he => .failed he ⟨Nat.le_add_right _ _, rfl⟩
      · intro t hmem
        refine .wrong (Nat.le_add_right _ _) fun x => ?_
        rw [counted, if_pos hmax]
        exact hmem x
  · rename_i hmax
    refine saveChallenge_ensures _ ?_ ?_
    · exact fun e he => .failed he (.refl s)
    · intro t hmem
      refine .wrong (Nat.le_refl _) fun x => ?_
      rw [counted, if_neg hmax]
      exact hmem x

/-- The second half compares the code, and writes once. -/
theorem compareCode_ensures (otp : String) (c : OtpChallenge) :
    Ensures backend (fun _ => True) (fun s' r => Compared config c s s' r) s
      (compareCode config otp c) := by
  unfold compareCode
  split
  · refine (countWrong_ensures c).bind ?_ ?_
    · exact fun s' _ h => h
    · exact fun s' e h => h
  · refine ensures_call_bind (fun _ => trivial) ?_ ?_
    · intro ch e he
      have hsame : (perform (.softDeleteChallenge c.id) ch s).2 = s := perform_failed (by simp) he
      refine .failed (@perform_error (.softDeleteChallenge c.id) ch s e he) ?_
      rw [hsame]
      exact .refl s
    · intro ch _ hdone
      rw [perform_softDeleteChallenge hdone]
      exact .right (Nat.le_refl _) fun x => mem_softDeleteChallenge

theorem insertChallenge_ensures (new : NewChallenge) :
    Ensures backend (fun _ => True)
      (fun s' r => ∀ id, r = .ok id → new.row id ∈ s'.challenges ∧ s'.clock = s.clock) s
      (call (.insertChallenge new)) := by
  intro ch
  refine ⟨trivial, ensures_settled.2 ?_⟩
  intro id hid
  rcases perform_insertChallenge new ch s with ⟨e, hp⟩ | ⟨t, hp, _, hmem⟩
  · simp only [backend, hp] at hid
    cases hid
  · simp only [backend, hp] at hid ⊢
    cases hid
    exact ⟨(hmem _).2 (.inr rfl), trivial⟩

/-- A new challenge is unlocked, counts nothing, and lives for the time to live. -/
theorem create_ensures (config : OtpConfig) (dto : GenerateOtpDto) :
    Ensures backend (fun _ => True)
      (fun s' r => ∀ g, r = .ok g → g.saved ∈ s'.challenges ∧ g.saved.attemptCount = 0 ∧
        g.saved.lockedUntil = none ∧ g.saved.expiresAt = s'.clock + config.timeToLive) s
      (create config dto) := by
  refine ensures_call_bind (fun _ => trivial) (fun ch e he => by cases he) fun ch number _ => ?_
  refine ensures_call_bind (fun _ => trivial) (fun ch e he => by cases he) fun ch now hnow => ?_
  cases hnow
  refine (insertChallenge_ensures _).bind ?_ fun s' e _ g hg => by cases hg
  intro s' id hinserted g hg
  cases hg
  rcases hinserted id rfl with ⟨hmem, hclock⟩
  exact ⟨hmem, rfl, rfl, by rw [hclock]; rfl⟩

end Halves

/-! ## What is left to spend -/

/-- How often a time of length `L` fits between two points in time. -/
def rounds (L start stop : Nat) : Nat :=
  (stop - start) / L

theorem rounds_anti {L start start' stop : Nat} (h : start ≤ start') :
    rounds L start' stop ≤ rounds L start stop :=
  Nat.div_le_div_right (Nat.sub_le_sub_left h _)

@[simp] theorem rounds_shift {L start stop : Nat} :
    rounds L (start + L) (stop + L) = rounds L start stop := by
  rw [rounds, Nat.add_sub_add_right, rounds]

/-- After a start that is not too late there is one more round. -/
theorem rounds_add {L start stop : Nat} (hL : 0 < L) (h : start ≤ stop) :
    rounds L start (stop + L) = rounds L start stop + 1 := by
  rw [rounds, Nat.sub_add_comm h, Nat.add_div_right _ hL, rounds]

/-- The comparisons a challenge still allows at the time `now`. -/
def remaining (config : OtpConfig) (now : Date) (c : OtpChallenge) : Nat :=
  if c.deletedAt.isSome then 0
  else match c.lockedUntil with
    | none => (config.maxAttempts - c.attemptCount) + rounds config.lockDuration now c.expiresAt
    | some lockedUntil =>
        rounds config.lockDuration lockedUntil (c.expiresAt + config.lockDuration)

/-- A challenge is locked, for the first time, when the maximum is reached. -/
def LocksInTime (config : OtpConfig) (c : OtpChallenge) : Prop :=
  c.lockedUntil = none ↔ c.attemptCount < config.maxAttempts

section Remaining

variable {config : OtpConfig} {c : OtpChallenge} {now now' : Date}

theorem remaining_anti (h : now ≤ now') : remaining config now' c ≤ remaining config now c := by
  unfold remaining
  split
  · exact Nat.le_refl _
  · split
    · exact Nat.add_le_add_left (rounds_anti h) _
    · exact Nat.le_refl _

theorem counted_locksInTime (h : LocksInTime config c) :
    LocksInTime config (counted config now c) := by
  unfold LocksInTime counted
  dsimp only
  split
  · rename_i hmax
    simp [Nat.not_lt.2 hmax]
  · rename_i hmax
    have hlt : c.attemptCount + 1 < config.maxAttempts := Nat.lt_of_not_le hmax
    have hunlocked : c.lockedUntil = none := h.2 (Nat.lt_of_succ_lt hlt)
    simp [hunlocked, hlt]

/-- Counting a wrong code spends one comparison. -/
theorem remaining_counted (hL : 0 < config.lockDuration) (h : LocksInTime config c)
    (hlive : c.deletedAt = none) (hunexpired : now ≤ c.expiresAt)
    (hunlocked : ∀ l, c.lockedUntil = some l → l < now) (hnow : now ≤ now') :
    1 + remaining config now' (counted config now' c) ≤ remaining config now c := by
  unfold remaining counted
  rw [hlive]
  cases hlocked : c.lockedUntil with
  | none =>
      have hlt := h.1 hlocked
      have hlater : rounds config.lockDuration now' c.expiresAt ≤
          rounds config.lockDuration now c.expiresAt := rounds_anti hnow
      by_cases hmax : config.maxAttempts ≤ c.attemptCount + 1
      · -- The last of the free comparisons sets the first lock.
        simp [hmax]
        omega
      · simp [hmax]
        omega
  | some l =>
      have hmax : config.maxAttempts ≤ c.attemptCount + 1 := by
        by_contra hlt
        have hnone := h.2 (Nat.lt_of_succ_lt (Nat.lt_of_not_le hlt))
        rw [hlocked] at hnone
        cases hnone
      -- The old lock has run out, so the new one begins a round later.
      have hl : l ≤ now := Nat.le_of_lt (hunlocked l hlocked)
      have hround := rounds_add hL (Nat.le_trans hl hunexpired)
      have hlater : rounds config.lockDuration now' c.expiresAt ≤
          rounds config.lockDuration l c.expiresAt := rounds_anti (Nat.le_trans hl hnow)
      simp [hmax, hround]
      omega

/-- A usable challenge has a comparison left. -/
theorem remaining_pos (hL : 0 < config.lockDuration) (h : LocksInTime config c)
    (hlive : c.deletedAt = none) (hunexpired : now ≤ c.expiresAt)
    (hunlocked : ∀ l, c.lockedUntil = some l → l < now) : 1 ≤ remaining config now c :=
  Nat.le_trans (Nat.le_add_right _ _)
    (remaining_counted hL h hlive hunexpired hunlocked (Nat.le_refl now))

end Remaining

/-! ## Calls one after the other -/

/-- A call of `verify`, with what the environment decides at each of its awaits. -/
structure VerifyCall where
  dto : VerifyOtpDto
  choices : Nat → Choice

namespace VerifyCall

def exec (call : VerifyCall) (config : OtpConfig) (s : Store) :
    Outcome sig HttpError Store String :=
  (verify config call.dto).exec backend call.choices s

/-- The call compares its code with the stored hash of the challenge `id`. -/
def compares (call : VerifyCall) (id : String) (s : Store) : Bool :=
  call.dto.challengeId == id && ((usable call.dto).exec backend call.choices s).result.isOk

/-- The call compares its code, and then the database fails to write. -/
def failsToWrite (call : VerifyCall) (config : OtpConfig) (id : String) (s : Store) : Bool :=
  call.compares id s && match (call.exec config s).result with
    | .ok _ => false
    | .error e => e.fromOutside

end VerifyCall

/-- How many of the calls, made one after the other, satisfy a condition on the store they find. -/
def countCalls (config : OtpConfig) (counts : VerifyCall → Store → Bool) :
    Store → List VerifyCall → Nat
  | _, [] => 0
  | s, call :: calls =>
      (if counts call s then 1 else 0) + countCalls config counts (call.exec config s).state calls

section Calls

variable {config : OtpConfig} {id : String} {c : OtpChallenge} {s : Store}

/-- The challenge is stored, and locked in time. -/
def Guarded (config : OtpConfig) (id : String) (s : Store) (c : OtpChallenge) : Prop :=
  c ∈ s.challenges ∧ c.id = id ∧ LocksInTime config c

/-- A call that does not get as far as a comparison takes nothing but time. -/
theorem exec_refused (config : OtpConfig) {call : VerifyCall} {e : HttpError}
    (h : ((usable call.dto).exec backend call.choices s).result = .error e) :
    Later s (call.exec config s).state := by
  have hfirst := (usable_ensures (s := s) call.dto).exec call.choices
  rw [VerifyCall.exec, verify, Program.exec_bind_error h]
  exact hfirst.1

/-- A call that compares first waits, and then leaves what the comparison leaves. -/
theorem exec_compared (config : OtpConfig) {call : VerifyCall} {d : OtpChallenge}
    (h : ((usable call.dto).exec backend call.choices s).result = .ok d) :
    ∃ s₁, Later s s₁ ∧ Usable s call.dto s₁.clock d ∧
      Compared config d s₁ (call.exec config s).state (call.exec config s).result := by
  have hfirst := (usable_ensures (s := s) call.dto).exec call.choices
  refine ⟨_, hfirst.1, hfirst.2 d h, ?_⟩
  rw [VerifyCall.exec, verify, Program.exec_bind_ok h]
  exact (compareCode_ensures call.dto.otp d).exec _

/-- A stored challenge that is not touched allows no more comparisons than before. -/
theorem guarded_later {s' : Store} (h : Guarded config id s c) (hrow : c ∈ s'.challenges)
    (hclock : s.clock ≤ s'.clock) :
    ∃ c', Guarded config id s' c' ∧ remaining config s'.clock c' ≤ remaining config s.clock c :=
  ⟨c, ⟨hrow, h.2⟩, remaining_anti hclock⟩

theorem Compared.clock {d : OtpChallenge} {s' : Store} {r : Except HttpError String}
    (h : Compared config d s s' r) : s.clock ≤ s'.clock := by
  cases h with
  | failed _ hlater => exact hlater.1
  | wrong hclock _ => exact hclock
  | right hclock _ => exact hclock

/-- A comparison leaves every other challenge alone. -/
theorem Compared.other {d : OtpChallenge} {s' : Store} {r : Except HttpError String}
    (h : Compared config d s s' r) (hc : c ∈ s.challenges) (hne : c.id ≠ d.id) :
    c ∈ s'.challenges := by
  cases h with
  | failed _ hlater =>
      rw [hlater.challenges]
      exact hc
  | wrong _ hrows => exact (hrows c).2 (.inr ⟨hc, hne⟩)
  | right _ hrows => exact (hrows c).2 ⟨c, hc, by simp [hne]⟩

/-- A comparison spends one of what its challenge allows, unless the write fails. -/
theorem Compared.spends {dto : VerifyOtpDto} {s₁ s' : Store} {r : Except HttpError String}
    (h : Compared config c s₁ s' r) (hL : 0 < config.lockDuration)
    (hguarded : Guarded config id s₁ c) (husable : Usable s dto s₁.clock c) :
    ∃ c', Guarded config id s' c' ∧ 1 + remaining config s'.clock c' ≤
      remaining config s₁.clock c + if (match r with
        | .ok _ => false
        | .error e => e.fromOutside) then 1 else 0 := by
  cases h with
  | @failed e he hlater =>
      rcases guarded_later hguarded (by rw [hlater.challenges]; exact hguarded.1) hlater.1 with
        ⟨c', hc', hle⟩
      refine ⟨c', hc', ?_⟩
      simp only [he, if_true]
      omega
  | wrong hclock hrows =>
      have hspent := remaining_counted hL hguarded.2.2 husable.live husable.unexpired
        husable.unlocked hclock
      refine ⟨_, ⟨(hrows _).2 (.inl rfl), hguarded.2.1, counted_locksInTime hguarded.2.2⟩, ?_⟩
      exact Nat.le_trans hspent (Nat.le_add_right _ _)
  | right hclock hrows =>
      have hleft := remaining_pos hL hguarded.2.2 husable.live husable.unexpired husable.unlocked
      refine ⟨{ c with deletedAt := some s₁.clock },
        ⟨(hrows _).2 ⟨c, hguarded.1, by simp⟩, hguarded.2.1, hguarded.2.2⟩, ?_⟩
      -- A deleted challenge allows no comparison any more.
      exact Nat.le_trans hleft (Nat.le_add_right _ _)

/-- One call spends what it compares, unless the database fails. -/
theorem remaining_exec (hL : 0 < config.lockDuration) (h : Guarded config id s c)
    (call : VerifyCall) :
    ∃ c', Guarded config id (call.exec config s).state c' ∧
      (if call.compares id s then 1 else 0) + remaining config (call.exec config s).state.clock c' ≤
        remaining config s.clock c + if call.failsToWrite config id s then 1 else 0 := by
  -- A call that ends before the comparison leaves the count alone.
  cases hfirst : ((usable call.dto).exec backend call.choices s).result with
  | error e =>
      have hno : call.compares id s = false := by
        simp [VerifyCall.compares, hfirst, Except.isOk, Except.toBool]
      have hlater := exec_refused config hfirst
      rcases guarded_later h (by rw [hlater.challenges]; exact h.1) hlater.1 with ⟨c', hc', hle⟩
      refine ⟨c', hc', ?_⟩
      simpa [hno, VerifyCall.failsToWrite] using hle
  | ok d =>
      rcases exec_compared config hfirst with ⟨s₁, hlater, husable, hcompared⟩
      have hc₁ : c ∈ s₁.challenges := by
        rw [hlater.challenges]
        exact h.1
      -- A comparison spends one of the attempts of its own challenge, and none of another.
      by_cases hid : call.dto.challengeId = id
      · have hyes : call.compares id s = true := by
          simp [VerifyCall.compares, hfirst, hid, Except.isOk, Except.toBool]
        have hdc : d = c :=
          Sql.Table.eq_of_id husable.stored h.1 ((husable.id.trans hid).trans h.2.1.symm)
        subst hdc
        rcases hcompared.spends hL ⟨hc₁, h.2⟩ husable with ⟨c', hc', hle⟩
        have hwait : remaining config s₁.clock d ≤ remaining config s.clock d :=
          remaining_anti hlater.1
        refine ⟨c', hc', ?_⟩
        simp only [hyes, VerifyCall.failsToWrite, Bool.true_and, if_true]
        omega
      · have hno : call.compares id s = false := by simp [VerifyCall.compares, hid]
        have hne : c.id ≠ d.id := fun heq => hid (husable.id.symm.trans (heq.symm.trans h.2.1))
        rcases guarded_later h (hcompared.other hc₁ hne)
          (Nat.le_trans hlater.1 hcompared.clock) with ⟨c', hc', hle⟩
        refine ⟨c', hc', ?_⟩
        simpa [hno, VerifyCall.failsToWrite] using hle

/-- However many calls are made, they spend what the challenge allows. -/
theorem comparisons_le (hL : 0 < config.lockDuration) (h : Guarded config id s c)
    (calls : List VerifyCall) :
    countCalls config (fun call s => call.compares id s) s calls ≤ remaining config s.clock c +
      countCalls config (fun call s => call.failsToWrite config id s) s calls := by
  induction calls generalizing s c with
  | nil => exact Nat.zero_le _
  | cons call calls ih =>
      rcases remaining_exec hL h call with ⟨c', hc', hle⟩
      have hrest := ih hc'
      simp only [countCalls]
      omega

end Calls

/-- Brute force on one challenge is bounded over its whole life: by the maximum, and one more for
each time that the lock fits into the time to live. A comparison whose write fails is not counted
by the code, and so adds one. -/
theorem comparisons_bounded (config : OtpConfig) (hmax : 1 ≤ config.maxAttempts)
    (hlock : 0 < config.lockDuration) (dto : GenerateOtpDto) (choices : Nat → Choice) (s : Store)
    (g : GeneratedOtp)
    (hcreated : ((create config dto).exec backend choices s).result = .ok g)
    (calls : List VerifyCall) :
    let s' := ((create config dto).exec backend choices s).state
    let comparisons := countCalls config (fun call s => call.compares g.saved.id s) s' calls
    let failed := countCalls config (fun call s => call.failsToWrite config g.saved.id s) s' calls
    comparisons ≤ config.maxAttempts + config.timeToLive / config.lockDuration + failed ∧
      (config.timeToLive < config.lockDuration → comparisons ≤ config.maxAttempts + failed) := by
  have hnew := (create_ensures config dto).exec choices g hcreated
  rcases hnew with ⟨hstored, hzero, hunlocked, hexpires⟩
  have hguarded : Guarded config g.saved.id ((create config dto).exec backend choices s).state
      g.saved := by
    refine ⟨hstored, rfl, ?_⟩
    simp only [LocksInTime, hunlocked, hzero, true_iff]
    exact hmax
  have hle := comparisons_le hlock hguarded calls
  have hstart : remaining config ((create config dto).exec backend choices s).state.clock g.saved ≤
      config.maxAttempts + config.timeToLive / config.lockDuration := by
    unfold remaining
    split
    · exact Nat.zero_le _
    · rw [hunlocked, hzero, hexpires, rounds, Nat.add_sub_cancel_left]
      exact Nat.le_refl _
  intro s' comparisons failed
  have hbound :
      comparisons ≤ config.maxAttempts + config.timeToLive / config.lockDuration + failed :=
    Nat.le_trans hle (Nat.add_le_add_right hstart _)
  refine ⟨hbound, fun hlt => ?_⟩
  rw [Nat.div_eq_of_lt hlt] at hbound
  exact hbound

/-- Three calls on the sample challenge: two wrong codes and the right one. -/
def guesses : List VerifyCall :=
  [⟨⟨"challenge-1", "000000"⟩, fun _ => .smooth ""⟩, ⟨⟨"challenge-1", "111111"⟩, fun _ => .smooth ""⟩,
    ⟨⟨"challenge-1", "123456"⟩, fun _ => .smooth ""⟩]

theorem comparisons_bounded_guesses :
    let s' := ((create sampleConfig ⟨"9876543210"⟩).exec backend
      (fun _ => Choice.smooth "challenge-1") (sampleStore [] [] [] [])).state
    let comparisons := countCalls sampleConfig
      (fun call s => call.compares "challenge-1" s) s' guesses
    let failed := countCalls sampleConfig
      (fun call s => call.failsToWrite sampleConfig "challenge-1" s) s' guesses
    comparisons ≤ 5 + 300000 / 900000 + failed ∧ (300000 < 900000 → comparisons ≤ 5 + failed) :=
  comparisons_bounded sampleConfig (by decide) (by decide) ⟨"9876543210"⟩
    (fun _ => .smooth "challenge-1") (sampleStore [] [] [] []) ⟨sampleChallenge, "123456"⟩
    (by decide) guesses

end Auth
end IdentityBillpay
