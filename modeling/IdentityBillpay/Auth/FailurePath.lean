import IdentityBillpay.Auth.Compensation

/-!
# FailurePath — from an error in a `try` block to the answer of the request

The `catch` blocks of both steps call `fail`, which reads the attempt and saves the message of the
error before it calls `rollback`, and rethrow the error after that. Either write or read may throw in
its turn, and then the rest of the path is not taken.

* `fail_eq` — the bookkeeping, then the rollback;
* `exec_rollback` — a rollback throws only if it cannot look the attempt up;
* `HandlerAnswered` — the condition on the handler's calls to the database;
* `tooLong_not_compensated` — an error whose message is too long for its column;
* `failing_step_surfaces_iff` — both requests, wherever and with whatever they fail.
-/

namespace IdentityBillpay
namespace Auth

open Async Async.Program Keycloak RegistrationStep
open RegistrationOrchestratorService (advance fail)
open RegistrationCompensationService (safely rollback)
open RegistrationService (findOne requireCredentialsStep markCredentialsSet requireStep provision
  linkDevice failed createCredentials registerDevice)

/-! ## The handler -/

/-- What `fail` does before it calls `rollback`. -/
def bookkeeping (attemptId : String) (reason : String) : Prog Unit := do
  let attempt : Option RegistrationAttempt ← call (.findAttempt attemptId)
  match attempt with
  | none => return ()
  | some attempt => call (.saveAttempt { attempt with failureReason := some reason })

theorem fail_eq (attemptId : String) (atStep : RegistrationStep) (reason : String) :
    fail attemptId atStep reason =
      bookkeeping attemptId reason >>= fun _ => rollback attemptId atStep := by
  unfold fail bookkeeping
  rw [bind_assoc]
  refine congrArg (call (.findAttempt attemptId) >>= ·) (funext fun found => ?_)
  cases (found : Option RegistrationAttempt) with
  | none => rfl
  | some attempt => rfl

/-- The bookkeeping, and the rollback after it. -/
def booked (attemptId : String) (error : HttpError) (choices : Nat → flaky.Choice) (s : Store) :
    Outcome sig HttpError Store Unit :=
  (bookkeeping attemptId error.message).exec flaky choices s

def rolledBack (attemptId : String) (atStep : RegistrationStep) (error : HttpError)
    (choices : Nat → flaky.Choice) (s : Store) : Outcome sig HttpError Store Unit :=
  (rollback attemptId atStep).exec flaky
    (fun n => choices (n + (booked attemptId error choices s).awaited.length))
    (booked attemptId error choices s).state

section Handler

variable {attemptId : String} {atStep : RegistrationStep} {error : HttpError} {s : Store}
  {choices : Nat → flaky.Choice}

theorem exec_safely (action : Prog Unit) (choices : Nat → flaky.Choice) (s : Store) :
    ((safely action).exec flaky choices s).result = .ok () := by
  unfold safely
  cases h : (action.exec flaky choices s).result with
  | ok u => simp [exec_handle_ok h, h]
  | error e => simp [exec_handle_error h]

/-- Whatever a rollback undoes, it drops the errors of. -/
theorem exec_rollback_answered {ch : Choice} (hlookup : choices 0 = .ok ch) :
    ((rollback attemptId atStep).exec flaky choices s).result = .ok () := by
  have hread : flaky.perform (.findAttempt attemptId) (choices 0) s =
      (.ok (s.attempts.findOne (fun a => a.id == attemptId && a.deletedAt.isNone) ch.pick), s) := by
    rw [hlookup]
    rfl
  unfold rollback
  rw [exec_call_bind hread]
  cases s.attempts.findOne (fun a => a.id == attemptId && a.deletedAt.isNone) ch.pick with
  | none => rfl
  | some a =>
      dsimp only
      split
      · split
        · exact exec_safely _ _ _
        · rfl
      · split
        · exact exec_safely _ _ _
        · rfl
      · split
        · exact exec_safely _ _ _
        · rfl
      · rfl

/-- Its own lookup is outside `safely`. -/
theorem exec_rollback_broken {message : String} (hlookup : choices 0 = .error message) :
    ((rollback attemptId atStep).exec flaky choices s).result = .error (.queryFailed message) := by
  unfold rollback
  rw [call_bind, exec_await, hlookup]
  rfl

theorem rollback_awaits : ((rollback attemptId atStep).exec flaky choices s).awaited ≠ [] := by
  unfold rollback
  rw [call_bind, exec_await]
  exact List.cons_ne_nil _ _

/-- The handler where its bookkeeping is done. -/
theorem exec_failed_booked (hbook : (booked attemptId error choices s).result = .ok ()) :
    let back := rolledBack attemptId atStep error choices s
    (failed attemptId atStep error).exec flaky choices s =
      ⟨back.result >>= fun _ => .error error,
        (booked attemptId error choices s).awaited ++ back.awaited, back.state⟩ := by
  intro back
  have hfail : (fail attemptId atStep error.message).exec flaky choices s =
      ⟨back.result, (booked attemptId error choices s).awaited ++ back.awaited, back.state⟩ := by
    rw [fail_eq]
    exact exec_bind_ok hbook
  unfold failed
  cases hback : back.result with
  | ok u =>
      have hresult : ((fail attemptId atStep error.message).exec flaky choices s).result = .ok u := by
        rw [hfail, hback]
      simp [exec_bind_ok hresult, hfail]
      rfl
  | error e =>
      have hresult : ((fail attemptId atStep error.message).exec flaky choices s).result =
          .error e := by
        rw [hfail, hback]
      simp [exec_bind_error hresult, hfail]
      rfl

/-- And where it is not: nothing comes after it. -/
theorem exec_failed_notBooked {e : HttpError}
    (hbook : (booked attemptId error choices s).result = .error e) :
    (failed attemptId atStep error).exec flaky choices s =
      ⟨.error e, (booked attemptId error choices s).awaited,
        (booked attemptId error choices s).state⟩ := by
  have hfail : (fail attemptId atStep error.message).exec flaky choices s =
      ⟨.error e, (booked attemptId error choices s).awaited,
        (booked attemptId error choices s).state⟩ := by
    rw [fail_eq]
    exact exec_bind_error hbook
  have hresult : ((fail attemptId atStep error.message).exec flaky choices s).result = .error e := by
    rw [hfail]
  unfold failed
  rw [exec_bind_error hresult, hfail]

/-! ### Which calls the bookkeeping needs -/

/-- The lookup of a rollback is answered, or breaks with the very error of the step. -/
def LookupSurfaces (error : HttpError) (ch : flaky.Choice) : Prop :=
  ∀ message, ch = .error message → error = .queryFailed message

/-- The database answers the handler. Where an attempt is found, the save of the message is carried
out, and the row with the message fits its columns. -/
inductive HandlerAnswered (attemptId : String) (error : HttpError) (choices : Nat → flaky.Choice)
    (s : Store) : Prop
  | unknown (hread : (flaky.perform (.findAttempt attemptId) (choices 0) s).1 = .ok none)
      (hlookup : LookupSurfaces error (choices 1))
  | noted {a : RegistrationAttempt} {ch : Choice}
      (hread : (flaky.perform (.findAttempt attemptId) (choices 0) s).1 = .ok (some a))
      (hsave : choices 1 = .ok ch) (hdone : ch.fails = false)
      (hfits : ({ a with failureReason := some error.message } : RegistrationAttempt).fits = true)
      (hlookup : LookupSurfaces error (choices 2))

theorem flaky_find_cases (id : String) (ch : flaky.Choice) (s : Store) :
    (∃ e, flaky.perform (.findAttempt id) ch s = (.error e, s)) ∨
      flaky.perform (.findAttempt id) ch s = (.ok none, s) ∨
        ∃ a ∈ s.attempts, flaky.perform (.findAttempt id) ch s = (.ok (some a), s) := by
  have hstate : (flaky.perform (.findAttempt id) ch s).2 = s := flaky_find_state
  cases hread : (flaky.perform (.findAttempt id) ch s).1 with
  | error e => exact .inl ⟨e, Prod.ext hread hstate⟩
  | ok found =>
      cases (found : Option RegistrationAttempt) with
      | none => exact .inr (.inl (Prod.ext hread hstate))
      | some a => exact .inr (.inr ⟨a, (flaky_find hread).1, Prod.ext hread hstate⟩)

/-- A row that is stored already is saved if the database carries the save out and the row fits. -/
theorem flaky_save_iff {a a' : RegistrationAttempt} (ha : a ∈ s.attempts) (hid : a.id = a'.id)
    (ch : flaky.Choice) :
    (flaky.perform (.saveAttempt a') ch s).1 = .ok () ↔
      ∃ c, ch = .ok c ∧ c.fails = false ∧ a'.fits = true := by
  have hstored : ∃ t, s.attempts.save? a' = some t :=
    Sql.Table.exists_save? ha hid hid
  rcases hstored with ⟨t, ht⟩
  cases ch with
  | error message => simp
  | ok c =>
      have hperform : flaky.perform (.saveAttempt a') (.ok c) s = write c s (saveAttempt? s a') () :=
        rfl
      rw [hperform]
      cases hfits : a'.fits with
      | false => simp [saveAttempt?, hfits, write]
      | true =>
          cases hfails : c.fails with
          | false => simp [saveAttempt?, hfits, ht, write, hfails]
          | true => simp [saveAttempt?, hfits, ht, write, hfails]

theorem booked_broken {e : HttpError}
    (hread : flaky.perform (.findAttempt attemptId) (choices 0) s = (.error e, s)) :
    booked attemptId error choices s = ⟨.error e, [⟨.findAttempt attemptId, .error e⟩], s⟩ := by
  unfold booked bookkeeping
  rw [call_bind, exec_await, hread]
  rfl

theorem booked_unknown
    (hread : flaky.perform (.findAttempt attemptId) (choices 0) s = (.ok none, s)) :
    booked attemptId error choices s = ⟨.ok (), [⟨.findAttempt attemptId, .ok none⟩], s⟩ := by
  unfold booked bookkeeping
  rw [exec_call_bind hread]
  rfl

theorem booked_known {a : RegistrationAttempt}
    (hread : flaky.perform (.findAttempt attemptId) (choices 0) s = (.ok (some a), s)) :
    let save : Op := .saveAttempt { a with failureReason := some error.message }
    (booked attemptId error choices s).result = (flaky.perform save (choices 1) s).1 ∧
      (booked attemptId error choices s).awaited.length = 2 := by
  intro save
  have hrun : booked attemptId error choices s =
      ⟨(flaky.perform save (choices 1) s).1, [⟨.findAttempt attemptId, .ok (some a)⟩,
        ⟨save, (flaky.perform save (choices 1) s).1⟩], (flaky.perform save (choices 1) s).2⟩ := by
    have hsave := @exec_call sig HttpError flaky save (fun n => choices (n + 1)) s
    unfold booked bookkeeping
    rw [exec_call_bind hread]
    dsimp only
    rw [hsave]
  rw [hrun]
  exact ⟨rfl, rfl⟩

/-- A run that has thrown `error` in its `try` block, after the awaits `caught` and in state `s`, goes
on through the bookkeeping and the rollback, and ends with that error. -/
structure Compensated {α : Type} (attemptId : String) (atStep : RegistrationStep) (error : HttpError)
    (caught : Own) (choices : Nat → flaky.Choice) (s : Store)
    (run : Outcome sig HttpError Store α) : Prop where
  invoked : run.awaited = caught ++ ((booked attemptId error choices s).awaited ++
    (rolledBack attemptId atStep error choices s).awaited)
  state : run.state = (rolledBack attemptId atStep error choices s).state
  surfaced : run.result = .error error

/-- Where the bookkeeping is done, the error of the step is the answer unless the lookup of the
rollback breaks with another one. -/
theorem failed_booked_iff {n : Nat} (hbook : (booked attemptId error choices s).result = .ok ())
    (hlen : (booked attemptId error choices s).awaited.length = n) :
    Compensated attemptId atStep error [] choices s
        ((failed attemptId atStep error).exec flaky choices s) ↔
      LookupSurfaces error (choices n) := by
  -- The lookup of the rollback is the next call behind the booking.
  have hfirst : (fun m => choices (m + (booked attemptId error choices s).awaited.length)) 0 =
      choices n := by
    simp [hlen]
  have hrun := @exec_failed_booked attemptId atStep error s choices hbook
  have hinvoked : ((failed attemptId atStep error).exec flaky choices s).awaited =
      (booked attemptId error choices s).awaited ++
        (rolledBack attemptId atStep error choices s).awaited := by
    simp [hrun]
  have hstate : ((failed attemptId atStep error).exec flaky choices s).state =
      (rolledBack attemptId atStep error choices s).state := by
    simp [hrun]
  have hresult : ((failed attemptId atStep error).exec flaky choices s).result =
      ((rolledBack attemptId atStep error choices s).result >>= fun _ => .error error) := by
    simp [hrun]
  -- If the lookup throws, its message takes the place of the error.
  cases hlookup : choices n with
  | ok ch =>
      have hback : (rolledBack attemptId atStep error choices s).result = .ok () :=
        exec_rollback_answered (hfirst.trans hlookup)
      have hsurfaced : ((failed attemptId atStep error).exec flaky choices s).result =
          .error error := by
        rw [hresult, hback]
        rfl
      constructor
      · intro _ message hmessage
        cases hmessage
      · exact fun _ => ⟨hinvoked, hstate, hsurfaced⟩
  | error message =>
      have hback : (rolledBack attemptId atStep error choices s).result =
          .error (.queryFailed message) := exec_rollback_broken (hfirst.trans hlookup)
      have hthrown : ((failed attemptId atStep error).exec flaky choices s).result =
          .error (.queryFailed message) := by
        rw [hresult, hback]
        rfl
      constructor
      · intro h message' hmessage
        cases hmessage
        exact (Except.error.inj (hthrown.symm.trans h.surfaced)).symm
      · intro hsame
        exact ⟨hinvoked, hstate, hthrown.trans (congrArg Except.error (hsame message rfl).symm)⟩

/-- Where it is not done, there is no rollback. -/
theorem failed_notBooked {e : HttpError}
    (hbook : (booked attemptId error choices s).result = .error e) :
    ¬ Compensated attemptId atStep error [] choices s
      ((failed attemptId atStep error).exec flaky choices s) := by
  intro h
  have hinvoked := h.invoked
  rw [exec_failed_notBooked hbook, List.nil_append, List.self_eq_append_right] at hinvoked
  exact rollback_awaits hinvoked

theorem failed_compensated_iff (attemptId : String) (atStep : RegistrationStep) (error : HttpError)
    (choices : Nat → flaky.Choice) (s : Store) :
    Compensated attemptId atStep error [] choices s
        ((failed attemptId atStep error).exec flaky choices s) ↔
      HandlerAnswered attemptId error choices s := by
  rcases flaky_find_cases attemptId (choices 0) s with ⟨e, hread⟩ | hread | ⟨a, ha, hread⟩
  · -- The lookup of the bookkeeping is broken.
    have hfirst := congrArg Prod.fst hread
    constructor
    · exact fun h => absurd h (failed_notBooked (by rw [booked_broken hread]))
    · intro h
      cases h with
      | unknown hfound _ => cases hfound.symm.trans hfirst
      | noted hfound _ _ _ _ => cases hfound.symm.trans hfirst
  · -- There is no such attempt, and nothing to save.
    have hfirst := congrArg Prod.fst hread
    have hbook := @booked_unknown attemptId error s choices hread
    have hiff := @failed_booked_iff attemptId atStep error s choices 1 (by rw [hbook])
      (by rw [hbook]; rfl)
    constructor
    · exact fun h => .unknown hfirst (hiff.1 h)
    · intro h
      cases h with
      | unknown _ hlookup => exact hiff.2 hlookup
      | noted hfound _ _ _ _ => cases hfound.symm.trans hfirst
  · -- The attempt is read, and saved with the reason; then the lookup of the rollback follows.
    have hfirst := congrArg Prod.fst hread
    rcases @booked_known attemptId error s choices a hread with ⟨hresult, hlen⟩
    have hsave := @flaky_save_iff s a { a with failureReason := some error.message } ha rfl (choices 1)
    cases hdone : (booked attemptId error choices s).result with
    | ok u =>
        have hiff := @failed_booked_iff attemptId atStep error s choices 2 hdone hlen
        rcases hsave.1 (hresult.symm.trans hdone) with ⟨ch, hch, hfails, hfits⟩
        constructor
        · exact fun h => .noted hfirst hch hfails hfits (hiff.1 h)
        · intro h
          cases h with
          | unknown hfound _ => cases hfound.symm.trans hfirst
          | noted _ _ _ _ hlookup => exact hiff.2 hlookup
    | error e =>
        constructor
        · exact fun h => absurd h (failed_notBooked hdone)
        · intro h
          cases h with
          | unknown hfound _ => cases hfound.symm.trans hfirst
          | @noted a' ch hfound hch hfails hfits _ =>
              cases hfound.symm.trans hfirst
              have hok := hresult.trans (hsave.2 ⟨ch, hch, hfails, hfits⟩)
              rw [hdone] at hok
              cases hok

end Handler

/-! ## The requests -/

/-- `createCredentials` up to its `try` block. -/
def openCredentials (dto : CreateCredentialsDto) : Prog RegistrationAttempt := do
  let attempt ← findOne dto.attemptId
  requireCredentialsStep dto attempt
  markCredentialsSet dto attempt
  return attempt

/-- `registerDevice` up to its `try` block: the id of the attempt's Keycloak user. -/
def openDevice (dto : RegisterAttemptDeviceDto) : Prog String := do
  let attempt ← findOne dto.attemptId
  requireStep attempt KEYCLOAK_USER_CREATED
  match truthy? attempt.keycloakUserId with
  | none =>
      throw (.badRequest ("Attempt " ++ dto.attemptId ++
        " has no Keycloak user to link a device to"))
  | some keycloakUserId => return keycloakUserId

theorem createCredentials_eq (dto : CreateCredentialsDto) :
    createCredentials dto = openCredentials dto >>= fun attempt =>
      (provision dto attempt.mobileNumber).handle (failed dto.attemptId CREDENTIALS_SET) >>= fun _ =>
        advance dto.attemptId KEYCLOAK_USER_CREATED := by
  simp only [createCredentials, openCredentials, bind_assoc, pure_bind]

theorem registerDevice_eq (dto : RegisterAttemptDeviceDto) :
    registerDevice dto = openDevice dto >>= fun keycloakUserId =>
      (linkDevice dto keycloakUserId).handle (failed dto.attemptId DEVICE_REGISTERED) >>= fun _ =>
        advance dto.attemptId DEVICE_REGISTERED := by
  simp only [registerDevice, openDevice, bind_assoc]
  refine congrArg (findOne dto.attemptId >>= ·) (funext fun attempt => ?_)
  refine congrArg (requireStep attempt KEYCLOAK_USER_CREATED >>= ·) (funext fun _ => ?_)
  cases truthy? attempt.keycloakUserId with
  | none => rfl
  | some keycloakUserId => rfl

section Requests

variable {α : Type} {opening : Prog α} {body : α → Prog Unit} {rest : Prog RegistrationAttempt}
  {choices : Nat → flaky.Choice} {s s' : Store} {caught : Own} {error : HttpError}

/-- Run from `s`, the request gets to its `try` block, which throws `error` in `s'` when the request
has awaited `caught`. -/
def ThrowsInTry (opening : Prog α) (body : α → Prog Unit) (choices : Nat → flaky.Choice) (s : Store)
    (caught : Own) (s' : Store) (error : HttpError) : Prop :=
  ∃ a, let opened := opening.exec flaky choices s
    let tried := (body a).exec flaky (fun n => choices (n + opened.awaited.length)) opened.state
    opened.result = .ok a ∧ tried.result = .error error ∧
      caught = opened.awaited ++ tried.awaited ∧ s' = tried.state

/-- The handler never settles without an error. -/
theorem exec_failed_error (attemptId : String) (atStep : RegistrationStep) (error : HttpError)
    (choices : Nat → flaky.Choice) (s : Store) :
    ∃ e, ((failed attemptId atStep error).exec flaky choices s).result = .error e := by
  cases hbook : (booked attemptId error choices s).result with
  | error e => exact ⟨e, by rw [exec_failed_notBooked hbook]⟩
  | ok u =>
      have hrun := @exec_failed_booked attemptId atStep error s choices hbook
      cases hback : (rolledBack attemptId atStep error choices s).result with
      | ok u => exact ⟨error, by rw [hrun, hback]; rfl⟩
      | error e => exact ⟨e, by rw [hrun, hback]; rfl⟩

/-- So what it throws is the answer. -/
theorem exec_thrown {attemptId : String} {atStep : RegistrationStep}
    (h : ThrowsInTry opening body choices s caught s' error) :
    let handled := (failed attemptId atStep error).exec flaky
      (fun n => choices (n + caught.length)) s'
    ∃ e, handled.result = .error e ∧
      (opening >>= fun a => (body a).handle (failed attemptId atStep) >>= fun _ => rest).exec flaky
        choices s = ⟨.error e, caught ++ handled.awaited, handled.state⟩ := by
  intro handled
  rcases h with ⟨a, hopened, htried, hcaught, hstate⟩
  rcases exec_failed_error attemptId atStep error (fun n => choices (n + caught.length)) s' with
    ⟨e, he⟩
  have hhandle := exec_handle_error htried (f := failed attemptId atStep)
  -- The choices go on where the trace of the opening ends.
  have hshift : ∀ (own own' : Own),
      (fun n => choices (n + own'.length + own.length)) =
        fun n => choices (n + (own ++ own').length) := by
    intro own own'
    funext n
    rw [List.length_append, Nat.add_assoc, Nat.add_comm own'.length]
  dsimp only at hhandle
  rw [hshift, ← hcaught, ← hstate] at hhandle
  have hresult : (((body a).handle (failed attemptId atStep)).exec flaky
      (fun n => choices (n + (opening.exec flaky choices s).awaited.length))
      (opening.exec flaky choices s).state).result = .error e := by
    rw [hhandle]
    exact he
  have hrest := exec_bind_error hresult (f := fun _ => rest)
  rw [hhandle] at hrest
  have hawaited : caught ++ handled.awaited = (opening.exec flaky choices s).awaited ++
      (((body a).exec flaky (fun n => choices (n + (opening.exec flaky choices s).awaited.length))
        (opening.exec flaky choices s).state).awaited ++ handled.awaited) := by
    rw [hcaught, List.append_assoc]
  refine ⟨e, he, ?_⟩
  rw [exec_bind_ok hopened, hawaited]
  dsimp only
  rw [hrest]

/-- The request is compensated exactly if its handler is. -/
theorem thrown_compensated_iff {attemptId : String} {atStep : RegistrationStep}
    (h : ThrowsInTry opening body choices s caught s' error) :
    Compensated attemptId atStep error caught (fun n => choices (n + caught.length)) s'
        ((opening >>= fun a => (body a).handle (failed attemptId atStep) >>= fun _ => rest).exec flaky
          choices s) ↔
      HandlerAnswered attemptId error (fun n => choices (n + caught.length)) s' := by
  rcases @exec_thrown _ _ _ rest _ _ _ _ _ attemptId atStep h with ⟨e, he, hrun⟩
  rw [← failed_compensated_iff attemptId atStep, hrun]
  constructor
  · intro hcomp
    exact ⟨List.append_cancel_left hcomp.invoked, hcomp.state,
      he.trans (congrArg Except.error (Except.error.inj hcomp.surfaced))⟩
  · intro hcomp
    exact ⟨congrArg (caught ++ ·) hcomp.invoked, hcomp.state,
      congrArg Except.error (Except.error.inj (he.symm.trans hcomp.surfaced))⟩

/-- An error whose message its column cannot hold is never the answer where the attempt is still
found. -/
theorem tooLong_not_compensated {attemptId : String} {atStep : RegistrationStep}
    (h : ThrowsInTry opening body choices s caught s' error) (hlong : 500 < error.message.length)
    {a : RegistrationAttempt} (hfound : (flaky.perform (.findAttempt attemptId)
      (choices (0 + caught.length)) s').1 = .ok (some a)) :
    ¬ Compensated attemptId atStep error caught (fun n => choices (n + caught.length)) s'
      ((opening >>= fun a => (body a).handle (failed attemptId atStep) >>= fun _ => rest).exec flaky
        choices s) := by
  rw [thrown_compensated_iff h]
  intro hanswered
  cases hanswered with
  | unknown hread _ => cases hread.symm.trans hfound
  | noted hread _ _ hfits _ =>
      cases hread.symm.trans hfound
      simp [RegistrationAttempt.fits, Nat.not_le.2 hlong] at hfits

end Requests

/-- Whatever is thrown in the `try` block of `createCredentials` or `registerDevice`, from any state
and however the calls of the handler turn out: the rollback is invoked and the request throws that
very error exactly if the database answers the handler. -/
theorem failing_step_surfaces_iff (choices : Nat → flaky.Choice) (s s' : Store) (caught : Own)
    (error : HttpError) :
    (∀ dto, ThrowsInTry (openCredentials dto) (fun attempt => provision dto attempt.mobileNumber)
        choices s caught s' error →
      (Compensated dto.attemptId CREDENTIALS_SET error caught (fun n => choices (n + caught.length))
          s' ((createCredentials dto).exec flaky choices s) ↔
        HandlerAnswered dto.attemptId error (fun n => choices (n + caught.length)) s')) ∧
    ∀ dto, ThrowsInTry (openDevice dto) (linkDevice dto) choices s caught s' error →
      (Compensated dto.attemptId DEVICE_REGISTERED error caught (fun n => choices (n + caught.length))
          s' ((registerDevice dto).exec flaky choices s) ↔
        HandlerAnswered dto.attemptId error (fun n => choices (n + caught.length)) s') := by
  constructor
  · intro dto hthrows
    rw [createCredentials_eq]
    exact thrown_compensated_iff hthrows
  · intro dto hthrows
    rw [registerDevice_eq]
    exact thrown_compensated_iff hthrows

/-- A first `createCredentials` whose call for a token fails, and what the database does after that. -/
def failsToken (handler : Nat → flaky.Choice) : Nat → flaky.Choice
  | 0 | 1 | 2 => .ok (.smooth "user-1")
  | 3 => .ok (.failing "503 Service Unavailable")
  | n + 4 => handler n

/-- Its part before the `try` block, which moves the attempt. -/
def tokenOpened (handler : Nat → flaky.Choice) : Outcome sig HttpError Store RegistrationAttempt :=
  (openCredentials ⟨"attempt-1", "secret"⟩).exec flaky (failsToken handler) (registeredUpTo 9)

def tokenTried (handler : Nat → flaky.Choice) : Outcome sig HttpError Store Unit :=
  (provision ⟨"attempt-1", "secret"⟩ "9876543210").exec flaky
    (fun n => failsToken handler (n + (tokenOpened handler).awaited.length))
    (tokenOpened handler).state

def tokenCaught (handler : Nat → flaky.Choice) : Own :=
  (tokenOpened handler).awaited ++ (tokenTried handler).awaited

def answering : Nat → flaky.Choice :=
  fun _ => .ok (.smooth "user-1")

theorem failing_step_surfaces_iff_answering :
    Compensated "attempt-1" CREDENTIALS_SET (.httpFailed "503 Service Unavailable")
        (tokenCaught answering) (fun n => failsToken answering (n + (tokenCaught answering).length))
        (tokenTried answering).state
        ((createCredentials ⟨"attempt-1", "secret"⟩).exec flaky (failsToken answering)
          (registeredUpTo 9)) ↔
      HandlerAnswered "attempt-1" (.httpFailed "503 Service Unavailable")
        (fun n => failsToken answering (n + (tokenCaught answering).length))
        (tokenTried answering).state :=
  (failing_step_surfaces_iff (failsToken answering) (registeredUpTo 9) (tokenTried answering).state
    (tokenCaught answering) (.httpFailed "503 Service Unavailable")).1 ⟨"attempt-1", "secret"⟩
    ⟨attemptAt .OTP_VERIFIED none none, by decide, by decide, rfl, rfl⟩

/-- The connection to the database breaks. -/
def disconnected : Nat → flaky.Choice :=
  fun _ => .error "Connection terminated"

/-- The lookup of the bookkeeping breaks: there is no rollback, and its error is the answer. -/
theorem disconnected_masked :
    ThrowsInTry (openCredentials ⟨"attempt-1", "secret"⟩)
        (fun attempt => provision ⟨"attempt-1", "secret"⟩ attempt.mobileNumber)
        (failsToken disconnected) (registeredUpTo 9) (tokenCaught disconnected)
        (tokenTried disconnected).state (.httpFailed "503 Service Unavailable") ∧
      ((createCredentials ⟨"attempt-1", "secret"⟩).exec flaky (failsToken disconnected)
        (registeredUpTo 9)).result = .error (.queryFailed "Connection terminated") ∧
      ¬ Compensated "attempt-1" CREDENTIALS_SET (.httpFailed "503 Service Unavailable")
        (tokenCaught disconnected)
        (fun n => failsToken disconnected (n + (tokenCaught disconnected).length))
        (tokenTried disconnected).state
        ((createCredentials ⟨"attempt-1", "secret"⟩).exec flaky (failsToken disconnected)
          (registeredUpTo 9)) := by
  have hresult : ((createCredentials ⟨"attempt-1", "secret"⟩).exec flaky (failsToken disconnected)
      (registeredUpTo 9)).result = .error (.queryFailed "Connection terminated") := by
    decide
  refine ⟨⟨attemptAt .OTP_VERIFIED none none, by decide, by decide, rfl, rfl⟩, hresult, fun h => ?_⟩
  cases hresult.symm.trans h.surfaced

end Auth
end IdentityBillpay
