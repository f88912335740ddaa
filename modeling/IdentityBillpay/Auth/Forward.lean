import IdentityBillpay.Auth.Service

/-!
# Forward — the saga moves one step at a time

Every write to an attempt saves a whole row that the request has read just before: one step further,
or with one more id, or with the reason of a failure. What it puts back of the other columns is what
it has read. So the saga goes forward as long as no save puts back a step, or a missing user, that
another request has replaced meanwhile.

* `Forward` — what may happen to the attempts from one stored state to the next;
* `SavesCurrent` — the condition on one event;
* `saga_moves_forward` — the law; `stale_copy_moves_back` — a run that breaks it.
-/

namespace IdentityBillpay
namespace Auth

open Async Keycloak

variable {config : OtpConfig}

/-! ## Moving forward -/

/-- `step'` comes right after `step` in `STEP_ORDER`. -/
def NextStep (step step' : String) : Prop :=
  0 ≤ indexOf step ∧ indexOf step' = indexOf step + 1

instance (step step' : String) : Decidable (NextStep step step') :=
  inferInstanceAs (Decidable (_ ∧ _))

/-- From one stored row of an attempt to the next: the step stays or is the next one, and a user
that is set does not become `null`. -/
def RegistrationAttempt.Onward (a a' : RegistrationAttempt) : Prop :=
  (a'.currentStep = a.currentStep ∨ NextStep a.currentStep a'.currentStep) ∧
    (a.keycloakUserId ≠ none → a'.keycloakUserId ≠ none)

instance (a a' : RegistrationAttempt) : Decidable (a.Onward a') :=
  inferInstanceAs (Decidable ((_ ∨ _) ∧ (_ → _)))

theorem RegistrationAttempt.Onward.refl (a : RegistrationAttempt) : a.Onward a :=
  ⟨.inl rfl, fun hset => hset⟩

/-- Every stored attempt stays stored, and goes onward. -/
def Forward (s s' : Store) : Prop :=
  ∀ a ∈ s.attempts, ∃ a' ∈ s'.attempts, a'.id = a.id ∧ a.Onward a'

instance (s s' : Store) : Decidable (Forward s s') :=
  inferInstanceAs (Decidable (∀ a ∈ s.attempts, ∃ a' ∈ s'.attempts, _))

theorem Forward.of_kept {s s' : Store} (h : ∀ a ∈ s.attempts, a ∈ s'.attempts) : Forward s s' :=
  fun a ha => ⟨a, h a ha, rfl, .refl a⟩

/-! ## The condition -/

/-- A request saves an attempt only while the stored row has the step that the request has read
last, and no user that it has not seen. -/
def SavesCurrent (h : History (service config)) (e : Event sig HttpError) : Prop :=
  ∀ saved ∈ savedAttempt? e.toAwaited, ∀ read ∈ lastRead? (h.own e.who),
    ∀ stored ∈ h.state.attempts, stored.id = saved.id → stored.currentStep = read.currentStep ∧
      (stored.keycloakUserId ≠ none → read.keycloakUserId ≠ none)

instance (h : History (service config)) (e : Event sig HttpError) : Decidable (SavesCurrent h e) :=
  inferInstanceAs (Decidable (∀ saved ∈ savedAttempt? e.toAwaited, ∀ read ∈ lastRead? (h.own e.who),
    ∀ stored ∈ h.state.attempts, _))

/-! ## The law -/

/-- A request saves a row that is onward from the one it has read. -/
theorem RegistrationAttempt.Changes.onward {a a' : RegistrationAttempt} (h : a.Changes a') :
    a.Onward a' := by
  cases h with
  | @step toStep hnext hne =>
      refine ⟨.inr ⟨?_, hnext⟩, fun hset => hset⟩
      -- `INIT` is the only step that comes right after a text that is no step.
      have hfirst : indexOf toStep.text ≠ 0 := fun hzero => hne (indexOf_eq_zero.1 hzero)
      have hpos : 0 ≤ indexOf toStep.text := by cases toStep <;> decide
      omega
  | user userId => exact ⟨.inl rfl, fun _ => by simp⟩
  | device deviceId => exact ⟨.inl rfl, fun hset => hset⟩
  | reason message => exact ⟨.inl rfl, fun hset => hset⟩

theorem forward_perform {h : History (service config)} {i : Nat} {r : Request} {op : Op}
    {ch : Choice} (hop : Awaits config r (h.own i) op)
    (hC : SavesCurrent h ⟨⟨op, ((service config).perform op ch h.state).1⟩, i⟩) :
    Forward h.state (h.perform i op ch).state := by
  rcases perform_attempts_cases op ch h.state with
    hsame | ⟨new, rfl, _, _, hmem⟩ | ⟨saved, rfl, hdone, hmem⟩ | ⟨id, rfl, hmem⟩
  · refine .of_kept fun a ha => ?_
    rw [History.perform_state, service_perform, hsame]
    exact ha
  · exact .of_kept fun a ha => (hmem a).2 (.inl ha)
  · intro a ha
    by_cases hid : a.id = saved.id
    · rcases awaits_saveAttempt hop with ⟨before, id, read, hown, hchange, _⟩
      have hread : lastRead? (h.own i) = some read := by
        rw [hown]
        exact lastRead?_concat before id read
      have hcurrent := hC saved (savedAttempt?_ok hdone) read hread a ha hid
      have honward := hchange.onward
      refine ⟨saved, (hmem saved).2 (.inl rfl), hid.symm, ?_, ?_⟩
      · rw [hcurrent.1]
        exact honward.1
      · exact fun hset => honward.2 (hcurrent.2 hset)
    · exact ⟨a, (hmem a).2 (.inr ⟨ha, hid⟩), rfl, .refl a⟩
  · intro a ha
    refine ⟨_, (hmem _).2 ⟨a, ha, rfl⟩, ?_⟩
    split
    · exact ⟨rfl, .inl rfl, fun hset => hset⟩
    · exact ⟨rfl, .refl a⟩

/-- The saga only moves forward. In a run in which no request saves a copy that is behind the stored
row, every attempt goes onward from each stored state to the next. -/
theorem saga_moves_forward (config : OtpConfig) (s : Store) (as : List (Action (service config)))
    (hC : Config.Meets SavesCurrent (Config.initial (service config) s) as) :
    ((Config.initial (service config) s).states as).IsChain Forward := by
  refine Config.states_isChain (I := fun _ => True) (C := SavesCurrent) (follows_program config)
    (fun _ _ _ _ => trivial) ?_ (fun s => Forward.of_kept fun a ha => ha) trivial
    (Config.poolEnds_initial s) (Config.attributed_initial s) hC
  exact fun h i r op ch _ _ _ hop hC => ⟨trivial, forward_perform hop hC⟩

/-- An attempt whose user is still to be created. -/
def unprovisionedStore : Store :=
  sampleStore [attemptAt .CREDENTIALS_SET none none] [] [] []

def createCredentialsRequest : Request :=
  .createCredentials ⟨"attempt-1", "secret"⟩

/-- One `createCredentials`, from its start to its end. -/
def soloCreate : List (Action (service sampleConfig)) :=
  .start createCredentialsRequest :: List.replicate 11 (.resume 0 (.smooth "user-1"))

theorem saga_moves_forward_soloCreate :
    ((Config.initial (service sampleConfig) unprovisionedStore).states soloCreate).IsChain Forward :=
  saga_moves_forward sampleConfig unprovisionedStore soloCreate (by decide)

/-- Two requests to create the user. The second finds its username taken, and reads the attempt in
order to note the failure before the first saves it; it writes its copy back when the first is
done. -/
def overlappingCreates : List (Action (service sampleConfig)) :=
  [.start createCredentialsRequest, .start createCredentialsRequest] ++
  List.replicate 2 (.resume 1 (.smooth "")) ++
  List.replicate 3 (.resume 0 (.smooth "user-1")) ++
  List.replicate 2 (.resume 1 (.smooth "user-2")) ++
  List.replicate 8 (.resume 0 (.smooth "")) ++
  [.resume 1 (.smooth "")]

/-- The attempt falls back from `KEYCLOAK_USER_CREATED` to `CREDENTIALS_SET`, and loses its user. -/
theorem stale_copy_moves_back :
    ((Config.initial (service sampleConfig) unprovisionedStore).run
      (overlappingCreates.dropLast)).state.attempts.rows =
        [attemptAt .KEYCLOAK_USER_CREATED (some "user-1") none] ∧
    ((Config.initial (service sampleConfig) unprovisionedStore).run
      overlappingCreates).state.attempts.rows =
        [{ attemptAt .CREDENTIALS_SET none none with
            failureReason := some "User exists with same username" }] ∧
    ¬ ((Config.initial (service sampleConfig) unprovisionedStore).states
      overlappingCreates).IsChain Forward := by
  decide

end Auth
end IdentityBillpay
