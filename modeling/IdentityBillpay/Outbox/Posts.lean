import IdentityBillpay.Outbox.AuditClient
import IdentityBillpay.Outbox.LifeCycle

/-!
# Posts — what the Audit service is sent for a row

* `SentRelayed` — a row that is `SENT` has been relayed, in every run of the job;
* `Started`, `Posting` — what the actions of the breaker are about, and what they do;
* `sent_rows_posted` — overlapping ticks: what is on the wire for a row that is `SENT`;
* `posts_bounded` — ticks that do not overlap: how often a row is posted at most.
-/

namespace IdentityBillpay
namespace Outbox

open Async Async.Program Keycloak
open AuditOutboxRelayJob (relayRow relayAll)

/-! ## The outbox -/

/-- Rows that are `SENT` have been relayed as they are. -/
def SentRelayed (s : Store) : Prop :=
  ∀ row ∈ s.rows, row.status = .SENT → row.relay true ∈ s.relays

/-- A tick saves `SENT` behind a call for the row that has been answered. -/
def SavesSent (own : Own) (op : Op) : Prop :=
  ∀ entity, op = .save entity → entity.status = .SENT →
    own.getLast? = some ⟨.relay entity.id entity.eventType entity.payload, .ok ()⟩

theorem follows_relayRow_sent (own : Own) (row : AuditOutbox) :
    Follows SavesSent (fun _ _ => True) own (relayRow row) := by
  refine Follows.orElse (follows_call_bind ?_ (fun _ => trivial) fun u => ?_) fun own e => ?_
  · intro entity hsave
    cases hsave
  · refine ⟨?_, fun r => follows_settled.2 trivial⟩
    intro entity hsave _
    cases hsave
    exact List.getLast?_concat
  · refine ⟨?_, fun r => follows_settled.2 trivial⟩
    intro entity hsave hsent
    cases hsave
    by_cases hlast : row.attempts + 1 ≥ MAX_RELAY_ATTEMPTS
    · simp [failedAttempt, hlast] at hsent
    · simp [failedAttempt, hlast] at hsent

theorem follows_handle_sent :
    Follows SavesSent (fun _ _ => True) [] AuditOutboxRelayJob.handle := by
  have hall : ∀ (rows : List AuditOutbox) (own : Own),
      Follows SavesSent (fun _ _ => True) own (relayAll rows) := by
    intro rows
    induction rows with
    | nil => exact fun own => trivial
    | cons row rows ih =>
        exact fun own => (follows_relayRow_sent own row).andThen fun own _ => ih own
  rw [AuditOutboxRelayJob.handle_eq]
  refine follows_call_bind ?_ (fun _ => trivial) fun pending => hall pending _
  intro entity hsave
  cases hsave

theorem sentRelayed_arrive {s : Store} (h : SentRelayed s) (arrivals : List NewOutbox) :
    SentRelayed (arrive s arrivals) := by
  intro row hrow hsent
  rw [arrive_relays]
  rcases mem_arrive hrow with hold | ⟨new, _, rfl, _⟩
  · exact h row hold hsent
  · cases hsent

theorem sentRelayed_perform {s : Store} (h : SentRelayed s) {op : Op} {ch : Choice}
    (hsave : ∀ entity, op = .save entity → entity.status = .SENT →
      entity.relay true ∈ s.relays) : SentRelayed (perform op ch s).2 := by
  have harrive : SentRelayed (arrive s ch.arrivals) := sentRelayed_arrive h ch.arrivals
  cases op with
  | findPending =>
      rw [findPending_state]
      exact harrive
  | relay rowId eventType payload =>
      rw [relay_state]
      intro row hrow hsent
      have hold := harrive row hrow hsent
      rw [arrive_relays] at hold
      exact List.mem_append_left _ hold
  | save entity =>
      cases hp : perform (.save entity) ch s with
      | mk res s' =>
          cases res with
          | error e =>
              rw [save_error hp]
              exact harrive
          | ok u =>
              rcases save_ok hp with ⟨hrelays, hrows⟩
              intro row hrow hsent
              rw [hrelays]
              rcases (hrows row).1 hrow with rfl | ⟨hold, _⟩
              · exact hsave row rfl hsent
              · have hmem := harrive row hold hsent
                rwa [arrive_relays] at hmem

/-- A call that was answered is in the record of calls. -/
def Recorded (h : History service) : Prop :=
  ∀ i rowId eventType payload,
    (⟨.relay rowId eventType payload, .ok ()⟩ : Awaited sig HttpError) ∈ h.own i →
      ⟨rowId, eventType, payload, true⟩ ∈ h.state.relays

theorem relays_perform (op : Op) (ch : Choice) (s : Store) {r : Relay} (h : r ∈ s.relays) :
    r ∈ (perform op ch s).2.relays := by
  cases op with
  | findPending =>
      rw [findPending_state, arrive_relays]
      exact h
  | relay rowId eventType payload =>
      rw [relay_state]
      exact List.mem_append_left _ h
  | save entity =>
      cases hp : perform (.save entity) ch s with
      | mk res s' =>
          cases res with
          | error e =>
              rw [save_error hp, arrive_relays]
              exact h
          | ok u =>
              rw [(save_ok hp).1]
              exact h

theorem recorded_perform {h : History service} (hr : Recorded h) (i : Nat) (op : Op)
    (ch : Choice) : Recorded (h.perform i op ch) := by
  intro j rowId eventType payload hmem
  rcases History.mem_perform.1 (History.mem_own.1 hmem) with hold | ⟨_, hop, hres⟩
  · exact relays_perform op ch h.state (hr j rowId eventType payload (History.mem_own.2 hold))
  · -- The call of this step.
    subst hop
    have hanswered := congrArg Except.isOk hres
    rw [show service.perform = perform from rfl, relay_delivered] at hanswered
    have hfails : ch.relayFails = false := by simpa [Except.isOk, Except.toBool] using hanswered
    rw [History.perform_state, show service.perform = perform from rfl, relay_state, hfails]
    exact List.mem_append_right _ (List.mem_singleton_self _)

theorem sentRelayed_run {s : Store} (h : SentRelayed s) (as : List (Action service)) :
    SentRelayed ((Config.initial service s).run as).state := by
  have hrun := Config.run_induction (V := service) (P := fun _ => SavesSent)
    (Q := fun _ _ _ => True) (C := fun _ _ => True)
    (I := fun h => SentRelayed h.state ∧ Recorded h) (fun _ => follows_handle_sent)
    (fun h r _ hI => hI) ?_ ⟨h, ?_⟩ as (Config.meets_trivial _ as)
  · exact hrun.1
  · intro h i r op ch _ hI _ hP _
    refine ⟨sentRelayed_perform hI.1 fun entity hsave hsent => ?_, recorded_perform hI.2 i op ch⟩
    exact hI.2 i _ _ _ (List.mem_of_getLast? (hP entity hsave hsent))
  · intro i rowId eventType payload hmem
    cases hmem

/-! ## The actions of the breaker -/

/-- The events of an action: it posts, and pauses behind a post that has failed. -/
abbrev Posting (post : Post) (own : List (Awaited httpSig String)) : Prop :=
  Retried (HttpOp.post post) backoff DEFAULT_OPTIONS.retries own

theorem backoff_ne (post : Post) (attempt : Nat) : backoff attempt ≠ .post post := by
  intro hsame
  cases hsame

theorem follows_fired (post : Post) :
    Follows (Next (HttpOp.post post) backoff DEFAULT_OPTIONS.retries)
      (Ends (HttpOp.post post) backoff DEFAULT_OPTIONS.retries) [] (fired.program post) :=
  follows_attempts .zero rfl

/-- Every action posts what it was started with, as often as it may. -/
theorem posting_run (as : List (Action fired)) {n : Nat} {post : Post}
    (h : ((Config.initial fired ()).run as).requests[n]? = some post) :
    Posting post (((Config.initial fired ()).run as).own n) := by
  have hrun := Config.run_induction (V := fired) (C := fun _ _ => True)
    (I := fun h => ∀ n post, h.requests[n]? = some post → Posting post (h.own n))
    follows_fired ?_ ?_ (s := ()) ?_ as (Config.meets_trivial _ as)
  · exact hrun n post h
  · intro h post' ha hI n post hn
    rcases History.start_requests_cases hn with hold | ⟨rfl, rfl⟩
    · exact hI n post hold
    · have hnil : (h.start post).own h.requests.length = [] := ha.own_eq_nil (Nat.le_refl _)
      rw [hnil]
      exact .paused .zero (Nat.zero_le _)
  · intro h i post' op ch _ hI hi hP _ n post hn
    by_cases hni : n = i
    · subst hni
      rw [History.perform_requests, hi] at hn
      cases hn
      rw [History.perform_own_self]
      exact hP.retried _
    · rw [History.perform_own_ne _ _ _ hni]
      exact hI n post hn
  · intro n post hn
    cases hn

/-- An action that has been fulfilled has been answered. -/
theorem answered_run {as : List (Action fired)} {n : Nat} {post : Post}
    (h : ((Config.initial fired ()).run as).requests[n]? = some post)
    (hdone : ((Config.initial fired ()).run as).pool[n]? = some (.resolve ())) :
    (⟨.post post, .ok ()⟩ : Awaited httpSig String) ∈
      ((Config.initial fired ()).run as).own n := by
  have hends := (Config.run_follows follows_fired () as).1.2 n post _ h hdone
  generalize ((Config.initial fired ()).run as).own n = own at hends
  cases hends with
  | answered => exact List.mem_append_right _ (List.mem_singleton_self _)

/-! ## One operation of the job -/

section Operations

variable {s : Wire} {op : WireOp} {ch : WireChoice}

theorem proceed_run (s : Wire) (progress : List (Nat × Option String)) :
    ∃ as, (s.proceed progress).breaker = s.breaker.run as :=
  ⟨_, rfl⟩

/-- Moving on starts nothing. -/
theorem proceed_requests (s : Wire) (progress : List (Nat × Option String)) :
    (s.proceed progress).breaker.requests = s.breaker.requests := by
  induction progress generalizing s with
  | nil => rfl
  | cons p progress ih =>
      have hfirst : (s.breaker.next (.resume p.1 p.2)).requests = s.breaker.requests := by
        rcases Config.next_resume_cases s.breaker p.1 p.2 with ⟨hsame, _⟩ | ⟨o, k, _, _, hnext⟩
        · rw [hsame]
        · rw [hnext]
          rfl
      exact (ih { s with breaker := s.breaker.next (.resume p.1 p.2) }).trans hfirst

theorem performWire_auditServiceUrl :
    (performWire op ch s).2.auditServiceUrl = s.auditServiceUrl := by
  cases op with
  | findPending => rfl
  | auditServiceUrl rowId eventType payload =>
      rw [performWire]
      split
      · rfl
      · rfl
  | fire post =>
      rw [performWire]
      split
      · rfl
      · rfl
  | outcome action post =>
      simp only [performWire, Wire.settle]
      split
      · rfl
      · rfl
  | save entity => rfl

/-- Actions move on, and at most one is started. -/
theorem performWire_breaker (op : WireOp) (ch : WireChoice) (s : Wire) :
    (∃ as, (performWire op ch s).2.breaker = s.breaker.run as) ∧
    ((performWire op ch s).2.breaker.requests = s.breaker.requests ∨
      ∃ post, op = .fire post ∧ ch.opened = false ∧
        (performWire op ch s).2.breaker.requests = s.breaker.requests ++ [post]) := by
  cases op with
  | findPending => exact ⟨proceed_run s _, .inl (proceed_requests s _)⟩
  | auditServiceUrl rowId eventType payload =>
      have hsame : (performWire (.auditServiceUrl rowId eventType payload) ch s).2.breaker =
          s.breaker := by
        rw [performWire]
        split
        · rfl
        · rfl
      exact ⟨⟨[], hsame⟩, .inl (congrArg (fun c => c.requests) hsame)⟩
  | fire post =>
      cases hopened : ch.opened with
      | true =>
          have hsame : (performWire (.fire post) ch s).2.breaker = s.breaker := by
            simp [performWire, hopened, Wire.ended]
          exact ⟨⟨[], hsame⟩, .inl (congrArg (fun c => c.requests) hsame)⟩
      | false =>
          have hnext : (performWire (.fire post) ch s).2.breaker =
              s.breaker.next (.start post) := by
            simp [performWire, hopened]
          exact ⟨⟨[.start post], hnext⟩, .inr ⟨post, rfl, rfl, by rw [hnext]; rfl⟩⟩
  | outcome action post =>
      have hsame : (performWire (.outcome action post) ch s).2.breaker =
          (s.proceed ch.progress).breaker := by
        simp only [performWire, Wire.settle]
        split
        · rfl
        · rfl
      rw [hsame]
      exact ⟨proceed_run s _, .inl (proceed_requests s _)⟩
  | save entity => exact ⟨proceed_run s _, .inl (proceed_requests s _)⟩

/-- The promise of an action is not rejected where it has been fulfilled. -/
theorem rejection?_none {action : Nat} (h : s.rejection? action = none) :
    s.breaker.pool[action]? = some (.resolve ()) := by
  rw [Wire.rejection?] at h
  split at h
  · assumption
  · cases h
  · cases h

theorem save_relays (ch : Choice) (s : Store) (entity : AuditOutbox) :
    (perform (.save entity) ch s).2.relays = s.relays := by
  cases hp : perform (.save entity) ch s with
  | mk res s' =>
      cases res with
      | ok u => exact (save_ok hp).1
      | error e => rw [save_error hp, arrive_relays]

/-- A call that has waited for an action is over, one way or the other. -/
theorem outcome_relays (action : Nat) (post : Post) (ch : WireChoice) (s : Wire) :
    ∃ delivered, (performWire (.outcome action post) ch s).2.relays =
      s.relays ++ [⟨post.rowId, post.eventType, post.payload, delivered⟩] := by
  have hended : ∀ (s' : Wire) (rejection? : Option String), ∃ delivered,
      (s'.settle post rejection?).2.relays =
        s'.relays ++ [⟨post.rowId, post.eventType, post.payload, delivered⟩] := by
    intro s' rejection?
    cases rejection? with
    | none => exact ⟨true, rfl⟩
    | some message => exact ⟨false, rfl⟩
  rcases hended { s.proceed ch.progress with toStore := arrive s.toStore ch.arrivals } _ with
    ⟨delivered, hrelays⟩
  refine ⟨delivered, hrelays.trans ?_⟩
  rw [arrive_relays]

/-- A call that is recorded as delivered is one whose action has been fulfilled. -/
theorem performWire_relays {r : Relay} (h : r ∈ (performWire op ch s).2.relays)
    (hdelivered : r.delivered = true) :
    r ∈ s.relays ∨ ∃ action post, op = .outcome action post ∧
      r = ⟨post.rowId, post.eventType, post.payload, true⟩ ∧
      (performWire op ch s).2.breaker.pool[action]? = some (.resolve ()) := by
  have hended : ∀ {s' : Wire} {rowId eventType payload : String},
      r ∈ (s'.ended rowId eventType payload false).relays → r ∈ s'.relays := by
    intro s' rowId eventType payload hmem
    rcases List.mem_append.1 hmem with hold | hnew
    · exact hold
    · rw [List.mem_singleton.1 hnew] at hdelivered
      cases hdelivered
  cases op with
  | findPending =>
      refine .inl ?_
      rw [performWire] at h
      simp only [findPending_state, arrive_relays] at h
      exact h
  | auditServiceUrl rowId eventType payload =>
      refine .inl ?_
      rw [performWire] at h
      dsimp only at h
      split at h
      · exact hended h
      · exact h
  | fire post =>
      refine .inl ?_
      rw [performWire] at h
      split at h
      · exact hended h
      · exact h
  | outcome action post =>
      let waited : Wire := { s.proceed ch.progress with toStore := arrive s.toStore ch.arrivals }
      have hop : performWire (.outcome action post) ch s =
          waited.settle post (waited.rejection? action) := rfl
      have hwaited : waited.relays = s.relays := arrive_relays s.toStore ch.arrivals
      cases hrejection : waited.rejection? action with
      | some message =>
          rw [hop, hrejection] at h
          exact .inl (hwaited ▸ hended h)
      | none =>
          rw [hop, hrejection] at h ⊢
          rcases List.mem_append.1 h with hold | hnew
          · exact .inl (hwaited ▸ hold)
          · exact .inr ⟨action, post, rfl, List.mem_singleton.1 hnew, rejection?_none hrejection⟩
  | save entity =>
      refine .inl ?_
      rw [← save_relays ch.toChoice s.toStore entity]
      exact h

end Operations

/-! ## The client -/

/-- What the client awaits: it fires at the URL that it has read, and waits for what it fired. -/
inductive Asks (own : List (Awaited wireSig HttpError)) : WireOp → Prop
  | findPending : Asks own .findPending
  | auditServiceUrl (rowId eventType payload : String) :
      Asks own (.auditServiceUrl rowId eventType payload)
  | fire {rowId eventType payload : String} {baseUrl : Option String}
      (h : own.getLast? = some ⟨.auditServiceUrl rowId eventType payload, .ok baseUrl⟩)
      (hset : unset baseUrl = false) :
      Asks own (.fire ⟨rowId, baseUrl.getD "" ++ "/events", eventType, payload⟩)
  | outcome {action : Nat} {post : Post} (h : own.getLast? = some ⟨.fire post, .ok action⟩) :
      Asks own (.outcome action post)
  | save (entity : AuditOutbox) : Asks own (.save entity)

theorem follows_impl (op : Op) (own : List (Awaited wireSig HttpError)) :
    Follows Asks (fun _ _ => True) own (impl op) := by
  cases op with
  | findPending => exact ⟨.findPending, fun r => follows_settled.2 trivial⟩
  | save entity => exact ⟨.save entity, fun r => follows_settled.2 trivial⟩
  | relay rowId eventType payload =>
      refine follows_call_bind (.auditServiceUrl _ _ _) (fun _ => trivial) fun baseUrl => ?_
      by_cases hunset : unset baseUrl = true
      · rw [if_pos hunset]
        trivial
      · rw [if_neg hunset]
        have hset : unset baseUrl = false := by simpa using hunset
        refine follows_call_bind (.fire List.getLast?_concat hset) (fun _ => trivial)
          fun action => ?_
        exact ⟨.outcome List.getLast?_concat, fun r => follows_settled.2 trivial⟩

/-- The post that a row is sent by. -/
def AuditOutbox.post (row : AuditOutbox) (baseUrl : String) : Post :=
  ⟨row.id, baseUrl ++ "/events", row.eventType, row.payload⟩

def Relay.post (r : Relay) (baseUrl : String) : Post :=
  ⟨r.rowId, baseUrl ++ "/events", r.eventType, r.payload⟩

/-- The Audit service has answered a post of the action. -/
def Answered (c : Config fired) (action : Nat) (post : Post) : Prop :=
  c.requests[action]? = some post ∧
    (⟨.post post, .ok ()⟩ : Awaited httpSig String) ∈ c.own action

theorem Answered.grows {c c' : Config fired} {action : Nat} {post : Post}
    (h : Answered c action post) (hg : c.toHistory.Grows c'.toHistory) :
    Answered c' action post :=
  ⟨hg.requests _ _ h.1, (hg.own action).subset h.2⟩

/-- The ticks and the actions agree about what has been fired. -/
structure Fires (baseUrl : Option String) (h : History wired) : Prop where
  breaker : ∃ as, h.state.breaker = (Config.initial fired ()).run as
  url : h.state.auditServiceUrl = baseUrl
  read : ∀ i rowId eventType payload url,
    (⟨.auditServiceUrl rowId eventType payload, .ok url⟩ : Awaited wireSig HttpError) ∈ h.own i →
      url = baseUrl
  known : ∀ i action post,
    (⟨.fire post, .ok action⟩ : Awaited wireSig HttpError) ∈ h.own i →
      h.state.breaker.requests[action]? = some post
  posts : ∀ post ∈ h.state.breaker.requests,
    unset baseUrl = false ∧ post.url = baseUrl.getD "" ++ "/events"
  delivered : ∀ r ∈ h.state.relays, r.delivered = true →
    ∃ action, Answered h.state.breaker action (r.post (baseUrl.getD ""))

section Fires

variable {baseUrl : Option String} {h : History wired} {i : Nat} {op : WireOp} {ch : WireChoice}

theorem Fires.reached (hI : Fires baseUrl h) (op : WireOp) (ch : WireChoice) :
    ∃ as, (performWire op ch h.state).2.breaker = (Config.initial fired ()).run as := by
  rcases hI.breaker with ⟨as, has⟩
  rcases (performWire_breaker op ch h.state).1 with ⟨more, hmore⟩
  exact ⟨as ++ more, by rw [hmore, has, Config.run_append]⟩

theorem grows_performWire (op : WireOp) (ch : WireChoice) (h : History wired) :
    h.state.breaker.toHistory.Grows
      (performWire op ch h.state).2.breaker.toHistory := by
  rcases (performWire_breaker op ch h.state).1 with ⟨more, hmore⟩
  rw [hmore]
  exact Config.grows_run _ more

/-- The number of a new action is the place of its post. -/
theorem Fires.started (hI : Fires baseUrl h) {post : Post} {action : Nat}
    (hres : (performWire (.fire post) ch h.state).1 = .ok action) :
    (performWire (.fire post) ch h.state).2.breaker.requests[action]? = some post := by
  cases hopened : ch.opened with
  | true => simp [performWire, hopened] at hres
  | false =>
      rcases hI.breaker with ⟨as, has⟩
      have hlength : h.state.breaker.pool.length = h.state.breaker.requests.length := by
        rw [has]
        exact (Config.run_follows follows_fired () as).1.1
      have haction : h.state.breaker.pool.length = action := by
        simpa [performWire, hopened] using hres
      have hrequests : (performWire (.fire post) ch h.state).2.breaker.requests =
          h.state.breaker.requests ++ [post] := by
        simp [performWire, hopened, Config.next]
      rw [hrequests, ← haction, hlength, List.getElem?_concat_length]

theorem Fires.perform (hI : Fires baseUrl h) (hop : Asks (h.own i) op) :
    Fires baseUrl (h.perform i op ch) := by
  have hnow : (h.perform i op ch).state = (performWire op ch h.state).2 := rfl
  refine ⟨hI.reached op ch, performWire_auditServiceUrl.trans hI.url, ?_, ?_, ?_, ?_⟩
  · intro j rowId eventType payload url hmem
    rcases History.mem_perform.1 (History.mem_own.1 hmem) with hold | ⟨_, hsame, hres⟩
    · exact hI.read j rowId eventType payload url (History.mem_own.2 hold)
    · have hurl : url = h.state.auditServiceUrl := by simpa [performWire] using hres
      exact hurl.trans hI.url
  · intro j action post hmem
    rcases History.mem_perform.1 (History.mem_own.1 hmem) with hold | ⟨_, hsame, hres⟩
    · have hknown := hI.known j action post (History.mem_own.2 hold)
      exact (grows_performWire op ch h).requests _ _ hknown
    · subst hsame
      exact hI.started hres.symm
  · intro post hpost
    rw [hnow] at hpost
    rcases (performWire_breaker op ch h.state).2 with hsame | ⟨post', hfire, _, hrequests⟩
    · exact hI.posts post (hsame ▸ hpost)
    · rw [hrequests] at hpost
      rcases List.mem_append.1 hpost with hold | hnew
      · exact hI.posts post hold
      · -- The client has read the URL just before.
        rw [List.mem_singleton.1 hnew]
        subst hfire
        cases hop with
        | fire hlast hset =>
            have hurl := hI.read i _ _ _ _ (List.mem_of_getLast? hlast)
            rw [hurl] at hset
            exact ⟨hset, by rw [hurl]⟩
  · intro r hr hdelivered
    rcases performWire_relays hr hdelivered with hold | ⟨action, post, houtcome, rfl, hpool⟩
    · rcases hI.delivered r hold hdelivered with ⟨action, hanswered⟩
      exact ⟨action, hanswered.grows (grows_performWire op ch h)⟩
    · subst houtcome
      cases hop with
      | outcome hlast =>
          have hfired := hI.known i action post (List.mem_of_getLast? hlast)
          have hurl := (hI.posts post (List.mem_of_getElem? hfired)).2
          have hrequest := (grows_performWire (.outcome action post) ch h).requests _ _ hfired
          rcases hI.reached (.outcome action post) ch with ⟨as, has⟩
          have hpost : post = (⟨post.rowId, post.eventType, post.payload, true⟩ : Relay).post
              (baseUrl.getD "") := by
            rw [Relay.post, ← hurl]
          refine ⟨action, ?_⟩
          rw [hnow, ← hpost, has]
          rw [has] at hrequest hpool
          exact ⟨hrequest, answered_run hrequest hpool⟩

end Fires

/-! ## Overlapping ticks -/

/-- Before the first tick: nothing has been called for, and nothing is `SENT`. -/
structure Fresh (s : Wire) : Prop where
  relays : s.relays = []
  breaker : s.breaker = Config.initial fired ()
  unsent : ∀ row ∈ s.rows, row.status ≠ .SENT

theorem fires_run {s : Wire} (hs : Fresh s) (as : List (Action wired)) :
    Fires s.auditServiceUrl ((Config.initial wired s).run as).toHistory := by
  have hinit : Fires s.auditServiceUrl (Config.initial wired s).toHistory := by
    refine ⟨⟨[], hs.breaker⟩, rfl, fun i _ _ _ _ hmem => ?_, fun i _ _ hmem => ?_, ?_, ?_⟩
    · cases hmem
    · cases hmem
    · intro post hpost
      rw [show (Config.initial wired s).state = s from rfl, hs.breaker] at hpost
      cases hpost
    · intro r hr
      rw [show (Config.initial wired s).state = s from rfl, hs.relays] at hr
      cases hr
  exact Config.run_induction (V := wired) (P := fun _ => Asks) (Q := fun _ _ _ => True)
    (C := fun _ _ => True) (fun _ => follows_refine follows_impl _)
    (fun h r _ hI => ⟨hI.breaker, hI.url, hI.read, hI.known, hI.posts, hI.delivered⟩)
    (fun h i r op ch _ hI _ hP _ => hI.perform hP) hinit as (Config.meets_trivial _ as)

/-- However ticks overlap, and whatever fails or runs out of time. A row that is `SENT` has been
posted as it is, and the Audit service has answered. Nothing is posted but what an action was
started with, to the URL that is configured: at most three times, with pauses that double, and not
again once it has been answered. -/
theorem sent_rows_posted {s : Wire} (hs : Fresh s) (as : List (Action wired)) :
    (∀ row ∈ ((Config.initial wired s).run as).state.rows, row.status = .SENT →
      ∃ action, Answered ((Config.initial wired s).run as).state.breaker action
        (row.post (s.auditServiceUrl.getD ""))) ∧
    ∀ action post, ((Config.initial wired s).run as).state.breaker.requests[action]? = some post →
      unset s.auditServiceUrl = false ∧ post.url = s.auditServiceUrl.getD "" ++ "/events" ∧
      Posting post (((Config.initial wired s).run as).state.breaker.own action) ∧
      callsOf (HttpOp.post post)
        (((Config.initial wired s).run as).state.breaker.own action) ≤ 3 ∧
      answersOf (HttpOp.post post)
        (((Config.initial wired s).run as).state.breaker.own action) ≤ 1 := by
  have hfires := fires_run hs as
  refine ⟨fun row hrow hsent => ?_, fun action post hpost => ?_⟩
  · -- The outbox says that the row has been relayed, the client that it has been posted.
    rcases Config.run_refine (V := service) carries_impl_free s as with ⟨as', hmirrors⟩
    have hstart : SentRelayed s.toStore := fun row hrow hsent => absurd hsent (hs.unsent row hrow)
    have hrelayed := sentRelayed_run hstart as'
    rw [hmirrors.state] at hrelayed
    exact hfires.delivered _ (hrelayed row hrow hsent) rfl
  · rcases hfires.posts post (List.mem_of_getElem? hpost) with ⟨hset, hurl⟩
    rcases hfires.breaker with ⟨as', has'⟩
    rw [has'] at hpost ⊢
    have hposting := posting_run as' hpost
    exact ⟨hset, hurl, hposting, hposting.count (backoff_ne post)⟩

/-! A tick whose first post fails. -/

def wiredSample : Wire :=
  ⟨sample, some "http://audit", Config.initial fired ()⟩

/-- Whenever the job waits, the first action posts in vain, pauses, and posts again. -/
def secondPost : WireChoice :=
  ⟨⟨[], false, false, ""⟩, [(0, some "ECONNRESET"), (0, none), (0, none)], false⟩

def loginPosted : AuditOutbox := { login.row with status := .SENT }

theorem sent_rows_posted_sample :
    ∃ action, Answered ((Config.initial wired wiredSample).run
      (.start () :: List.replicate 5 (.resume 0 secondPost))).state.breaker action
        (loginPosted.post "http://audit") :=
  (sent_rows_posted ⟨rfl, rfl, by decide⟩ _).1 loginPosted (by decide +kernel) rfl

/-! ## Ticks that do not overlap -/

def rowOf? : HttpOp → Option String
  | .post post => some post.rowId
  | .sleep _ => none

/-- How many actions have been started for a row. -/
def actionsFor (c : Config fired) (rowId : String) : Nat :=
  c.requests.countP fun post => post.rowId == rowId

/-- How often a row has been posted. -/
def postsFor (c : Config fired) (rowId : String) : Nat :=
  c.trace.countP fun e => rowOf? e.op == some rowId

def answersFor (c : Config fired) (rowId : String) : Nat :=
  c.trace.countP fun e => rowOf? e.op == some rowId && e.res.isOk

/-- The posts of an action are for its row. -/
theorem rowOf?_posting {post : Post} {own : List (Awaited httpSig String)}
    (h : Posting post own) {a : Awaited httpSig String} (ha : a ∈ own) {rowId : String}
    (hrow : rowOf? a.op = some rowId) : a.op = .post post ∧ rowId = post.rowId := by
  rcases h.op_cases ha with hpost | ⟨attempt, hpause⟩
  · rw [hpost] at hrow
    exact ⟨hpost, (Option.some.inj hrow).symm⟩
  · rw [hpause] at hrow
    cases hrow

/-- What is counted of the actions, each of which has at most `b` such events. -/
theorem countP_le_actions (as : List (Action fired)) (rowId : String) {b : Nat}
    {p : Awaited httpSig String → Bool} (hp : ∀ a, p a = true → rowOf? a.op = some rowId)
    (hle : ∀ post own, Posting post own → own.countP p ≤ b) :
    ((Config.initial fired ()).run as).trace.countP (fun e => p e.toAwaited) ≤
      b * actionsFor ((Config.initial fired ()).run as) rowId := by
  refine (Config.run_follows follows_fired () as).2.countP_le ?_ ?_
  · intro i post hpost hother
    refine List.countP_eq_zero.2 fun a ha hpa => ?_
    have hrow := (rowOf?_posting (posting_run as hpost) ha (hp a hpa)).2
    simp [hrow] at hother
  · exact fun i post hpost => hle post _ (posting_run as hpost)

theorem postsFor_le (as : List (Action fired)) (rowId : String) :
    postsFor ((Config.initial fired ()).run as) rowId ≤
      3 * actionsFor ((Config.initial fired ()).run as) rowId := by
  refine countP_le_actions as rowId (p := fun a => rowOf? a.op == some rowId) ?_ ?_
  · exact fun a ha => by simpa using ha
  · intro post own hposting
    refine Nat.le_trans (List.countP_mono_left fun a ha hrow => ?_)
      (hposting.count (backoff_ne post)).1
    simpa using (rowOf?_posting hposting ha (by simpa using hrow)).1

theorem answersFor_le (as : List (Action fired)) (rowId : String) :
    answersFor ((Config.initial fired ()).run as) rowId ≤
      actionsFor ((Config.initial fired ()).run as) rowId := by
  rw [← Nat.one_mul (actionsFor _ _)]
  refine countP_le_actions as rowId (p := fun a => rowOf? a.op == some rowId && a.res.isOk) ?_ ?_
  · intro a ha
    simp only [Bool.and_eq_true, beq_iff_eq] at ha
    exact ha.1
  · intro post own hposting
    refine Nat.le_trans (List.countP_mono_left fun a ha hrow => ?_)
      (hposting.count (backoff_ne post)).2
    simp only [Bool.and_eq_true, beq_iff_eq] at hrow
    simp [(rowOf?_posting hposting ha hrow.1).1, hrow.2]

/-- Every action is one of the calls that have come to an end; but for `owed`, which has not. -/
structure Ledger (owed : Option String) (s : Wire) : Prop where
  breaker : ∃ as, s.breaker = (Config.initial fired ()).run as
  actions : ∀ rowId, actionsFor s.breaker rowId ≤
    tries s.toStore rowId + if owed = some rowId then 1 else 0

section Ledger

variable {s : Wire} {owed : Option String} {op : WireOp} {ch : WireChoice}

theorem ledger_breaker (h : Ledger owed s) (op : WireOp) (ch : WireChoice) :
    ∃ as, (performWire op ch s).2.breaker = (Config.initial fired ()).run as := by
  rcases h.breaker with ⟨as, has⟩
  rcases (performWire_breaker op ch s).1 with ⟨more, hmore⟩
  exact ⟨as ++ more, by rw [hmore, has, Config.run_append]⟩

theorem relays_prefix_performWire (op : WireOp) (ch : WireChoice) (s : Wire) :
    s.relays <+: (performWire op ch s).2.relays := by
  have hended : ∀ (s' : Wire) (rowId eventType payload : String) (delivered : Bool),
      s'.relays <+: (s'.ended rowId eventType payload delivered).relays :=
    fun _ _ _ _ _ => List.prefix_append _ _
  cases op with
  | findPending =>
      have hsame : (performWire .findPending ch s).2.relays = s.relays := by
        simp [performWire, findPending_state]
      exact hsame.symm ▸ List.prefix_refl _
  | auditServiceUrl rowId eventType payload =>
      rw [performWire]
      dsimp only
      split
      · exact hended _ _ _ _ _
      · exact List.prefix_refl _
  | fire post =>
      rw [performWire]
      split
      · exact hended _ _ _ _ _
      · exact List.prefix_refl _
  | outcome action post =>
      rcases outcome_relays action post ch s with ⟨delivered, hrelays⟩
      rw [hrelays]
      exact List.prefix_append _ _
  | save entity =>
      have hsame : (performWire (.save entity) ch s).2.relays = s.relays :=
        save_relays ch.toChoice s.toStore entity
      exact hsame.symm ▸ List.prefix_refl _

theorem tries_le_performWire (op : WireOp) (ch : WireChoice) (s : Wire) (rowId : String) :
    tries s.toStore rowId ≤ tries (performWire op ch s).2.toStore rowId :=
  (relays_prefix_performWire op ch s).sublist.countP_le

/-- No action is started. -/
theorem Ledger.perform (h : Ledger owed s)
    (hrequests : (performWire op ch s).2.breaker.requests = s.breaker.requests) :
    Ledger owed (performWire op ch s).2 := by
  refine ⟨ledger_breaker h op ch, fun rowId => ?_⟩
  have hmore := tries_le_performWire op ch s rowId
  have hactions := h.actions rowId
  rw [actionsFor, hrequests]
  rw [actionsFor] at hactions
  omega

/-- One action is started; its call has yet to come to an end. -/
theorem Ledger.fire (h : Ledger none s) {post : Post} (hopened : ch.opened = false) :
    Ledger (some post.rowId) (performWire (.fire post) ch s).2 := by
  refine ⟨ledger_breaker h _ ch, fun rowId => ?_⟩
  have hactions := h.actions rowId
  have hnow : (performWire (.fire post) ch s).2 =
      { s with breaker := s.breaker.next (.start post) } := by
    simp [performWire, hopened]
  rw [hnow]
  simp only [actionsFor, Config.next, History.start_requests, List.countP_append,
    List.countP_singleton, beq_iff_eq, Option.some.injEq] at hactions ⊢
  simp only [reduceCtorEq, if_false] at hactions
  omega

/-- The call of an action comes to its end. -/
theorem Ledger.outcome {post : Post} (h : Ledger (some post.rowId) s) (action : Nat) :
    Ledger none (performWire (.outcome action post) ch s).2 := by
  refine ⟨ledger_breaker h _ ch, fun rowId => ?_⟩
  have hactions := h.actions rowId
  have hrequests : (performWire (.outcome action post) ch s).2.breaker.requests =
      s.breaker.requests := by
    rcases (performWire_breaker (.outcome action post) ch s).2 with hsame | ⟨_, hfire, _⟩
    · exact hsame
    · cases hfire
  rcases outcome_relays action post ch s with ⟨delivered, hrelays⟩
  have htries : tries (performWire (.outcome action post) ch s).2.toStore rowId =
      tries s.toStore rowId + if some post.rowId = some rowId then 1 else 0 := by
    rw [tries, hrelays, List.countP_append, List.countP_singleton, tries]
    simp
  rw [actionsFor, hrequests, htries]
  simpa [actionsFor] using hactions

/-- A call of the client leaves no debt, whichever way it comes to its end. -/
theorem ensures_impl (op : Op) (s : Wire) (h : Ledger none s) :
    Ensures wire (fun _ => True) (fun s' _ => Ledger none s') s (impl op) := by
  have hother : ∀ {s : Wire} {op : WireOp} {ch : WireChoice}, Ledger none s →
      (∀ post, op ≠ .fire post) → Ledger none (performWire op ch s).2 := by
    intro s op ch h hop
    refine h.perform ?_
    rcases (performWire_breaker op ch s).2 with hsame | ⟨post, hfire, _⟩
    · exact hsame
    · exact absurd hfire (hop post)
  cases op with
  | findPending =>
      exact fun ch => ⟨trivial, ensures_settled.2 (hother h fun post hfire => by cases hfire)⟩
  | save entity =>
      exact fun ch => ⟨trivial, ensures_settled.2 (hother h fun post hfire => by cases hfire)⟩
  | relay rowId eventType payload =>
      have hread : ∀ ch, Ledger none
          (performWire (.auditServiceUrl rowId eventType payload) ch s).2 :=
        fun ch => hother h fun post hfire => by cases hfire
      refine ensures_call_bind (fun _ => trivial) (fun ch e _ => hread ch) fun ch baseUrl _ => ?_
      by_cases hunset : unset baseUrl = true
      · rw [if_pos hunset]
        exact hread ch
      · rw [if_neg hunset]
        refine ensures_call_bind (fun _ => trivial) (fun ch' e he => ?_) fun ch' action ha => ?_
        · -- The breaker is open, and has started nothing.
          refine (hread ch).perform ?_
          rcases (performWire_breaker _ ch' _).2 with hsame | ⟨_, _, hopened, _⟩
          · exact hsame
          · simp [performWire, hopened] at he
        · have hopened : ch'.opened = false := by
            cases hopened : ch'.opened with
            | false => rfl
            | true => simp [performWire, hopened] at ha
          refine fun ch'' => ⟨trivial, ensures_settled.2 ?_⟩
          exact ((hread ch).fire hopened).outcome action

end Ledger

/-- The calls that the columns of a row count. -/
theorem LifeCycle.tries {s : Store} {row : AuditOutbox} (h : LifeCycle s row) :
    tries s row.id = row.attempts + (if row.status = .SENT then 1 else 0) ∧
      row.attempts + (if row.status = .SENT then 1 else 0) ≤ MAX_RELAY_ATTEMPTS := by
  have hsplit : Outbox.tries s row.id = deliveries s row.id + failures s row.id := by
    rw [Outbox.tries, List.countP_eq_countP_filter_add _ _ fun r => r.delivered,
      List.countP_filter, List.countP_filter]
    rfl
  have hattempts := h.attempts
  have hbounded := h.bounded
  have honce := h.once
  by_cases hsent : row.status = .SENT
  · have hone := h.sent.1 hsent
    have hfailed : failures s row.id ≠ MAX_RELAY_ATTEMPTS := by
      intro hmax
      rw [h.failed.2 hmax] at hsent
      cases hsent
    simp only [hsent, if_true]
    omega
  · have hnone : deliveries s row.id ≠ 1 := fun hone => hsent (h.sent.2 hone)
    simp only [hsent, if_false]
    omega

/-- Rows start their life pending and untried, and the repository does not fail; the Audit service
and the breaker do as they please, and actions go on behind the ticks. A row is posted three times
at most for each call that is counted in its row, and is answered once at most. -/
theorem posts_bounded {s : Wire} {calls : List (Call wired)}
    (hnew : ∀ row ∈ s.rows, row.status = .PENDING ∧ row.attempts = 0) (hrelays : s.relays = [])
    (hbreaker : s.breaker = Config.initial fired ())
    (hqueries : ∀ c ∈ calls, ∀ n, (c.choices n).queryFails = false)
    (progress : List (Nat × Option String)) :
    ∀ row ∈ (wired.serve s calls).rows,
      postsFor ((wired.serve s calls).proceed progress).breaker row.id ≤
        3 * (row.attempts + if row.status = .SENT then 1 else 0) ∧
      answersFor ((wired.serve s calls).proceed progress).breaker row.id ≤
        row.attempts + (if row.status = .SENT then 1 else 0) ∧
      row.attempts + (if row.status = .SENT then 1 else 0) ≤ MAX_RELAY_ATTEMPTS := by
  -- The ledger of actions is kept by every tick.
  have hledger : Ledger none (wired.serve s calls) := by
    have hstart : Ledger none s := by
      refine ⟨⟨[], hbreaker⟩, fun rowId => ?_⟩
      rw [hbreaker]
      exact Nat.zero_le _
    refine Service.serve_induction (C := fun _ _ => True) hstart (fun s c h _ => ?_)
      (Service.complies_trivial s calls)
    exact (ensures_refine ensures_impl (service.program c.request) h).exec c.choices
  -- The rows are those of the outbox, and follow its life cycle.
  have hlimits : Indifferent (limits fun _ => True) :=
    ⟨fun ch _ _ h => h, fun ch h => ⟨h.1, fun _ _ => trivial⟩⟩
  rcases serve_refine (V := service) ⟨⟨[], false, false, ""⟩, rfl, fun _ _ => trivial⟩
    (carries_impl hlimits) calls (fun c hc n => ⟨hqueries c hc n, fun _ _ => trivial⟩) s with
    ⟨calls', _, hcalls', hserve⟩
  have hinit : Inv (fun _ => True) s.toStore := inv_initial hnew hrelays fun _ _ => trivial
  have hinv := (inv_serve hinit hcalls').1
  rw [hserve] at hinv
  intro row hrow
  rcases (hinv.rows row hrow).1.tries with ⟨htries, hmost⟩
  -- Behind the ticks, actions only move on.
  rcases hledger.breaker with ⟨as, has⟩
  have hlater : ((wired.serve s calls).proceed progress).breaker =
      (Config.initial fired ()).run (as ++ progress.map fun p => .resume p.1 p.2) := by
    rw [Config.run_append, ← has, Wire.proceed]
  have hactions := hledger.actions row.id
  have hsame : actionsFor ((wired.serve s calls).proceed progress).breaker row.id =
      actionsFor (wired.serve s calls).breaker row.id := by
    rw [actionsFor, proceed_requests, actionsFor]
  simp only [reduceCtorEq, if_false] at hactions
  rw [htries, ← hsame, hlater] at hactions
  rw [hlater]
  have hposts := postsFor_le (as ++ progress.map fun p => .resume p.1 p.2) row.id
  have hanswers := answersFor_le (as ++ progress.map fun p => .resume p.1 p.2) row.id
  omega

theorem posts_bounded_sample :
    loginPosted ∈ (wired.serve wiredSample [⟨(), fun _ => secondPost⟩]).rows ∧
      postsFor ((wired.serve wiredSample [⟨(), fun _ => secondPost⟩]).proceed []).breaker "row-1" ≤
        3 * (0 + 1) := by
  have hposted : loginPosted ∈ (wired.serve wiredSample [⟨(), fun _ => secondPost⟩]).rows := by
    decide +kernel
  refine ⟨hposted, (posts_bounded (by decide) rfl rfl (fun c hc n => ?_) [] _ hposted).1⟩
  rw [List.mem_singleton.1 hc]
  rfl

end Outbox
end IdentityBillpay
