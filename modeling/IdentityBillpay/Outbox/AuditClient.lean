import IdentityBillpay.Async.Refinement
import IdentityBillpay.Async.Retry
import IdentityBillpay.Outbox.AuditOutboxRelayJob

/-!
# AuditClient — the client of `audit.client.ts`, its retries and its circuit breaker

A call of the client is more than one exchange with the Audit service. The circuit breaker may turn
it down; an action that is started posts up to three times, with a pause after each failure; the
breaker waits for it for five seconds, and the action goes on when nobody waits any more.

* `withRetries`, `fired` — the actions that the breaker has started, as requests of their own;
* `Wire`, `WireOp`, `wire` — what the job awaits now; the actions move on in the meantime;
* `AuditClient.relay`, `wired` — the client, and the job with it;
* `carries_impl` — a call of the client does what `Op.relay` does;
* `wired_refines` — every run of the job is one of `service`.
-/

namespace IdentityBillpay
namespace Outbox

open Async Async.Program Keycloak

/-! ## Actions -/

/-- What is posted, and where to. The id of the row is not sent. -/
structure Post where
  rowId : String
  url : String
  eventType : String
  payload : String
  deriving DecidableEq

inductive HttpOp
  | post (post : Post)
  | sleep (ms : Nat)
  deriving DecidableEq

abbrev httpSig : Signature := ⟨HttpOp, fun _ => Unit⟩

abbrev httpCall (op : HttpOp) : Program httpSig String Unit := @Program.call httpSig String op

/-- A post is answered, or fails with a message; time passes. -/
abbrev http : Backend httpSig String where
  State := Unit
  Choice := Option String
  perform op ch s :=
    match op, ch with
    | .post _, some message => (.error message, s)
    | _, _ => (.ok (), s)

/-- The options that the code itself reads; the breaker is given `timeout` as well. -/
structure ResilienceOptions where
  timeout : Nat
  retries : Nat

def DEFAULT_OPTIONS : ResilienceOptions where
  timeout := 5000
  retries := 2

/-- The pause after attempt number `attempt`, counted from 0. -/
def backoff (attempt : Nat) : HttpOp :=
  .sleep (100 * Nat.pow 2 attempt)

/-- The last attempt has no pause behind it, and its error is the one that is thrown. -/
def withRetries (action : Program httpSig String Unit) (retries : Nat) :
    Program httpSig String Unit :=
  attempts action (fun attempt => httpCall (backoff attempt)) retries 0

/-- The actions that the breaker has started. -/
abbrev fired : Service httpSig String where
  toBackend := http
  Request := Post
  Reply := Unit
  program post := withRetries (httpCall (.post post)) DEFAULT_OPTIONS.retries

/-! ## What the job awaits -/

/-- The outbox, `process.env.AUDIT_SERVICE_URL`, and the actions so far. -/
structure Wire extends Store where
  auditServiceUrl : Option String
  breaker : Config fired

/-- `relay` of the outbox is taken apart. Each part knows the row it is for. -/
inductive WireOp
  | findPending
  | auditServiceUrl (rowId eventType payload : String)
  | fire (post : Post)
  | outcome (action : Nat) (post : Post)
  | save (entity : AuditOutbox)
  deriving DecidableEq

abbrev WireOp.Res : WireOp → Type
  | .findPending => List AuditOutbox
  | .auditServiceUrl _ _ _ => Option String
  | .fire _ => Nat
  | _ => Unit

instance : (op : WireOp) → DecidableEq op.Res
  | .findPending => inferInstanceAs (DecidableEq (List AuditOutbox))
  | .auditServiceUrl _ _ _ => inferInstanceAs (DecidableEq (Option String))
  | .fire _ => inferInstanceAs (DecidableEq Nat)
  | .outcome _ _ | .save _ => inferInstanceAs (DecidableEq Unit)

abbrev wireSig : Signature := ⟨WireOp, WireOp.Res⟩

abbrev WireProg (α : Type) := Program wireSig HttpError α

abbrev wireCall (op : WireOp) : WireProg op.Res := @Program.call wireSig HttpError op

/-- Beside the choices for the outbox: how far which actions get while the job waits, and whether
the breaker is open. -/
structure WireChoice extends Choice where
  progress : List (Nat × Option String)
  opened : Bool

/-- `!baseUrl`. -/
def unset (baseUrl : Option String) : Bool :=
  baseUrl.getD "" == ""

namespace Wire

/-- The call of the client has come to its end for the job. -/
def ended (s : Wire) (rowId eventType payload : String) (delivered : Bool) : Wire :=
  { s with relays := s.relays ++ [⟨rowId, eventType, payload, delivered⟩] }

/-- Actions move on. -/
def proceed (s : Wire) (progress : List (Nat × Option String)) : Wire :=
  { s with breaker := s.breaker.run (progress.map fun p => .resume p.1 p.2) }

/-- What the promise of an action is rejected with, if it is; `none` where it has been fulfilled.
An action that is still at work has run out of time. -/
def rejection? (s : Wire) (action : Nat) : Option String :=
  match s.breaker.pool[action]? with
  | some (.resolve _) => none
  | some (.reject message) => some message
  | _ => some s!"Timed out after {DEFAULT_OPTIONS.timeout}ms"

/-- The job goes on as the promise tells it to. -/
def settle (s : Wire) (post : Post) (rejection? : Option String) : Except HttpError Unit × Wire :=
  match rejection? with
  | none => (.ok (), s.ended post.rowId post.eventType post.payload true)
  | some message =>
      (.error (.httpFailed message), s.ended post.rowId post.eventType post.payload false)

end Wire

def performWire (op : WireOp) (ch : WireChoice) (s : Wire) : Except HttpError op.Res × Wire :=
  match op with
  | .findPending =>
      let found := perform .findPending ch.toChoice s.toStore
      (found.1, { s.proceed ch.progress with toStore := found.2 })
  | .auditServiceUrl rowId eventType payload =>
      -- Nothing is awaited here. Without a URL the call has failed.
      (.ok s.auditServiceUrl,
        if unset s.auditServiceUrl then s.ended rowId eventType payload false else s)
  | .fire post =>
      -- Nor here: an open breaker rejects at once, and else the action is started.
      if ch.opened then
        (.error (.httpFailed "Breaker is open"),
          s.ended post.rowId post.eventType post.payload false)
      else (.ok s.breaker.pool.length, { s with breaker := s.breaker.next (.start post) })
  | .outcome action post =>
      let s := { s.proceed ch.progress with toStore := arrive s.toStore ch.arrivals }
      s.settle post (s.rejection? action)
  | .save entity =>
      let saved := perform (.save entity) ch.toChoice s.toStore
      (saved.1, { s.proceed ch.progress with toStore := saved.2 })

abbrev wire : Backend wireSig HttpError := ⟨Wire, WireChoice, performWire⟩

/-! ## The client -/

namespace AuditClient

def relay (rowId eventType payload : String) : WireProg Unit := do
  let baseUrl : Option String ← wireCall (.auditServiceUrl rowId eventType payload)
  if unset baseUrl then
    throw (.httpFailed "AUDIT_SERVICE_URL is not configured — no Audit service to relay to")
  else do
    let post : Post := ⟨rowId, baseUrl.getD "" ++ "/events", eventType, payload⟩
    let action : Nat ← wireCall (.fire post)
    wireCall (.outcome action post)

end AuditClient

/-- The job, with the client in the place of one call. -/
def impl : (op : Op) → WireProg op.Res
  | .findPending => wireCall .findPending
  | .relay rowId eventType payload => AuditClient.relay rowId eventType payload
  | .save entity => wireCall (.save entity)

abbrev wired : Service wireSig HttpError := service.refine wire impl

/-! ## Seen from the outbox -/

section Carries

variable {limits : Choice → Prop}

/-- The environment may fail a call, or not, whatever it does besides. -/
structure Indifferent (limits : Choice → Prop) : Prop where
  relay : ∀ ch relayFails message, limits ch →
    limits { ch with relayFails := relayFails, message := message }
  quiet : ∀ ch, limits ch → limits { ch with arrivals := [] }

/-- A call of the outbox that ends as a promise does. -/
theorem perform_relay (s : Wire) (post : Post) (ch : Choice) (rejection? : Option String) :
    ∃ relayFails message, perform (.relay post.rowId post.eventType post.payload)
      { ch with relayFails := relayFails, message := message } s.toStore =
        (({ s with toStore := arrive s.toStore ch.arrivals } : Wire).settle post rejection?).map
          id Wire.toStore := by
  cases rejection? with
  | none => exact ⟨false, "", by simp [perform, Wire.settle, Wire.ended]⟩
  | some message => exact ⟨true, message, by simp [perform, Wire.settle, Wire.ended]⟩

theorem relay_rejected (s : Store) (rowId eventType payload message : String) (ch : Choice) :
    perform (.relay rowId eventType payload)
        { ch with relayFails := true, message := message } s =
      (.error (.httpFailed message), { arrive s ch.arrivals with
        relays := s.relays ++ [⟨rowId, eventType, payload, false⟩] }) := by
  simp [perform]

/-- What a call of the client comes to where it ends without an action. -/
theorem settles_at_once (h : Indifferent limits) {ch : Choice} (hch : limits ch) (s : Wire)
    (rowId eventType payload message : String) :
    ∃ ch' : (backend.restrict limits).Choice,
      ((backend.restrict limits).perform (.relay rowId eventType payload) ch' s.toStore) =
        (.error (.httpFailed message), (s.ended rowId eventType payload false).toStore) :=
  ⟨⟨_, h.relay _ true message (h.quiet ch hch)⟩, relay_rejected _ _ _ _ _ _⟩

theorem carries_outcome (h : Indifferent limits) (action : Nat) (post : Post) :
    Carries (backend.restrict limits) (wire.restrict fun ch => limits ch.toChoice) Wire.toStore
      (.relay post.rowId post.eventType post.payload) (wireCall (.outcome action post)) := by
  intro ch s
  rcases perform_relay (s.proceed ch.1.progress) post ch.1.toChoice
    (({ s.proceed ch.1.progress with toStore := arrive s.toStore ch.1.arrivals } :
      Wire).rejection? action) with ⟨relayFails, message, hrelay⟩
  have hch := h.relay ch.1.toChoice relayFails message ch.2
  refine .inr ⟨⟨_, hch⟩, congrArg Prod.snd hrelay, ?_⟩
  have hres := congrArg Prod.fst hrelay
  change Settles _ _ _ (perform _ _ (s.proceed ch.1.progress).toStore).1 _
  rw [hres]
  exact settles_settled _

theorem carries_fire (h : Indifferent limits) (post : Post) :
    Carries (backend.restrict limits) (wire.restrict fun ch => limits ch.toChoice) Wire.toStore
      (.relay post.rowId post.eventType post.payload)
      (wireCall (.fire post) >>= fun action => wireCall (.outcome action post)) := by
  intro ch s
  by_cases hopened : ch.1.opened = true
  · rcases settles_at_once h ch.2 s post.rowId post.eventType post.payload "Breaker is open"
      with ⟨ch', hch'⟩
    refine .inr ⟨ch', ?_, ?_⟩
    · rw [hch']
      simp [performWire, hopened]
    · rw [hch']
      simp only [performWire, hopened]
      rfl
  · refine .inl ⟨by simp [performWire, hopened], ?_⟩
    have hfired : (performWire (.fire post) ch.1 s).1 = .ok s.breaker.pool.length := by
      simp [performWire, hopened]
    change Carries _ _ _ _ (settled (performWire (.fire post) ch.1 s).1 >>= _)
    rw [hfired]
    exact carries_outcome h _ post

theorem carries_relay (h : Indifferent limits) (rowId eventType payload : String) :
    Carries (backend.restrict limits) (wire.restrict fun ch => limits ch.toChoice) Wire.toStore
      (.relay rowId eventType payload) (AuditClient.relay rowId eventType payload) := by
  intro ch s
  by_cases hunset : unset s.auditServiceUrl = true
  · -- Without a URL the call is over.
    rcases settles_at_once h ch.2 s rowId eventType payload
      "AUDIT_SERVICE_URL is not configured — no Audit service to relay to" with ⟨ch', hch'⟩
    refine .inr ⟨ch', ?_, ?_⟩
    · rw [hch']
      simp [performWire, hunset]
    · rw [hch']
      change Settles _ _ _ _ (if unset s.auditServiceUrl = true then _ else _)
      rw [if_pos hunset]
      rfl
  · refine .inl ⟨by simp [performWire, hunset], ?_⟩
    change Carries _ _ _ _ (if unset s.auditServiceUrl = true then _ else _)
    rw [if_neg hunset]
    exact carries_fire h ⟨rowId, s.auditServiceUrl.getD "" ++ "/events", eventType, payload⟩

/-- Every call of the job is carried out as the outbox has it. -/
theorem carries_impl (h : Indifferent limits) (op : Op) :
    Carries (backend.restrict limits) (wire.restrict fun ch => limits ch.toChoice) Wire.toStore op
      (impl op) := by
  cases op with
  | findPending => exact fun ch s => .inr ⟨⟨ch.1.toChoice, ch.2⟩, rfl, settles_settled _⟩
  | relay rowId eventType payload => exact carries_relay h rowId eventType payload
  | save entity => exact fun ch s => .inr ⟨⟨ch.1.toChoice, ch.2⟩, rfl, settles_settled _⟩

theorem carries_impl_free (op : Op) : Carries backend wire Wire.toStore op (impl op) := by
  have hfree : Indifferent fun _ => True := ⟨fun _ _ _ _ => trivial, fun _ _ => trivial⟩
  exact (carries_impl hfree op).free

end Carries

/-- Whatever the breaker and the actions do, and however ticks overlap: the outbox goes through what
it goes through when a call of the client is one operation, and every tick that has ended has ended
the same way. -/
theorem wired_refines (s : Wire) (as : List (Action wired)) :
    ∃ as' : List (Action service),
      ((Config.initial service s.toStore).run as').requests =
        ((Config.initial wired s).run as).requests ∧
      ((Config.initial service s.toStore).run as').state =
        ((Config.initial wired s).run as).state.toStore ∧
      ∀ (i : Nat) (r : Except HttpError Unit),
        ((Config.initial wired s).run as).pool[i]? = some (settled r) →
          ((Config.initial service s.toStore).run as').pool[i]? = some (settled r) := by
  rcases Config.run_refine (V := service) carries_impl_free s as with ⟨as', hmirrors⟩
  exact ⟨as', hmirrors.requests, hmirrors.state,
    fun i r hi => hmirrors.settled carries_impl_free hi⟩

end Outbox
end IdentityBillpay
