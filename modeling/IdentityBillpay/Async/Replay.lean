import IdentityBillpay.Async.Protocol

/-!
# Replay — what is left of a program after the events it has seen

A program and the events of its request determine where the request stands: `Program.after` replays
the events. So a history alone, without the pool, says which requests have settled and how.

* `Program.after` — the rest of a program after some events;
* `Program.Follows.recorded` — every program follows the protocol "what the program itself awaits";
* `History.outcome` — how a request has settled, read off its events.
-/

namespace IdentityBillpay
namespace Async

variable {σ : Signature} {ε α β : Type}

namespace Program

/-- How a program has settled, if it has. -/
def outcome? : Program σ ε α → Option (Except ε α)
  | .resolve a => some (.ok a)
  | .reject e => some (.error e)
  | .await _ _ => none

@[simp] theorem outcome?_settled (r : Except ε α) :
    (settled r : Program σ ε α).outcome? = some r := by
  cases r with
  | ok a => rfl
  | error e => rfl

theorem outcome?_eq_some {p : Program σ ε α} {r : Except ε α} :
    p.outcome? = some r ↔ p = settled r := by
  constructor
  · intro h
    cases p with
    | resolve a =>
        cases h
        rfl
    | reject e =>
        cases h
        rfl
    | await op k => cases h
  · intro h
    rw [h, outcome?_settled]

variable [DecidableEq σ.Op]

/-- One event: the program goes on when it is the outcome of what it awaits. -/
def step (p : Program σ ε α) (a : Awaited σ ε) : Program σ ε α :=
  match p with
  | .await op k => if h : a.op = op then k (h ▸ a.res) else .await op k
  | p => p

/-- What is left of a program after the events `as`; those it does not wait for are passed over. -/
def after (p : Program σ ε α) (as : List (Awaited σ ε)) : Program σ ε α :=
  as.foldl step p

@[simp] theorem after_nil (p : Program σ ε α) : p.after [] = p := rfl

@[simp] theorem after_await_cons (op : σ.Op) (k : Except ε (σ.Res op) → Program σ ε α)
    (r : Except ε (σ.Res op)) (as : List (Awaited σ ε)) :
    (Program.await op k).after (⟨op, r⟩ :: as) = (k r).after as := by
  simp [after, step]

theorem after_cons (p : Program σ ε α) (a : Awaited σ ε) (as : List (Awaited σ ε)) :
    p.after (a :: as) = (p.step a).after as := rfl

theorem after_append (p : Program σ ε α) (as bs : List (Awaited σ ε)) :
    p.after (as ++ bs) = (p.after as).after bs :=
  List.foldl_append

@[simp] theorem after_settled (r : Except ε α) (as : List (Awaited σ ε)) :
    (settled r : Program σ ε α).after as = settled r := by
  induction as with
  | nil => rfl
  | cons a as ih =>
      cases r with
      | ok b => exact ih
      | error e => exact ih

variable {P : List (Awaited σ ε) → σ.Op → Prop} {Q : List (Awaited σ ε) → Except ε α → Prop}
  {own : List (Awaited σ ε)} {p : Program σ ε α}

/-- Besides its protocol, a program follows what it awaits itself. -/
theorem Follows.recorded (h : Follows P Q own p) :
    Follows (fun own' op => P own' op ∧ ∃ as k, own' = own ++ as ∧ p.after as = .await op k)
      (fun own' r => Q own' r ∧ ∃ as, own' = own ++ as ∧ p.after as = settled r) own p := by
  induction p generalizing own with
  | resolve a => exact ⟨h, [], by simp, rfl⟩
  | reject e => exact ⟨h, [], by simp, rfl⟩
  | await op k ih =>
      refine ⟨⟨h.1, [], k, by simp, rfl⟩, fun r => ?_⟩
      refine (ih r (h.2 r)).mono ?_ ?_
      · intro own' op' hop
        rcases hop with ⟨hP, as, k', hown, hafter⟩
        exact ⟨hP, ⟨op, r⟩ :: as, k', by simp [hown], by rw [after_await_cons, hafter]⟩
      · intro own' r' hr
        rcases hr with ⟨hQ, as, hown, hafter⟩
        exact ⟨hQ, ⟨op, r⟩ :: as, by simp [hown], by rw [after_await_cons, hafter]⟩

/-- A program that some events lead to its end has seen its own among them. -/
theorem Follows.after (h : Follows P Q own p) {as : List (Awaited σ ε)} {r : Except ε α}
    (hafter : p.after as = settled r) : ∃ bs, bs.Sublist as ∧ Q (own ++ bs) r := by
  induction as generalizing own p with
  | nil =>
      have hp : p = settled r := hafter
      refine ⟨[], List.Sublist.refl _, ?_⟩
      rw [hp, follows_settled] at h
      simpa using h
  | cons a as ih =>
      rw [after_cons] at hafter
      cases p with
      | resolve b =>
          rcases ih h hafter with ⟨bs, hbs, hQ⟩
          exact ⟨bs, hbs.cons a, hQ⟩
      | reject e =>
          rcases ih h hafter with ⟨bs, hbs, hQ⟩
          exact ⟨bs, hbs.cons a, hQ⟩
      | await op k =>
          rcases a with ⟨op', r'⟩
          -- An answer to another call is skipped, which is why only a sublist is consumed.
          by_cases hop : op' = op
          · subst hop
            have hk : (k r').after as = settled r := by simpa [step] using hafter
            rcases ih (h.2 r') hk with ⟨bs, hbs, hQ⟩
            exact ⟨⟨op', r'⟩ :: bs, hbs.cons_cons _, by simpa using hQ⟩
          · have hk : (Program.await op k).after as = settled r := by
              simpa [step, hop] using hafter
            rcases ih h hk with ⟨bs, hbs, hQ⟩
            exact ⟨bs, hbs.cons _, hQ⟩

end Program

/-! ## Requests of a history -/

variable [DecidableEq σ.Op] {V : Service σ ε}

namespace History

/-- How request `i` has settled, if it has. -/
def outcome (h : History V) (i : Nat) : Option (Except ε V.Reply) :=
  h.requests[i]?.bind fun r => ((V.program r).after (h.own i)).outcome?

/-- Request `i` has thrown. -/
def threw (h : History V) (i : Nat) : Bool :=
  match h.outcome i with
  | some (.error _) => true
  | _ => false

theorem outcome_start {h : History V} {i : Nat} {res : Except ε V.Reply} (r : V.Request)
    (hi : h.outcome i = some res) : (h.start r).outcome i = some res := by
  rcases Option.bind_eq_some_iff.1 hi with ⟨r', hr', hres⟩
  rw [outcome, start_requests_some hr']
  exact hres

theorem outcome_perform_ne (h : History V) {i j : Nat} (op : σ.Op) (ch : V.Choice) (hij : j ≠ i) :
    (h.perform i op ch).outcome j = h.outcome j := by
  rw [outcome, outcome, perform_own_ne h op ch hij, perform_requests]

theorem threw_of_ok {h : History V} {i : Nat} {a : V.Reply} (hi : h.outcome i = some (.ok a)) :
    h.threw i = false := by
  simp [threw, hi]

/-- A request that has thrown is at its end, whatever is started afterwards. -/
theorem threw_start {h : History V} {i : Nat} {r : V.Request} (hi : (h.start r).threw i = false) :
    h.threw i = false := by
  cases hres : h.outcome i with
  | none => simp [threw, hres]
  | some res =>
      rw [threw, outcome_start r hres] at hi
      simpa [threw, hres] using hi

end History

namespace Config

variable {P : V.Request → List (Awaited σ ε) → σ.Op → Prop}
  {Q : V.Request → List (Awaited σ ε) → Except ε V.Reply → Prop}

/-- The protocol of a request, and what its own program awaits. -/
def Awaits (P : V.Request → List (Awaited σ ε) → σ.Op → Prop) (r : V.Request)
    (own : List (Awaited σ ε)) (op : σ.Op) : Prop :=
  P r own op ∧ ∃ k, (V.program r).after own = .await op k

/-- The outcomes of a request, and how its own program settles. -/
def Settles (Q : V.Request → List (Awaited σ ε) → Except ε V.Reply → Prop) (r : V.Request)
    (own : List (Awaited σ ε)) (res : Except ε V.Reply) : Prop :=
  Q r own res ∧ (V.program r).after own = Program.settled res

theorem follows_awaits (hP : ∀ r, Program.Follows (P r) (Q r) [] (V.program r)) (r : V.Request) :
    Program.Follows (Awaits P r) (Settles Q r) [] (V.program r) := by
  refine (hP r).recorded.mono ?_ ?_
  · intro own op hop
    rcases hop with ⟨hop, as, k, hown, hafter⟩
    have heq : own = as := by simpa using hown
    subst heq
    exact ⟨hop, k, hafter⟩
  · intro own res hres
    rcases hres with ⟨hres, as, hown, hafter⟩
    have heq : own = as := by simpa using hown
    subst heq
    exact ⟨hres, hafter⟩

/-- A request that is about to perform an operation has not settled. -/
theorem Awaits.outcome {h : History V} {i : Nat} {r : V.Request} {op : σ.Op}
    (ha : Awaits P r (h.own i) op) (hr : h.requests[i]? = some r) : h.outcome i = none := by
  rcases ha.2 with ⟨k, hk⟩
  simp [History.outcome, hr, hk, Program.outcome?]

/-- Nor have the requests thrown that have not thrown after it. -/
theorem Awaits.threw {h : History V} {i j : Nat} {r : V.Request} {op : σ.Op} {ch : V.Choice}
    (ha : Awaits P r (h.own i) op) (hr : h.requests[i]? = some r)
    (hj : (h.perform i op ch).threw j = false) : h.threw j = false := by
  by_cases hji : j = i
  · subst hji
    simp [History.threw, ha.outcome hr]
  · rwa [History.threw, h.outcome_perform_ne op ch hji] at hj

/-- In a run, the outcomes read off the history are those of the pool. -/
theorem outcome_eq_pool {c : Config V} (hc : c.PoolEnds (Awaits P) (Settles Q)) (i : Nat) :
    c.outcome i = c.pool[i]?.bind Program.outcome? := by
  cases hr : c.requests[i]? with
  | none =>
      have hp : c.pool[i]? = none := by
        rw [List.getElem?_eq_none_iff] at hr ⊢
        rw [hc.1]
        exact hr
      simp [History.outcome, hr, hp]
  | some r =>
      have hlt : i < c.pool.length := hc.1 ▸ (List.getElem?_eq_some_iff.1 hr).1
      have hp : c.pool[i]? = some c.pool[i] := List.getElem?_eq_getElem hlt
      have hfollows := hc.2 i r _ hr hp
      cases hprog : c.pool[i] with
      | resolve a =>
          rw [hprog] at hfollows
          simp [History.outcome, hr, hp, hprog, hfollows.2, Program.outcome?]
      | reject e =>
          rw [hprog] at hfollows
          simp [History.outcome, hr, hp, hprog, hfollows.2, Program.outcome?]
      | await op k =>
          rw [hprog] at hfollows
          rcases hfollows.1.2 with ⟨k', hk'⟩
          simp [History.outcome, hr, hp, hprog, hk', Program.outcome?]

end Config

end Async
end IdentityBillpay
