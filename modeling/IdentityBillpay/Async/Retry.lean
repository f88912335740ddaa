import IdentityBillpay.Async.Protocol

/-!
# Retry — a program that tries again

* `Program.attempts` — try, and after a failure pause and try again, a number of times;
* `Rounds`, `Retried` — the events of such a program when the try is one call;
* `follows_attempts` — it performs no other ones;
* `Retried.op_cases`, `Retried.count` — what the events count.
-/

namespace IdentityBillpay
namespace Async

variable {σ : Signature} {ε α : Type}

namespace Program

/-- After the `n`-th attempt has failed, `pause n`; `left` more attempts may follow. -/
def attempts {β : Nat → Type} (p : Program σ ε α) (pause : (n : Nat) → Program σ ε (β n)) :
    (left n : Nat) → Program σ ε α
  | 0, _ => p
  | left + 1, n => p.handle fun _ => pause n >>= fun _ => attempts p pause left (n + 1)

end Program

open Program (Follows attempts call)

section Events

variable {op : σ.Op} {pause : Nat → σ.Op} {retries n : Nat} {own : List (Awaited σ ε)}

/-- The events of `n` calls that have failed, each with its pause behind it. -/
inductive Rounds (op : σ.Op) (pause : Nat → σ.Op) : Nat → List (Awaited σ ε) → Prop
  | zero : Rounds op pause 0 []
  | succ {n : Nat} {own : List (Awaited σ ε)} (h : Rounds op pause n own) (e : ε)
      (u : σ.Res (pause n)) :
      Rounds op pause (n + 1) (own ++ [⟨op, .error e⟩, ⟨pause n, .ok u⟩])

/-- The events of at most `retries + 1` calls, of which only the last one may be answered. -/
inductive Retried (op : σ.Op) (pause : Nat → σ.Op) (retries : Nat) : List (Awaited σ ε) → Prop
  | paused {n : Nat} {own : List (Awaited σ ε)} (h : Rounds op pause n own) (hn : n ≤ retries) :
      Retried op pause retries own
  | called {n : Nat} {own : List (Awaited σ ε)} (h : Rounds op pause n own) (hn : n ≤ retries)
      (r : Except ε (σ.Res op)) : Retried op pause retries (own ++ [⟨op, r⟩])
  | broken {n : Nat} {own : List (Awaited σ ε)} (h : Rounds op pause n own) (hn : n < retries)
      (e e' : ε) : Retried op pause retries (own ++ [⟨op, .error e⟩, ⟨pause n, .error e'⟩])

/-- What may come next: a call, or the pause behind one that has failed. -/
inductive Next (op : σ.Op) (pause : Nat → σ.Op) (retries : Nat) : List (Awaited σ ε) → σ.Op → Prop
  | call {n : Nat} {own : List (Awaited σ ε)} (h : Rounds op pause n own) (hn : n ≤ retries) :
      Next op pause retries own op
  | pause {n : Nat} {own : List (Awaited σ ε)} (h : Rounds op pause n own) (hn : n < retries)
      (e : ε) : Next op pause retries (own ++ [⟨op, .error e⟩]) (pause n)

/-- The program settles with the outcome of its last event; a call is given up after the last
retry only. -/
inductive Ends (op : σ.Op) (pause : Nat → σ.Op) (retries : Nat) :
    List (Awaited σ ε) → Except ε (σ.Res op) → Prop
  | answered {n : Nat} {own : List (Awaited σ ε)} (h : Rounds op pause n own) (hn : n ≤ retries)
      (a : σ.Res op) : Ends op pause retries (own ++ [⟨op, .ok a⟩]) (.ok a)
  | failed {own : List (Awaited σ ε)} (h : Rounds op pause retries own) (e : ε) :
      Ends op pause retries (own ++ [⟨op, .error e⟩]) (.error e)
  | broken {n : Nat} {own : List (Awaited σ ε)} (h : Rounds op pause n own) (hn : n < retries)
      (e e' : ε) :
      Ends op pause retries (own ++ [⟨op, .error e⟩, ⟨pause n, .error e'⟩]) (.error e')

/-- One more event. -/
theorem Next.retried {o : σ.Op} (h : Next op pause retries own o) (r : Except ε (σ.Res o)) :
    Retried op pause retries (own ++ [⟨o, r⟩]) := by
  cases h with
  | call h hn => exact .called h hn r
  | pause h hn e =>
      rw [List.append_assoc]
      cases r with
      | ok u => exact .paused (h.succ e u) hn
      | error e' => exact .broken h hn e e'

theorem follows_attempts {left : Nat} (h : Rounds op pause n own) (hn : n + left = retries) :
    Follows (Next op pause retries) (Ends op pause retries) own
      (attempts (call op) (fun n => call (pause n)) left n) := by
  induction left generalizing n own with
  | zero =>
      subst hn
      refine ⟨.call h (Nat.le_refl n), fun r => Program.follows_settled.2 ?_⟩
      cases r with
      | ok a => exact .answered h (Nat.le_refl n) a
      | error e => exact .failed h e
  | succ left ih =>
      refine ⟨.call h (by omega), fun r => ?_⟩
      cases r with
      | ok a => exact .answered h (by omega) a
      | error e =>
          refine ⟨.pause h (by omega) e, fun r => ?_⟩
          rw [List.append_assoc]
          cases r with
          | ok u => exact ih (h.succ e u) (by omega)
          | error e' => exact .broken h (by omega) e e'

/-- Nothing else happens than calls and pauses. -/
theorem Rounds.op_cases (h : Rounds op pause n own) {a : Awaited σ ε} (ha : a ∈ own) :
    a.op = op ∨ ∃ m, a.op = pause m := by
  induction h with
  | zero => cases ha
  | succ h e u ih =>
      rcases List.mem_append.1 ha with ha | ha
      · exact ih ha
      · simp only [List.mem_cons, List.not_mem_nil, or_false] at ha
        rcases ha with rfl | rfl
        · exact .inl rfl
        · exact .inr ⟨_, rfl⟩

theorem Retried.op_cases (h : Retried op pause retries own) {a : Awaited σ ε} (ha : a ∈ own) :
    a.op = op ∨ ∃ m, a.op = pause m := by
  cases h with
  | paused h hn => exact h.op_cases ha
  | called h hn r =>
      rcases List.mem_append.1 ha with ha | ha
      · exact h.op_cases ha
      · rw [List.mem_singleton.1 ha]
        exact .inl rfl
  | broken h hn e e' =>
      rcases List.mem_append.1 ha with ha | ha
      · exact h.op_cases ha
      · simp only [List.mem_cons, List.not_mem_nil, or_false] at ha
        rcases ha with rfl | rfl
        · exact .inl rfl
        · exact .inr ⟨_, rfl⟩

/-! ## Counting -/

variable [DecidableEq σ.Op]

def callsOf (op : σ.Op) (own : List (Awaited σ ε)) : Nat :=
  own.countP fun a => a.op = op

def answersOf (op : σ.Op) (own : List (Awaited σ ε)) : Nat :=
  own.countP fun a => a.op = op ∧ a.res.isOk

theorem Rounds.count (h : Rounds op pause n own) (hpause : ∀ n, pause n ≠ op) :
    callsOf op own = n ∧ answersOf op own = 0 := by
  induction h with
  | zero => exact ⟨rfl, rfl⟩
  | @succ n own h e u ih =>
      rcases ih with ⟨htries, hanswered⟩
      refine ⟨?_, ?_⟩
      · rw [callsOf, List.countP_append]
        change callsOf op own + _ = _
        simp [htries, hpause n]
      · rw [answersOf, List.countP_append]
        change answersOf op own + _ = _
        simp [hanswered, hpause n, Except.isOk, Except.toBool]

theorem Retried.count (h : Retried op pause retries own) (hpause : ∀ n, pause n ≠ op) :
    callsOf op own ≤ retries + 1 ∧ answersOf op own ≤ 1 := by
  cases h with
  | paused h hn =>
      rcases h.count hpause with ⟨htries, hanswered⟩
      omega
  | @called n own h hn r =>
      rcases h.count hpause with ⟨htries, hanswered⟩
      refine ⟨?_, ?_⟩
      · rw [callsOf, List.countP_append]
        change callsOf op own + _ ≤ _
        simp [htries]
        omega
      · rw [answersOf, List.countP_append]
        change answersOf op own + _ ≤ _
        rw [hanswered, Nat.zero_add]
        exact List.countP_le_length
  | @broken n own h hn e e' =>
      rcases h.count hpause with ⟨htries, hanswered⟩
      refine ⟨?_, ?_⟩
      · rw [callsOf, List.countP_append]
        change callsOf op own + _ ≤ _
        simp [htries, hpause n]
        omega
      · rw [answersOf, List.countP_append]
        change answersOf op own + _ ≤ _
        simp [hanswered, hpause n, Except.isOk, Except.toBool]

end Events

end Async
end IdentityBillpay
