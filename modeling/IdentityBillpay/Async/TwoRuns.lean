import IdentityBillpay.Async.Hoare
import IdentityBillpay.Async.Serial

/-!
# TwoRuns — what a program cannot tell apart

Two runs of one program start in two states, and the environment decides alike in both. A relation
on states says what the runs agree on; a program that sees no more than that settles alike.

* `SameRuns B limits R s t p` — every operation has the same outcome in both runs, and the states
  stay in the relation;
* `same_call`, `same_call_bind`, `SameRuns.bind` — one rule a construct;
* `Program.AtMost` — a bound on the number of calls;
* `SameRuns.exec`, `same_answers` — whole runs, and lists of calls;
* `Alike` — two programs that settle alike although their operations may be answered differently,
  and although they may come apart in the end.
-/

namespace IdentityBillpay
namespace Async

open Program

variable {σ : Signature} {ε α β : Type}

def SameRuns (B : Backend σ ε) (limits : B.Choice → Prop) (R : B.State → B.State → Prop) :
    B.State → B.State → Program σ ε α → Prop
  | s, t, .resolve _ => R s t
  | s, t, .reject _ => R s t
  | s, t, .await op k => ∀ ch, limits ch →
      (B.perform op ch t).1 = (B.perform op ch s).1 ∧
        SameRuns B limits R (B.perform op ch s).2 (B.perform op ch t).2 (k (B.perform op ch s).1)

section Rules

variable {B : Backend σ ε} {limits : B.Choice → Prop} {R : B.State → B.State → Prop}
  {s t : B.State}

@[simp] theorem same_resolve {a : α} :
    SameRuns B limits R s t (.resolve a : Program σ ε α) ↔ R s t := Iff.rfl

@[simp] theorem same_reject {e : ε} :
    SameRuns B limits R s t (.reject e : Program σ ε α) ↔ R s t := Iff.rfl

@[simp] theorem same_settled {r : Except ε α} :
    SameRuns B limits R s t (settled r) ↔ R s t := by
  cases r with
  | ok a => exact Iff.rfl
  | error e => exact Iff.rfl

theorem SameRuns.bind {p : Program σ ε α} {f : α → Program σ ε β} (hp : SameRuns B limits R s t p)
    (hf : ∀ s t a, R s t → SameRuns B limits R s t (f a)) :
    SameRuns B limits R s t (p >>= f) := by
  induction p generalizing s t with
  | resolve a => exact hf _ _ _ hp
  | reject e => exact hp
  | await op k ih => exact fun ch hch => ⟨(hp ch hch).1, ih _ (hp ch hch).2⟩

/-- One operation has the same outcome in both states, and keeps the relation. -/
def SameOutcome (B : Backend σ ε) (limits : B.Choice → Prop) (R : B.State → B.State → Prop)
    (s t : B.State) (op : σ.Op) : Prop :=
  ∀ ch, limits ch → (B.perform op ch t).1 = (B.perform op ch s).1 ∧
    R (B.perform op ch s).2 (B.perform op ch t).2

/-- The rule for `await`ing one operation, with what its answer tells about both states. -/
theorem same_call_bind {op : σ.Op} {f : σ.Res op → Program σ ε β}
    (hop : SameOutcome B limits R s t op)
    (hok : ∀ ch a s' t', R s' t' → B.perform op ch s = (.ok a, s') → B.perform op ch t = (.ok a, t') →
      SameRuns B limits R s' t' (f a)) : SameRuns B limits R s t (call op >>= f) := by
  intro ch hch
  rcases hop ch hch with ⟨hsame, hR⟩
  refine ⟨hsame, ?_⟩
  cases hres : (B.perform op ch s).1 with
  | error e => exact hR
  | ok a =>
      have hleft : B.perform op ch s = (.ok a, (B.perform op ch s).2) := Prod.ext hres rfl
      have hright : B.perform op ch t = (.ok a, (B.perform op ch t).2) :=
        Prod.ext (hsame.trans hres) rfl
      exact hok ch a _ _ hR hleft hright

theorem same_call {op : σ.Op} (hop : SameOutcome B limits R s t op) :
    SameRuns B limits R s t (call op) :=
  fun ch hch => ⟨(hop ch hch).1, same_settled.2 (hop ch hch).2⟩

end Rules

/-! ## Whole runs -/

/-- The program awaits at most `n` operations. -/
def Program.AtMost : Nat → Program σ ε α → Prop
  | _, .resolve _ | _, .reject _ => True
  | 0, .await _ _ => False
  | n + 1, .await _ k => ∀ r, AtMost n (k r)

theorem atMost_settled {n : Nat} (r : Except ε α) : (settled r : Program σ ε α).AtMost n := by
  cases n with
  | zero => cases r with
    | ok a => trivial
    | error e => trivial
  | succ n => cases r with
    | ok a => trivial
    | error e => trivial

@[simp] theorem atMost_resolve {n : Nat} (a : α) : (.resolve a : Program σ ε α).AtMost n :=
  atMost_settled (.ok a)

@[simp] theorem atMost_reject {n : Nat} (e : ε) : (.reject e : Program σ ε α).AtMost n :=
  atMost_settled (.error e)

theorem Program.AtMost.mono {m n : Nat} {p : Program σ ε α} (hp : p.AtMost m) (hmn : m ≤ n) :
    p.AtMost n := by
  induction p generalizing m n with
  | resolve a => exact atMost_resolve a
  | reject e => exact atMost_reject e
  | await op k ih =>
      cases m with
      | zero => exact hp.elim
      | succ m =>
          cases n with
          | zero => exact absurd hmn (Nat.not_succ_le_zero m)
          | succ n => exact fun r => ih r (hp r) (Nat.le_of_succ_le_succ hmn)

theorem Program.AtMost.bind {m n : Nat} {p : Program σ ε α} {f : α → Program σ ε β}
    (hp : p.AtMost m) (hf : ∀ a, (f a).AtMost n) : (p >>= f).AtMost (m + n) := by
  induction p generalizing m with
  | resolve a => exact (hf a).mono (Nat.le_add_left n m)
  | reject e => exact atMost_reject e
  | await op k ih =>
      cases m with
      | zero => exact hp.elim
      | succ m =>
          rw [Nat.succ_add]
          exact fun r => ih r (hp r)

theorem atMost_call_bind {n : Nat} {op : σ.Op} {f : σ.Res op → Program σ ε β}
    (hf : ∀ a, (f a).AtMost n) : (call op >>= f).AtMost (n + 1) := by
  intro r
  cases r with
  | ok a => exact hf a
  | error e => exact atMost_reject e

theorem atMost_settled_bind {n : Nat} {r : Except ε α} {f : α → Program σ ε β}
    (hf : ∀ a, (f a).AtMost n) : (settled r >>= f).AtMost n := by
  cases r with
  | ok a => exact hf a
  | error e => exact atMost_reject e

/-- Both runs settle alike, when the environment keeps within the limits at every call. -/
theorem SameRuns.exec {B : Backend σ ε} {limits : B.Choice → Prop}
    {R : B.State → B.State → Prop} {s t : B.State} {p : Program σ ε α} {n : Nat}
    (hp : SameRuns B limits R s t p) (hmost : p.AtMost n) {choices : Nat → B.Choice}
    (hlimits : ∀ k < n, limits (choices k)) :
    (p.exec B choices t).result = (p.exec B choices s).result ∧
      R (p.exec B choices s).state (p.exec B choices t).state := by
  induction p generalizing s t n choices with
  | resolve a => exact ⟨rfl, hp⟩
  | reject e => exact ⟨rfl, hp⟩
  | await op k ih =>
      cases n with
      | zero => exact hmost.elim
      | succ n =>
          rcases hp (choices 0) (hlimits 0 n.succ_pos) with ⟨hsame, hrest⟩
          rw [exec_await, exec_await]
          dsimp only
          rw [hsame]
          exact ih _ hrest (hmost _) fun k hk => hlimits (k + 1) (Nat.succ_lt_succ hk)

/-! ## Programs that come apart -/

/-- Two programs that settle alike, in related states. They await the same operations, each of which
may be answered differently; or each is sure to settle with the same outcome, whatever it awaits
before. `limits n` is what the environment keeps to at the `n`-th operation. -/
inductive Alike (B : Backend σ ε) (limits : Nat → B.Choice → Prop) (R : B.State → B.State → Prop) :
    Nat → B.State → B.State → Program σ ε α → Program σ ε α → Prop
  | settled {n : Nat} {s t : B.State} (r : Except ε α) (h : R s t) :
      Alike B limits R n s t (settled r) (settled r)
  | await {n : Nat} {s t : B.State} {op : σ.Op} {k k' : Except ε (σ.Res op) → Program σ ε α}
      (h : ∀ ch, limits n ch → Alike B limits R (n + 1) (B.perform op ch s).2
        (B.perform op ch t).2 (k (B.perform op ch s).1) (k' (B.perform op ch t).1)) :
      Alike B limits R n s t (.await op k) (.await op k')
  | apart {n : Nat} {s t : B.State} {p q : Program σ ε α} (r : Except ε α) (P Q : B.State → Prop)
      (hp : Ensures (B.restrict fun ch => ∃ m, n ≤ m ∧ limits m ch) (fun _ => True)
        (fun s' r' => r' = r ∧ P s') s p)
      (hq : Ensures (B.restrict fun ch => ∃ m, n ≤ m ∧ limits m ch) (fun _ => True)
        (fun t' r' => r' = r ∧ Q t') t q)
      (hR : ∀ s' t', P s' → Q t' → R s' t') : Alike B limits R n s t p q

section Alike

variable {B : Backend σ ε} {limits : Nat → B.Choice → Prop} {R : B.State → B.State → Prop}
  {n : Nat} {s t : B.State} {p q : Program σ ε α}

/-- What is made of the outcome is alike. -/
theorem Alike.map (h : Alike B limits R n s t p q) (f : α → β) :
    Alike B limits R n s t (p >>= fun a => pure (f a)) (q >>= fun a => pure (f a)) := by
  induction h with
  | settled r hR =>
      cases r with
      | ok a => exact .settled (.ok (f a)) hR
      | error e => exact .settled (.error e) hR
  | await _ ih => exact .await ih
  | apart r P Q hp hq hR =>
      -- Two runs that have come apart end alike, also after the value has been mapped.
      cases r with
      | ok a =>
          refine .apart (.ok (f a)) P Q (hp.bind ?_ ?_) (hq.bind ?_ ?_) hR
          · intro s' b hb
            cases hb.1
            exact ⟨rfl, hb.2⟩
          · intro s' e he
            cases he.1
          · intro t' b hb
            cases hb.1
            exact ⟨rfl, hb.2⟩
          · intro t' e he
            cases he.1
      | error e =>
          refine .apart (.error e) P Q (hp.bind ?_ ?_) (hq.bind ?_ ?_) hR
          · intro s' b hb
            cases hb.1
          · intro s' e' he
            cases he.1
            exact ⟨rfl, he.2⟩
          · intro t' b hb
            cases hb.1
          · intro t' e' he
            cases he.1
            exact ⟨rfl, he.2⟩

/-- The rule for `await`ing one operation, which may be answered differently. -/
theorem alike_await_bind {op : σ.Op} {f g : σ.Res op → Program σ ε α}
    (h : ∀ ch, limits n ch → Alike B limits R (n + 1) (B.perform op ch s).2 (B.perform op ch t).2
      (settled (B.perform op ch s).1 >>= f) (settled (B.perform op ch t).1 >>= g)) :
    Alike B limits R n s t (call op >>= f) (call op >>= g) :=
  .await h

/-- An operation that is answered alike. -/
theorem alike_call_bind {op : σ.Op} {f g : σ.Res op → Program σ ε α}
    (hop : SameOutcome B (limits n) R s t op)
    (hok : ∀ ch a s' t', R s' t' → B.perform op ch s = (.ok a, s') → B.perform op ch t = (.ok a, t') →
      Alike B limits R (n + 1) s' t' (f a) (g a)) :
    Alike B limits R n s t (call op >>= f) (call op >>= g) := by
  refine alike_await_bind fun ch hch => ?_
  rcases hop ch hch with ⟨hsame, hR⟩
  cases hres : (B.perform op ch s).1 with
  | error e =>
      rw [hsame, hres]
      exact .settled (.error e) hR
  | ok a =>
      rw [hsame, hres]
      exact hok ch a _ _ hR (Prod.ext hres rfl) (Prod.ext (hsame.trans hres) rfl)

theorem alike_call {op : σ.Op} (hop : SameOutcome B (limits n) R s t op) :
    Alike B limits R n s t (call op) (call op) := by
  refine .await fun ch hch => ?_
  rcases hop ch hch with ⟨hsame, hR⟩
  rw [hsame]
  exact .settled _ hR

theorem Alike.exec (h : Alike B limits R n s t p q) (choices : Nat → B.Choice)
    (hlimits : ∀ k, limits (n + k) (choices k)) :
    (q.exec B choices t).result = (p.exec B choices s).result ∧
      R (p.exec B choices s).state (q.exec B choices t).state := by
  induction h generalizing choices with
  | settled r hR =>
      cases r with
      | ok a => exact ⟨rfl, hR⟩
      | error e => exact ⟨rfl, hR⟩
  | @await n s t op k k' _ ih =>
      rw [exec_await, exec_await]
      refine ih (choices 0) (hlimits 0) _ fun k => ?_
      have hnext := hlimits (k + 1)
      rwa [Nat.add_comm k 1, ← Nat.add_assoc, Nat.add_comm 1 k] at hnext
  | @apart n s t p q r P Q hp hq hR =>
      -- Each run counts its own calls from here; what holds from `n` on limits both.
      have hwithin : ∀ k, ∃ m, n ≤ m ∧ limits m (choices k) :=
        fun k => ⟨n + k, Nat.le_add_right n k, hlimits k⟩
      have hleft := hp.exec_within hwithin
      have hright := hq.exec_within hwithin
      exact ⟨hright.1.trans hleft.1.symm, hR _ _ hleft.2 hright.2⟩

end Alike

/-! ## Lists of calls -/

namespace Service

variable {V : Service σ ε}

/-- What the calls are answered with. -/
def answers (V : Service σ ε) : V.State → List (Call V) → List (Except ε V.Reply)
  | _, [] => []
  | s, c :: calls => (V.answer s c).result :: answers V (V.answer s c).state calls

theorem answers_append (s : V.State) (calls more : List (Call V)) :
    V.answers s (calls ++ more) = V.answers s calls ++ V.answers (V.serve s calls) more := by
  induction calls generalizing s with
  | nil => rfl
  | cons c calls ih => exact congrArg _ (ih _)

theorem length_answers (s : V.State) (calls : List (Call V)) :
    (V.answers s calls).length = calls.length := by
  induction calls generalizing s with
  | nil => rfl
  | cons c calls ih => exact congrArg _ (ih _)

/-- Calls that keep a relation, each in related states. -/
theorem serve_related {R : V.State → V.State → Prop} {s t : V.State} {calls : List (Call V)}
    (hR : R s t) (hstep : ∀ c ∈ calls, ∀ s t, R s t → R (V.answer s c).state (V.answer t c).state) :
    R (V.serve s calls) (V.serve t calls) := by
  induction calls generalizing s t with
  | nil => exact hR
  | cons c calls ih =>
      exact ih (hstep c List.mem_cons_self s t hR)
        fun c' hc' => hstep c' (List.mem_cons_of_mem c hc')

/-- Calls that are answered alike, each in related states. -/
theorem same_answers {R : V.State → V.State → Prop} {s t : V.State} {calls : List (Call V)}
    (hR : R s t)
    (hsame : ∀ c ∈ calls, ∀ s t, R s t → (V.answer t c).result = (V.answer s c).result ∧
      R (V.answer s c).state (V.answer t c).state) :
    V.answers t calls = V.answers s calls := by
  induction calls generalizing s t with
  | nil => rfl
  | cons c calls ih =>
      have hfirst := hsame c List.mem_cons_self s t hR
      exact List.cons_eq_cons.2
        ⟨hfirst.1, ih hfirst.2 fun c' hc' => hsame c' (List.mem_cons_of_mem c hc')⟩

end Service

end Async
end IdentityBillpay
