import IdentityBillpay.Async.Hoare
import IdentityBillpay.Async.Serial
import Mathlib.Data.List.Forall2

/-!
# Refinement — operations carried out by programs

A service is written over operations that are atomic. Here each of its operations is carried out by
a program over the operations of another backend, which others may interrupt at every one of them.
An abstraction of states relates the two levels.

* `Program.refine`, `Service.refine` — a program, and a service, with every operation replaced;
* `Carries` — a program does what an operation does, at one point of it;
* `Simulates` — where a refined program stands, as seen from above;
* `exec_refine`, `serve_refine` — one program alone, and requests that do not overlap;
* `run_refine` — every interleaving.
-/

namespace IdentityBillpay
namespace Async

variable {σ τ : Signature} {ε α β γ : Type}

namespace Program

/-- `k` goes on with the outcome of `p`. -/
def handOver : Program σ ε α → (Except ε α → Program σ ε β) → Program σ ε β
  | .resolve a, k => k (.ok a)
  | .reject e, k => k (.error e)
  | .await op f, k => .await op fun r => (f r).handOver k

/-- The operations of a program, each carried out by a program. -/
def refine (impl : (op : σ.Op) → Program τ ε (σ.Res op)) : Program σ ε α → Program τ ε α
  | .resolve a => .resolve a
  | .reject e => .reject e
  | .await op k => (impl op).handOver fun r => refine impl (k r)

variable {impl : (op : σ.Op) → Program τ ε (σ.Res op)}

@[simp] theorem refine_resolve (a : α) :
    (Program.resolve a : Program σ ε α).refine impl = .resolve a := rfl

@[simp] theorem refine_reject (e : ε) :
    (Program.reject e : Program σ ε α).refine impl = .reject e := rfl

theorem refine_await (op : σ.Op) (k : Except ε (σ.Res op) → Program σ ε α) :
    (Program.await op k).refine impl = (impl op).handOver fun r => (k r).refine impl := rfl

theorem handOver_settled (p : Program σ ε α) : p.handOver settled = p := by
  induction p with
  | resolve a => rfl
  | reject e => rfl
  | await op f ih => exact congrArg (Program.await op) (funext fun r => ih r)

theorem handOver_bind (p : Program σ ε γ) (k : Except ε γ → Program σ ε α)
    (f : α → Program σ ε β) :
    p.handOver k >>= f = p.handOver fun r => k r >>= f := by
  induction p with
  | resolve a => rfl
  | reject e => rfl
  | await op g ih => exact congrArg (Program.await op) (funext fun r => ih r)

theorem handOver_handle (p : Program σ ε γ) (k : Except ε γ → Program σ ε α)
    (f : ε → Program σ ε α) :
    (p.handOver k).handle f = p.handOver fun r => (k r).handle f := by
  induction p with
  | resolve a => rfl
  | reject e => rfl
  | await op g ih => exact congrArg (Program.await op) (funext fun r => ih r)

@[simp] theorem refine_settled (r : Except ε α) :
    (settled r : Program σ ε α).refine impl = settled r := by
  cases r with
  | ok a => rfl
  | error e => rfl

theorem refine_call (op : σ.Op) : (call op : Program σ ε _).refine impl = impl op := by
  have hsettled : (fun r => (settled r : Program σ ε (σ.Res op)).refine impl) = settled :=
    funext fun r => refine_settled r
  rw [call, refine_await, hsettled, handOver_settled]

theorem refine_bind (p : Program σ ε α) (f : α → Program σ ε β) :
    (p >>= f).refine impl = p.refine impl >>= fun a => (f a).refine impl := by
  induction p with
  | resolve a => rfl
  | reject e => rfl
  | await op k ih =>
      rw [await_bind, refine_await, refine_await, handOver_bind]
      exact congrArg (handOver (impl op)) (funext fun r => ih r)

theorem refine_handle (p : Program σ ε α) (f : ε → Program σ ε α) :
    (p.handle f).refine impl = (p.refine impl).handle fun e => (f e).refine impl := by
  induction p with
  | resolve a => rfl
  | reject e => rfl
  | await op k ih =>
      rw [handle, refine_await, refine_await, handOver_handle]
      exact congrArg (handOver (impl op)) (funext fun r => ih r)

end Program

open Program (Follows settled)

/-- The requests of `V`, over the operations of `C`. -/
abbrev Service.refine (V : Service σ ε) (C : Backend τ ε)
    (impl : (op : σ.Op) → Program τ ε (σ.Res op)) : Service τ ε where
  toBackend := C
  Request := V.Request
  Reply := V.Reply
  program r := (V.program r).refine impl

/-! ## Protocols -/

section Protocols

variable {P : List (Awaited τ ε) → τ.Op → Prop} {own : List (Awaited τ ε)}
  {impl : (op : σ.Op) → Program τ ε (σ.Res op)}

theorem follows_handOver {p : Program τ ε γ} {k : Except ε γ → Program τ ε α}
    (hp : Follows P (fun _ _ => True) own p)
    (hk : ∀ own r, Follows P (fun _ _ => True) own (k r)) :
    Follows P (fun _ _ => True) own (p.handOver k) := by
  induction p generalizing own with
  | resolve a => exact hk own _
  | reject e => exact hk own _
  | await op f ih => exact ⟨hp.1, fun r => ih r (hp.2 r)⟩

/-- A refined program follows the protocol that each of its operations follows. -/
theorem follows_refine (himpl : ∀ op own, Follows P (fun _ _ => True) own (impl op))
    (p : Program σ ε α) : Follows P (fun _ _ => True) own (p.refine impl) := by
  induction p generalizing own with
  | resolve a => trivial
  | reject e => trivial
  | await op k ih => exact follows_handOver (himpl op own) fun own r => ih r

end Protocols

/-- An invariant that each operation, running alone, restores. -/
theorem ensures_refine {C : Backend τ ε} {I : C.State → Prop}
    {impl : (op : σ.Op) → Program τ ε (σ.Res op)}
    (himpl : ∀ op s, I s → Ensures C (fun _ => True) (fun s' _ => I s') s (impl op))
    (p : Program σ ε α) {s : C.State} (hs : I s) :
    Ensures C (fun _ => True) (fun s' _ => I s') s (p.refine impl) := by
  have hhandOver : ∀ {γ : Type} {p : Program τ ε γ} {k : Except ε γ → Program τ ε α} {s : C.State},
      Ensures C (fun _ => True) (fun s' _ => I s') s p →
      (∀ s r, I s → Ensures C (fun _ => True) (fun s' _ => I s') s (k r)) →
      Ensures C (fun _ => True) (fun s' _ => I s') s (p.handOver k) := by
    intro γ p k s hp hk
    induction p generalizing s with
    | resolve a => exact hk s _ hp
    | reject e => exact hk s _ hp
    | await op f ih => exact fun ch => ⟨trivial, ih _ (hp ch).2⟩
  induction p generalizing s with
  | resolve a => exact hs
  | reject e => exact hs
  | await op k ih => exact hhandOver (himpl op s hs) fun s r h => ih r h

/-! ## Carrying out an operation -/

section Carries

variable (B : Backend σ ε) (C : Backend τ ε) (abs : C.State → B.State)

/-- Nothing of the rest of the program shows in the state, and it settles with `r`. -/
def Settles (r : Except ε γ) : Program τ ε γ → Prop
  | .resolve a => r = .ok a
  | .reject e => r = .error e
  | .await op k => ∀ ch s, abs (C.perform op ch s).2 = abs s ∧ Settles r (k (C.perform op ch s).1)

/-- One operation of the program has the effect of `op`; nothing of the others shows. -/
def Carries (op : σ.Op) : Program τ ε (σ.Res op) → Prop
  | .resolve _ => False
  | .reject _ => False
  | .await o k => ∀ ch s,
      (abs (C.perform o ch s).2 = abs s ∧ Carries op (k (C.perform o ch s).1)) ∨
      ∃ ch', (B.perform op ch' (abs s)).2 = abs (C.perform o ch s).2 ∧
        Settles B C abs (B.perform op ch' (abs s)).1 (k (C.perform o ch s).1)

end Carries

variable {B : Backend σ ε} {C : Backend τ ε} {abs : C.State → B.State}
  {impl : (op : σ.Op) → Program τ ε (σ.Res op)}

/-- Where the environments are not limited. -/
theorem Carries.free {op : σ.Op} {p : Program τ ε (σ.Res op)}
    (h : Carries (B.restrict fun _ => True) (C.restrict fun _ => True) abs op p) :
    Carries B C abs op p := by
  have hsettles : ∀ {r : Except ε (σ.Res op)} {p : Program τ ε (σ.Res op)},
      Settles (B.restrict fun _ => True) (C.restrict fun _ => True) abs r p →
        Settles B C abs r p := by
    intro r p h
    induction p with
    | resolve a => exact h
    | reject e => exact h
    | await o k ih => exact fun ch s => ⟨(h ⟨ch, trivial⟩ s).1, ih _ (h ⟨ch, trivial⟩ s).2⟩
  induction p with
  | resolve a => exact h
  | reject e => exact h
  | await o k ih =>
      intro ch s
      rcases h ⟨ch, trivial⟩ s with ⟨hsame, hrest⟩ | ⟨ch', hstate, hrest⟩
      · exact .inl ⟨hsame, ih _ hrest⟩
      · exact .inr ⟨ch'.1, hstate, hsettles hrest⟩

theorem settles_settled (r : Except ε γ) : Settles B C abs r (settled r) := by
  cases r with
  | ok a => rfl
  | error e => rfl

/-- An operation that both levels have. -/
theorem carries_call {op : σ.Op} {o : τ.Op} {f : Except ε (τ.Res o) → Except ε (σ.Res op)}
    (h : ∀ ch s, ∃ ch', (B.perform op ch' (abs s)).2 = abs (C.perform o ch s).2 ∧
      (B.perform op ch' (abs s)).1 = f (C.perform o ch s).1) :
    Carries B C abs op (.await o fun r => settled (f r)) := by
  intro ch s
  rcases h ch s with ⟨ch', hstate, hres⟩
  refine .inr ⟨ch', hstate, ?_⟩
  rw [hres]
  exact settles_settled _

/-- A program that carries out an operation has an operation to perform. -/
theorem Carries.handOver_ne_settled {op : σ.Op} {p : Program τ ε (σ.Res op)}
    (h : Carries B C abs op p) {k : Except ε (σ.Res op) → Program τ ε α} {r : Except ε α} :
    p.handOver k ≠ settled r := by
  intro hsettled
  cases p with
  | resolve a => exact h
  | reject e => exact h
  | await o k' =>
      cases r with
      | ok a => cases hsettled
      | error e => cases hsettled

/-! ## One program alone -/

theorem exec_settles {r : Except ε γ} {p : Program τ ε γ} (h : Settles B C abs r p)
    (f : Except ε γ → Program τ ε β) (choices : Nat → C.Choice) (s : C.State) :
    ∃ choices' s', abs s' = abs s ∧
      ((p.handOver f).exec C choices s).result = ((f r).exec C choices' s').result ∧
      ((p.handOver f).exec C choices s).state = ((f r).exec C choices' s').state := by
  induction p generalizing choices s with
  | resolve a =>
      cases h
      exact ⟨choices, s, rfl, rfl, rfl⟩
  | reject e =>
      cases h
      exact ⟨choices, s, rfl, rfl, rfl⟩
  | await o k ih =>
      rcases h (choices 0) s with ⟨hsame, hrest⟩
      rcases ih _ hrest (fun n => choices (n + 1)) (C.perform o (choices 0) s).2 with
        ⟨choices', s', habs, hresult, hstate⟩
      exact ⟨choices', s', habs.trans hsame, hresult, hstate⟩

theorem exec_carries {op : σ.Op} {p : Program τ ε (σ.Res op)} (h : Carries B C abs op p)
    (f : Except ε (σ.Res op) → Program τ ε β) (choices : Nat → C.Choice) (s : C.State) :
    ∃ ch choices' s', abs s' = (B.perform op ch (abs s)).2 ∧
      ((p.handOver f).exec C choices s).result =
        ((f (B.perform op ch (abs s)).1).exec C choices' s').result ∧
      ((p.handOver f).exec C choices s).state =
        ((f (B.perform op ch (abs s)).1).exec C choices' s').state := by
  induction p generalizing choices s with
  | resolve a => exact h.elim
  | reject e => exact h.elim
  | await o k ih =>
      rcases h (choices 0) s with ⟨hsame, hrest⟩ | ⟨ch, hstate, hrest⟩
      · rcases ih _ hrest (fun n => choices (n + 1)) (C.perform o (choices 0) s).2 with
          ⟨ch, choices', s', habs, hresult, hfinal⟩
        rw [hsame] at habs hresult hfinal
        exact ⟨ch, choices', s', habs, hresult, hfinal⟩
      · rcases exec_settles hrest f (fun n => choices (n + 1)) (C.perform o (choices 0) s).2 with
          ⟨choices', s', habs, hresult, hfinal⟩
        exact ⟨ch, choices', s', habs.trans hstate.symm, hresult, hfinal⟩

/-- A refined program does nothing, running alone, that the program could not do. -/
theorem exec_refine [Nonempty B.Choice] (himpl : ∀ op, Carries B C abs op (impl op))
    (p : Program σ ε α) (choices : Nat → C.Choice) (s : C.State) :
    ∃ choices', (p.exec B choices' (abs s)).result = ((p.refine impl).exec C choices s).result ∧
      (p.exec B choices' (abs s)).state = abs ((p.refine impl).exec C choices s).state := by
  induction p generalizing choices s with
  | resolve a => exact ⟨fun _ => Classical.choice inferInstance, rfl, rfl⟩
  | reject e => exact ⟨fun _ => Classical.choice inferInstance, rfl, rfl⟩
  | await op k ih =>
      rcases exec_carries (himpl op) (fun r => (k r).refine impl) choices s with
        ⟨ch, rest, s', habs, hresult, hstate⟩
      rcases ih (B.perform op ch (abs s)).1 rest s' with ⟨choices', hresult', hstate'⟩
      refine ⟨fun n => n.casesOn ch choices', ?_⟩
      rw [Program.refine_await, hresult, hstate, ← hresult', ← hstate', habs]
      exact ⟨rfl, rfl⟩

/-! ## Requests that do not overlap -/

theorem exec_restrict {limits : B.Choice → Prop} (p : Program σ ε α)
    (choices : Nat → (B.restrict limits).Choice) (s : B.State) :
    p.exec (B.restrict limits) choices s = p.exec B (fun n => (choices n).1) s := by
  induction p generalizing choices s with
  | resolve a => rfl
  | reject e => rfl
  | await op k ih =>
      have hrest := ih (B.perform op (choices 0).1 s).1 (fun n => choices (n + 1))
        (B.perform op (choices 0).1 s).2
      rw [Program.exec_await, Program.exec_await]
      dsimp only
      rw [hrest]

/-- Calls that are answered by refined programs are calls of the service: in the same order, to the
same effect, and under choices within its limits. -/
theorem serve_refine {V : Service σ ε} {abs : C.State → V.State} {limits : V.Choice → Prop}
    {limits' : C.Choice → Prop} (hlimits : ∃ ch, limits ch)
    (himpl : ∀ op, Carries (V.restrict limits) (C.restrict limits') abs op (impl op))
    (calls : List (Call (V.refine C impl))) (hcalls : ∀ c ∈ calls, ∀ n, limits' (c.choices n))
    (s : C.State) :
    ∃ calls' : List (Call V), calls'.map Call.request = calls.map Call.request ∧
      (∀ c ∈ calls', ∀ n, limits (c.choices n)) ∧
      V.serve (abs s) calls' = abs ((V.refine C impl).serve s calls) := by
  induction calls generalizing s with
  | nil => exact ⟨[], rfl, fun c hc => absurd hc List.not_mem_nil, rfl⟩
  | cons c calls ih =>
      have : Nonempty (V.restrict limits).Choice := nonempty_subtype.2 hlimits
      have hwithin : ∀ n, limits' (c.choices n) := hcalls c List.mem_cons_self
      rcases exec_refine himpl (V.program c.request) (fun n => ⟨c.choices n, hwithin n⟩) s with
        ⟨choices', _, hstate⟩
      rw [exec_restrict, exec_restrict] at hstate
      rcases ih (fun c' hc' => hcalls c' (List.mem_cons_of_mem c hc'))
        (((V.refine C impl).answer s c).state) with ⟨calls', hrequests, hall, hserve⟩
      refine ⟨⟨c.request, fun n => (choices' n).1⟩ :: calls', ?_, ?_, ?_⟩
      · rw [List.map_cons, List.map_cons, hrequests]
      · intro c' hc' n
        rcases List.mem_cons.1 hc' with rfl | hc'
        · exact (choices' n).2
        · exact hall c' hc' n
      · rw [Service.serve_cons, Service.serve_cons, ← hserve]
        exact congrArg (V.serve · calls') hstate

/-! ## Every interleaving -/

/-- Where a refined program stands: between two operations, or in the middle of one. -/
inductive Simulates (B : Backend σ ε) (C : Backend τ ε) (abs : C.State → B.State)
    (impl : (op : σ.Op) → Program τ ε (σ.Res op)) : Program τ ε α → Program σ ε α → Prop
  | between (p : Program σ ε α) : Simulates B C abs impl (p.refine impl) p
  | before {op : σ.Op} {p : Program τ ε (σ.Res op)} {k : Except ε (σ.Res op) → Program σ ε α}
      (h : Carries B C abs op p) :
      Simulates B C abs impl (p.handOver fun r => (k r).refine impl) (.await op k)
  | after {γ : Type} {r : Except ε γ} {p : Program τ ε γ} {k : Except ε γ → Program σ ε α}
      (h : Settles B C abs r p) :
      Simulates B C abs impl (p.handOver fun r => (k r).refine impl) (k r)

/-- One operation of a program that is carrying out `op`. -/
theorem simulates_before {op : σ.Op} {p : Program τ ε (σ.Res op)}
    {k : Except ε (σ.Res op) → Program σ ε α} (h : Carries B C abs op p) {o : τ.Op}
    {f : Except ε (τ.Res o) → Program τ ε α}
    (hp : (p.handOver fun r => (k r).refine impl) = .await o f) (ch : C.Choice) (s : C.State) :
    (abs (C.perform o ch s).2 = abs s ∧
      Simulates B C abs impl (f (C.perform o ch s).1) (.await op k)) ∨
    ∃ ch', (B.perform op ch' (abs s)).2 = abs (C.perform o ch s).2 ∧
      Simulates B C abs impl (f (C.perform o ch s).1) (k (B.perform op ch' (abs s)).1) := by
  cases p with
  | resolve a => exact h.elim
  | reject e => exact h.elim
  | await o' k' =>
      cases hp
      rcases h ch s with ⟨hsame, hrest⟩ | ⟨ch', hstate, hrest⟩
      · exact .inl ⟨hsame, .before hrest⟩
      · exact .inr ⟨ch', hstate, .after hrest⟩

/-- One operation of a program that stands between two operations. -/
theorem simulates_between (himpl : ∀ op, Carries B C abs op (impl op)) {p : Program σ ε α}
    {o : τ.Op} {f : Except ε (τ.Res o) → Program τ ε α} (hp : p.refine impl = .await o f)
    (ch : C.Choice) (s : C.State) :
    (abs (C.perform o ch s).2 = abs s ∧ Simulates B C abs impl (f (C.perform o ch s).1) p) ∨
    ∃ op k ch', p = .await op k ∧ (B.perform op ch' (abs s)).2 = abs (C.perform o ch s).2 ∧
      Simulates B C abs impl (f (C.perform o ch s).1) (k (B.perform op ch' (abs s)).1) := by
  cases p with
  | resolve a => cases hp
  | reject e => cases hp
  | await op k =>
      rcases simulates_before (himpl op) hp ch s with hstutter | ⟨ch', hstate, hrest⟩
      · exact .inl hstutter
      · exact .inr ⟨op, k, ch', rfl, hstate, hrest⟩

/-- One operation of a refined program is one of the program's, or does not show. -/
theorem Simulates.step (himpl : ∀ op, Carries B C abs op (impl op)) {o : τ.Op}
    {f : Except ε (τ.Res o) → Program τ ε α} {p : Program σ ε α}
    (h : Simulates B C abs impl (.await o f) p) (ch : C.Choice) (s : C.State) :
    (abs (C.perform o ch s).2 = abs s ∧ Simulates B C abs impl (f (C.perform o ch s).1) p) ∨
    ∃ op k ch', p = .await op k ∧ (B.perform op ch' (abs s)).2 = abs (C.perform o ch s).2 ∧
      Simulates B C abs impl (f (C.perform o ch s).1) (k (B.perform op ch' (abs s)).1) := by
  generalize hprog : Program.await o f = prog at h
  cases h with
  | between => exact simulates_between himpl hprog.symm ch s
  | @before op p k hcarries =>
      rcases simulates_before hcarries hprog.symm ch s with hstutter | ⟨ch', hstate, hrest⟩
      · exact .inl hstutter
      · exact .inr ⟨op, k, ch', rfl, hstate, hrest⟩
  | @after γ r p k hsettles =>
      cases p with
      -- The operation is over: the program stands before its next one.
      | resolve a =>
          cases hsettles
          exact simulates_between himpl hprog.symm ch s
      | reject e =>
          cases hsettles
          exact simulates_between himpl hprog.symm ch s
      | await o' k' =>
          cases hprog
          rcases hsettles ch s with ⟨hsame, hrest⟩
          exact .inl ⟨hsame, .after hrest⟩

theorem refine_eq_settled (himpl : ∀ op, Carries B C abs op (impl op)) {p : Program σ ε α}
    {r : Except ε α} (h : p.refine impl = settled r) : p = settled r := by
  cases p with
  | resolve a =>
      cases r with
      | ok b =>
          cases h
          rfl
      | error e => cases h
  | reject e =>
      cases r with
      | ok b => cases h
      | error e' =>
          cases h
          rfl
  | await op k => exact absurd h (himpl op).handOver_ne_settled

/-- A refined program that has settled has settled as the program has. -/
theorem Simulates.settled (himpl : ∀ op, Carries B C abs op (impl op)) {p : Program σ ε α}
    {r : Except ε α} (h : Simulates B C abs impl (settled r) p) : p = settled r := by
  generalize hprog : Program.settled r = prog at h
  cases h with
  | between => exact refine_eq_settled himpl hprog.symm
  | before hcarries => exact absurd hprog.symm hcarries.handOver_ne_settled
  | @after γ r' p k hsettles =>
      cases p with
      | resolve a =>
          cases hsettles
          exact refine_eq_settled himpl hprog.symm
      | reject e =>
          cases hsettles
          exact refine_eq_settled himpl hprog.symm
      | await o' k' =>
          cases r with
          | ok a => cases hprog
          | error e => cases hprog

/-- A pointwise relation, after both lists have changed at one place. -/
theorem forall₂_set {R : α → β → Prop} {l : List α} {l' : List β} (h : List.Forall₂ R l l')
    {a : α} {b : β} (hab : R a b) (i : Nat) : List.Forall₂ R (l.set i a) (l'.set i b) := by
  induction h generalizing i with
  | nil => exact .nil
  | cons hhead htail ih =>
      cases i with
      | zero => exact .cons hab htail
      | succ i => exact .cons hhead (ih i)

namespace Config

variable {V : Service σ ε} {abs : C.State → V.State}

/-- The refined configuration `c`, seen from above, is `a`. -/
structure Mirrors (abs : C.State → V.State) (c : Config (V.refine C impl)) (a : Config V) :
    Prop where
  requests : a.requests = c.requests
  state : a.state = abs c.state
  pool : List.Forall₂ (Simulates V.toBackend C abs impl) c.pool a.pool

theorem mirrors_initial (s : C.State) :
    Mirrors abs (initial (V.refine C impl) s) (initial V (abs s)) :=
  ⟨rfl, rfl, .nil⟩

theorem Mirrors.start {c : Config (V.refine C impl)} {a : Config V} (h : Mirrors abs c a)
    (r : V.Request) : Mirrors abs (c.next (.start r)) (a.next (.start r)) := by
  refine ⟨congrArg (· ++ [r]) h.requests, h.state, ?_⟩
  exact List.rel_append h.pool (.cons (.between _) .nil)

theorem Mirrors.resume (himpl : ∀ op, Carries V.toBackend C abs op (impl op))
    {c : Config (V.refine C impl)} {a : Config V} (h : Mirrors abs c a) (i : Nat)
    (ch : C.Choice) : ∃ as, Mirrors abs (c.next (.resume i ch)) (a.run as) := by
  rcases next_resume_cases c i ch with ⟨hsame, _⟩ | ⟨o, f, hi, _, hnext⟩
  · rw [hsame]
    exact ⟨[], h⟩
  · rcases List.getElem?_eq_some_iff.1 hi with ⟨hlt, hprog⟩
    have hlt' : i < a.pool.length := h.pool.length_eq ▸ hlt
    have hsim := h.pool.get hlt hlt'
    simp only [List.get_eq_getElem, hprog] at hsim
    rw [hnext]
    rcases hsim.step himpl ch c.state with ⟨hsame, hrest⟩ | ⟨op, k, ch', hop, hstate, hrest⟩
    · -- Nothing shows.
      refine ⟨[], h.requests, h.state.trans hsame.symm, ?_⟩
      have hpool := forall₂_set h.pool hrest i
      rwa [List.set_getElem_self] at hpool
    · have hi' : a.pool[i]? = some (.await op k) := List.getElem?_eq_some_iff.2 ⟨hlt', hop⟩
      rw [← h.state] at hstate hrest
      refine ⟨[.resume i ch'], ?_⟩
      rw [run_cons, run_nil, next, hi']
      exact ⟨h.requests, hstate, forall₂_set h.pool hrest i⟩

/-- Every run of the refined service, seen from above, is a run of the service. -/
theorem run_refine (himpl : ∀ op, Carries V.toBackend C abs op (impl op)) (s : C.State)
    (as : List (Action (V.refine C impl))) :
    ∃ as', Mirrors abs ((initial (V.refine C impl) s).run as) ((initial V (abs s)).run as') := by
  have hstep : ∀ (c : Config (V.refine C impl)) (a : Config V), Mirrors abs c a →
      ∃ as', Mirrors abs (c.run as) (a.run as') := by
    induction as with
    | nil => exact fun c a h => ⟨[], h⟩
    | cons act as ih =>
        intro c a h
        cases act with
        | start r =>
            rcases ih _ _ (h.start r) with ⟨rest, hrest⟩
            exact ⟨.start r :: rest, hrest⟩
        | resume i ch =>
            rcases h.resume himpl i ch with ⟨first, hfirst⟩
            rcases ih _ _ hfirst with ⟨rest, hrest⟩
            refine ⟨first ++ rest, ?_⟩
            rw [run_append]
            exact hrest
  exact hstep _ _ (mirrors_initial s)

/-- The requests that have settled have settled alike. -/
theorem Mirrors.settled (himpl : ∀ op, Carries V.toBackend C abs op (impl op))
    {c : Config (V.refine C impl)} {a : Config V} (h : Mirrors abs c a) {i : Nat}
    {r : Except ε V.Reply} (hi : c.pool[i]? = some (Program.settled r)) :
    a.pool[i]? = some (Program.settled r) := by
  rcases List.getElem?_eq_some_iff.1 hi with ⟨hlt, hprog⟩
  have hlt' : i < a.pool.length := h.pool.length_eq ▸ hlt
  have hsim := h.pool.get hlt hlt'
  simp only [List.get_eq_getElem, hprog] at hsim
  exact List.getElem?_eq_some_iff.2 ⟨hlt', hsim.settled himpl⟩

end Config

end Async
end IdentityBillpay
