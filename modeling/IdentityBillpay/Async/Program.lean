import Mathlib.Control.Basic
import Mathlib.Data.List.Basic

/-!
# Program — asynchronous programs and what they do when run alone

An `async` function is a tree: it has settled, or it is suspended at an `await` and continues
with the value the awaited operation resolves to or with the error it is rejected with.

* `Program σ ε α` — programs over the operations of a `Signature`, with errors in `ε`;
* `Backend` — the shared state and what one awaited operation does to it;
* `Program.exec` — the run of one program with nobody else at work;
* `Program.Performed` — the states that a list of performed operations connects.
-/

namespace IdentityBillpay
namespace Async

/-- The operations a program can await, each with the type of value it resolves to. -/
structure Signature where
  Op : Type
  Res : Op → Type

/-- An asynchronous program: settled, or suspended at its next `await`. -/
inductive Program (σ : Signature) (ε α : Type) : Type
  | resolve (a : α)
  | reject (e : ε)
  | await (op : σ.Op) (k : Except ε (σ.Res op) → Program σ ε α)

namespace Program

variable {σ : Signature} {ε α β γ : Type}

/-- `f` runs once `p` has resolved; a rejection of `p` passes through. -/
def bind : Program σ ε α → (α → Program σ ε β) → Program σ ε β
  | .resolve a, f => f a
  | .reject e, _ => .reject e
  | .await op k, f => .await op fun r => (k r).bind f

/-- `try p catch h`. -/
def handle : Program σ ε α → (ε → Program σ ε α) → Program σ ε α
  | .resolve a, _ => .resolve a
  | .reject e, h => h e
  | .await op k, h => .await op fun r => (k r).handle h

/-- A settled program with the given outcome. -/
def settled : Except ε α → Program σ ε α
  | .ok a => .resolve a
  | .error e => .reject e

/-- `await op`: the operation's value, or its error thrown. -/
def call (op : σ.Op) : Program σ ε (σ.Res op) :=
  .await op settled

instance : Monad (Program σ ε) where
  pure := .resolve
  bind := bind

instance : MonadExceptOf ε (Program σ ε) where
  throw := .reject
  tryCatch := handle

@[simp] theorem pure_eq (a : α) : (pure a : Program σ ε α) = .resolve a := rfl

@[simp] theorem throw_eq (e : ε) : (throw e : Program σ ε α) = .reject e := rfl

@[simp] theorem tryCatch_eq (p : Program σ ε α) (h : ε → Program σ ε α) :
    tryCatch p h = p.handle h := rfl

@[simp] theorem resolve_bind (a : α) (f : α → Program σ ε β) :
    (Program.resolve a >>= f) = f a := rfl

@[simp] theorem reject_bind (e : ε) (f : α → Program σ ε β) :
    ((Program.reject e : Program σ ε α) >>= f) = .reject e := rfl

@[simp] theorem await_bind (op : σ.Op) (k : Except ε (σ.Res op) → Program σ ε α)
    (f : α → Program σ ε β) :
    (Program.await op k >>= f) = .await op fun r => k r >>= f := rfl

@[simp] theorem call_bind (op : σ.Op) (f : σ.Res op → Program σ ε β) :
    ((call op : Program σ ε _) >>= f) = .await op fun r => settled r >>= f := rfl

theorem bind_assoc' (p : Program σ ε α) (f : α → Program σ ε β) (g : β → Program σ ε γ) :
    (p.bind f).bind g = p.bind fun a => (f a).bind g := by
  induction p with
  | resolve a => rfl
  | reject e => rfl
  | await op k ih => exact congrArg (Program.await op) (funext fun r => ih r)

theorem bind_resolve (p : Program σ ε α) : p.bind .resolve = p := by
  induction p with
  | resolve a => rfl
  | reject e => rfl
  | await op k ih => exact congrArg (Program.await op) (funext fun r => ih r)

instance : LawfulMonad (Program σ ε) :=
  LawfulMonad.mk' _ bind_resolve (fun _ _ => rfl) bind_assoc'

@[simp] theorem settled_ok (a : α) : (settled (.ok a) : Program σ ε α) = .resolve a := rfl

@[simp] theorem settled_error (e : ε) : (settled (.error e) : Program σ ε α) = .reject e := rfl

end Program

/-! ## Running one program alone -/

/-- The shared state behind the operations. `Choice` is what the environment decides about one
operation (which of several rows is found, whether a write fails, what a remote party answers). -/
structure Backend (σ : Signature) (ε : Type) where
  State : Type
  Choice : Type
  perform : (op : σ.Op) → Choice → State → Except ε (σ.Res op) × State

/-- One settled `await`: the operation and its outcome. -/
structure Awaited (σ : Signature) (ε : Type) where
  op : σ.Op
  res : Except ε (σ.Res op)

instance {σ : Signature} {ε : Type} [DecidableEq σ.Op] [∀ op, DecidableEq (σ.Res op)]
    [DecidableEq ε] : DecidableEq (Awaited σ ε)
  | ⟨op, r⟩, ⟨op', r'⟩ =>
      if h : op = op' then
        match op', h, r' with
        | _, rfl, r' => decidable_of_iff (r = r') (by simp)
      else .isFalse fun heq => h (congrArg Awaited.op heq)

/-- What a finished run leaves: its outcome, what it awaited in order, and the state. -/
structure Outcome (σ : Signature) (ε : Type) (S α : Type) where
  result : Except ε α
  awaited : List (Awaited σ ε)
  state : S

namespace Program

variable {σ : Signature} {ε α β : Type} {B : Backend σ ε}

/-- Run `p` with nobody else at work; `choices n` is the environment's choice at its `n`-th
`await`. -/
def exec (B : Backend σ ε) :
    Program σ ε α → (Nat → B.Choice) → B.State → Outcome σ ε B.State α
  | .resolve a, _, s => ⟨.ok a, [], s⟩
  | .reject e, _, s => ⟨.error e, [], s⟩
  | .await op k, choices, s =>
      let r := B.perform op (choices 0) s
      let rest := exec B (k r.1) (fun n => choices (n + 1)) r.2
      { rest with awaited := ⟨op, r.1⟩ :: rest.awaited }

@[simp] theorem exec_resolve (a : α) (choices : Nat → B.Choice) (s : B.State) :
    exec B (.resolve a : Program σ ε α) choices s = ⟨.ok a, [], s⟩ := rfl

@[simp] theorem exec_reject (e : ε) (choices : Nat → B.Choice) (s : B.State) :
    exec B (.reject e : Program σ ε α) choices s = ⟨.error e, [], s⟩ := rfl

theorem exec_await (op : σ.Op) (k : Except ε (σ.Res op) → Program σ ε α)
    (choices : Nat → B.Choice) (s : B.State) :
    exec B (.await op k) choices s =
      let r := B.perform op (choices 0) s
      let rest := exec B (k r.1) (fun n => choices (n + 1)) r.2
      { rest with awaited := ⟨op, r.1⟩ :: rest.awaited } := rfl

theorem exec_await_state (op : σ.Op) (k : Except ε (σ.Res op) → Program σ ε α)
    (choices : Nat → B.Choice) (s : B.State) :
    (exec B (.await op k) choices s).state =
      (exec B (k (B.perform op (choices 0) s).1) (fun n => choices (n + 1))
        (B.perform op (choices 0) s).2).state := rfl

/-- A single call. -/
theorem exec_call (op : σ.Op) (choices : Nat → B.Choice) (s : B.State) :
    exec B (call op) choices s =
      ⟨(B.perform op (choices 0) s).1, [⟨op, (B.perform op (choices 0) s).1⟩],
        (B.perform op (choices 0) s).2⟩ := by
  change exec B (.await op settled) choices s = _
  cases h : (B.perform op (choices 0) s).1 with
  | ok a => simp [exec_await, h]
  | error e => simp [exec_await, h]

/-- A call that is answered, and the rest of the run. -/
theorem exec_call_bind {op : σ.Op} {f : σ.Res op → Program σ ε β} {choices : Nat → B.Choice}
    {s s' : B.State} {a : σ.Res op} (h : B.perform op (choices 0) s = (.ok a, s')) :
    exec B (call op >>= f) choices s =
      let rest := exec B (f a) (fun n => choices (n + 1)) s'
      { rest with awaited := ⟨op, .ok a⟩ :: rest.awaited } := by
  rw [call_bind, exec_await, h]
  rfl

/-- One part after the other: the second goes on with the choices the first has left. -/
theorem exec_bind_ok {p : Program σ ε α} {f : α → Program σ ε β} {choices : Nat → B.Choice}
    {s : B.State} {a : α} (h : (exec B p choices s).result = .ok a) :
    exec B (p >>= f) choices s =
      let rest := exec B (f a) (fun n => choices (n + (exec B p choices s).awaited.length))
        (exec B p choices s).state
      { rest with awaited := (exec B p choices s).awaited ++ rest.awaited } := by
  induction p generalizing choices s with
  | resolve b =>
      cases h
      rfl
  | reject e => cases h
  | await op k ih =>
      rw [await_bind, exec_await, exec_await]
      rw [exec_await] at h
      simp [ih _ h, Nat.add_assoc]

theorem exec_bind_error {p : Program σ ε α} {f : α → Program σ ε β} {choices : Nat → B.Choice}
    {s : B.State} {e : ε} (h : (exec B p choices s).result = .error e) :
    exec B (p >>= f) choices s =
      ⟨.error e, (exec B p choices s).awaited, (exec B p choices s).state⟩ := by
  induction p generalizing choices s with
  | resolve b => cases h
  | reject e' =>
      cases h
      rfl
  | await op k ih =>
      rw [await_bind, exec_await, exec_await]
      rw [exec_await] at h
      simp [ih _ h]

/-- `try p catch f` where `p` does not throw. -/
theorem exec_handle_ok {p : Program σ ε α} {f : ε → Program σ ε α} {choices : Nat → B.Choice}
    {s : B.State} {a : α} (h : (exec B p choices s).result = .ok a) :
    exec B (p.handle f) choices s = exec B p choices s := by
  induction p generalizing choices s with
  | resolve b => rfl
  | reject e => cases h
  | await op k ih =>
      rw [handle, exec_await, exec_await]
      rw [exec_await] at h
      simp [ih _ h]

/-- Where `p` throws, the handler goes on with the choices that `p` has left. -/
theorem exec_handle_error {p : Program σ ε α} {f : ε → Program σ ε α} {choices : Nat → B.Choice}
    {s : B.State} {e : ε} (h : (exec B p choices s).result = .error e) :
    exec B (p.handle f) choices s =
      let rest := exec B (f e) (fun n => choices (n + (exec B p choices s).awaited.length))
        (exec B p choices s).state
      { rest with awaited := (exec B p choices s).awaited ++ rest.awaited } := by
  induction p generalizing choices s with
  | resolve b => cases h
  | reject e' =>
      cases h
      rfl
  | await op k ih =>
      rw [handle, exec_await, exec_await]
      rw [exec_await] at h
      simp [ih _ h, Nat.add_assoc]

/-- The operations of a run, one after the other and each under its own choice, lead from the
first state to the second. -/
inductive Performed (B : Backend σ ε) :
    (Nat → B.Choice) → B.State → List (Awaited σ ε) → B.State → Prop
  | nil (choices : Nat → B.Choice) (s : B.State) : Performed B choices s [] s
  | cons {choices : Nat → B.Choice} {s s' : B.State} {op : σ.Op} {as : List (Awaited σ ε)}
      (h : Performed B (fun n => choices (n + 1)) (B.perform op (choices 0) s).2 as s') :
      Performed B choices s (⟨op, (B.perform op (choices 0) s).1⟩ :: as) s'

section Performed

variable {choices : Nat → B.Choice} {s s' : B.State} {as bs : List (Awaited σ ε)}

@[simp] theorem performed_nil : Performed B choices s [] s' ↔ s' = s := by
  constructor
  · intro h
    cases h with
    | nil => rfl
  · intro h
    subst h
    exact .nil _ _

theorem performed_cons {op : σ.Op} {r : Except ε (σ.Res op)} :
    Performed B choices s (⟨op, r⟩ :: as) s' ↔
      r = (B.perform op (choices 0) s).1 ∧
        Performed B (fun n => choices (n + 1)) (B.perform op (choices 0) s).2 as s' := by
  constructor
  · intro h
    cases h with
    | cons h => exact ⟨rfl, h⟩
  · intro h
    rcases h with ⟨rfl, h⟩
    exact .cons h

theorem performed_append :
    Performed B choices s (as ++ bs) s' ↔
      ∃ m, Performed B choices s as m ∧ Performed B (fun n => choices (n + as.length)) m bs s' := by
  induction as generalizing s choices with
  | nil => simp
  | cons a as ih =>
      rcases a with ⟨op, r⟩
      simp only [List.cons_append, performed_cons, ih, List.length_cons, Nat.add_assoc]
      constructor
      · intro h
        rcases h with ⟨hr, m, has, hbs⟩
        exact ⟨m, ⟨hr, has⟩, hbs⟩
      · intro h
        rcases h with ⟨m, ⟨hr, has⟩, hbs⟩
        exact ⟨hr, m, has, hbs⟩

/-- Each event is the outcome of its operation in the state the events before it lead to. -/
theorem Performed.outcome (h : Performed B choices s as s') {a : Awaited σ ε} (ha : a ∈ as) :
    ∃ before after m, as = before ++ a :: after ∧ Performed B choices s before m ∧
      a.res = (B.perform a.op (choices before.length) m).1 := by
  rcases List.append_of_mem ha with ⟨before, after, rfl⟩
  rcases performed_append.1 h with ⟨m, hbefore, hafter⟩
  have hres := (performed_cons.1 hafter).1
  rw [Nat.zero_add] at hres
  exact ⟨before, after, m, rfl, hbefore, hres⟩

/-- What no operation of a run changes is the same at its end. -/
theorem Performed.kept {γ : Type} (h : Performed B choices s as s') (view : B.State → γ)
    (hkeep : ∀ a ∈ as, ∀ ch m, view (B.perform a.op ch m).2 = view m) : view s' = view s := by
  induction h with
  | nil choices s => rfl
  | @cons choices s s' op as h ih =>
      have hfirst : view (B.perform op (choices 0) s).2 = view s := hkeep _ List.mem_cons_self _ _
      have hrest := ih fun a ha => hkeep a (List.mem_cons_of_mem _ ha)
      exact hrest.trans hfirst

/-- Operations that change nothing leave the state of the whole run as it was. -/
theorem Performed.unchanged (h : Performed B choices s as s')
    (hkeep : ∀ a ∈ as, ∀ ch m, (B.perform a.op ch m).2 = m) : s' = s :=
  h.kept id hkeep

/-- One more operation. -/
theorem Performed.concat (h : Performed B choices s as s') (op : σ.Op) (ch : B.Choice) :
    ∃ choices', Performed B choices' s (as ++ [⟨op, (B.perform op ch s').1⟩])
      (B.perform op ch s').2 := by
  induction h with
  | nil choices s => exact ⟨fun _ => ch, .cons (.nil _ _)⟩
  | @cons choices s s' op' as h ih =>
      rcases ih with ⟨rest, hrest⟩
      -- The first choice stays in front of those of the longer run.
      exact ⟨fun n => n.casesOn (choices 0) rest, .cons hrest⟩

end Performed

/-- A run alone performs what it awaited. -/
theorem exec_performed (p : Program σ ε α) (choices : Nat → B.Choice) (s : B.State) :
    Performed B choices s (exec B p choices s).awaited (exec B p choices s).state := by
  induction p generalizing choices s with
  | resolve a => exact .nil choices s
  | reject e => exact .nil choices s
  | await op k ih =>
      rw [exec_await]
      exact .cons (ih _ _ _)

end Program

end Async
end IdentityBillpay
