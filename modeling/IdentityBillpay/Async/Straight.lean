import IdentityBillpay.Async.Protocol

/-!
# Straight — programs that stop at the first call that fails

A program without handlers makes its calls one after the other. It goes through when all of them
are answered, and otherwise ends with the error of the first one that fails.

* `Unfailing` — no call has failed;
* `Straight B limits J Q` — the contract, for environments that decide within limits: `J` at every
  call, `Q` in the end;
* `Straight.mono`, `Straight.bind`, `straight_call`, `straight_call_bind` — one rule a construct;
* `Straight.exec`, `Straight.exec_unfailing`, `Straight.exec_failed` — the two ways a run can end.
-/

namespace IdentityBillpay
namespace Async

open Program

variable {σ : Signature} {ε α β : Type}

def Unfailing (own : List (Awaited σ ε)) : Prop :=
  ∀ a ∈ own, a.res.isOk = true

instance (own : List (Awaited σ ε)) : Decidable (Unfailing own) :=
  inferInstanceAs (Decidable (∀ a ∈ own, _))

@[simp] theorem unfailing_nil : Unfailing ([] : List (Awaited σ ε)) :=
  fun _ ha => absurd ha List.not_mem_nil

theorem unfailing_append {own more : List (Awaited σ ε)} :
    Unfailing (own ++ more) ↔ Unfailing own ∧ Unfailing more := by
  simp only [Unfailing, List.mem_append]
  constructor
  · intro h
    exact ⟨fun a ha => h a (.inl ha), fun a ha => h a (.inr ha)⟩
  · intro h a ha
    rcases ha with ha | ha
    · exact h.1 a ha
    · exact h.2 a ha

@[simp] theorem unfailing_ok {op : σ.Op} {a : σ.Res op} :
    Unfailing [(⟨op, .ok a⟩ : Awaited σ ε)] := by
  intro b hb
  rw [List.mem_singleton.1 hb]
  rfl

@[simp] theorem not_unfailing_error {op : σ.Op} {e : ε} :
    ¬ Unfailing [(⟨op, .error e⟩ : Awaited σ ε)] := by
  intro h
  have hok := h _ (List.mem_singleton_self _)
  cases hok

/-- Every call is made where `J` holds of what has been awaited, of the state and of the call; one
that fails ends the program; and the program settles where `Q` holds. What the environment decides
about a call is within the limits. -/
def Straight (B : Backend σ ε) (limits : B.Choice → Prop) (J : List (Awaited σ ε) → B.State → σ.Op → Prop)
    (Q : List (Awaited σ ε) → B.State → Except ε α → Prop) :
    List (Awaited σ ε) → B.State → Program σ ε α → Prop
  | own, s, .resolve a => Q own s (.ok a)
  | own, s, .reject e => Q own s (.error e)
  | own, s, .await op k =>
      J own s op ∧ (∀ e, k (.error e) = .reject e) ∧
        ∀ ch a s', limits ch → B.perform op ch s = (.ok a, s') →
          Straight B limits J Q (own ++ [⟨op, .ok a⟩]) s' (k (.ok a))

section Rules

variable {B : Backend σ ε} {limits : B.Choice → Prop} {J J' : List (Awaited σ ε) → B.State → σ.Op → Prop}
  {Q Q' : List (Awaited σ ε) → B.State → Except ε α → Prop}
  {R : List (Awaited σ ε) → B.State → Except ε β → Prop}
  {own : List (Awaited σ ε)} {s : B.State}

@[simp] theorem straight_resolve {a : α} :
    Straight B limits J Q own s (.resolve a) ↔ Q own s (.ok a) := Iff.rfl

@[simp] theorem straight_reject {e : ε} :
    Straight B limits J Q own s (.reject e : Program σ ε α) ↔ Q own s (.error e) := Iff.rfl

@[simp] theorem straight_settled {r : Except ε α} :
    Straight B limits J Q own s (settled r) ↔ Q own s r := by
  cases r with
  | ok a => exact Iff.rfl
  | error e => exact Iff.rfl

theorem Straight.mono {p : Program σ ε α} (hp : Straight B limits J Q own s p)
    (hJ : ∀ own s op, J own s op → J' own s op) (hQ : ∀ own s r, Q own s r → Q' own s r) :
    Straight B limits J' Q' own s p := by
  induction p generalizing own s with
  | resolve a => exact hQ _ _ _ hp
  | reject e => exact hQ _ _ _ hp
  | await op k ih =>
      rcases hp with ⟨hcall, hstop, hnext⟩
      exact ⟨hJ _ _ _ hcall, hstop, fun ch a s' hch hdone => ih _ (hnext ch a s' hch hdone)⟩

theorem Straight.bind {p : Program σ ε α} {f : α → Program σ ε β} (hp : Straight B limits J Q own s p)
    (hok : ∀ own s a, Q own s (.ok a) → Straight B limits J R own s (f a))
    (herr : ∀ own s e, Q own s (.error e) → R own s (.error e)) :
    Straight B limits J R own s (p >>= f) := by
  induction p generalizing own s with
  | resolve a => exact hok _ _ _ hp
  | reject e => exact herr _ _ _ hp
  | await op k ih =>
      rcases hp with ⟨hcall, hstop, hnext⟩
      refine ⟨hcall, ?_, fun ch a s' hch hdone => ih _ (hnext ch a s' hch hdone)⟩
      -- A failing call ends the first program, and with it the whole.
      intro e
      exact congrArg (fun p : Program σ ε α => p.bind f) (hstop e)

/-- A contract, together with a protocol that does not depend on the state. -/
theorem Straight.follows {P : List (Awaited σ ε) → σ.Op → Prop}
    {E : List (Awaited σ ε) → Except ε α → Prop} {p : Program σ ε α}
    (hp : Straight B limits J Q own s p) (hfollows : Follows P E own p) :
    Straight B limits (fun own s op => J own s op ∧ P own op) (fun own s r => Q own s r ∧ E own r)
      own s p := by
  induction p generalizing own s with
  | resolve a => exact ⟨hp, hfollows⟩
  | reject e => exact ⟨hp, hfollows⟩
  | await op k ih =>
      rcases hp with ⟨hcall, hstop, hnext⟩
      exact ⟨⟨hcall, hfollows.1⟩, hstop,
        fun ch a s' hch hdone => ih _ (hnext ch a s' hch hdone) (hfollows.2 (.ok a))⟩

/-- A program and what is made of its value. -/
theorem Straight.map {p : Program σ ε α} {f : α → β} (hp : Straight B limits J Q own s p)
    (hend : ∀ own s r, Q own s r → R own s (r.map f)) :
    Straight B limits J R own s (p >>= fun a => pure (f a)) :=
  hp.bind (fun own s a h => hend own s (.ok a) h) fun own s e h => hend own s (.error e) h

theorem straight_call {op : σ.Op} {Q : List (Awaited σ ε) → B.State → Except ε (σ.Res op) → Prop}
    (hcall : J own s op)
    (hok : ∀ ch a s', limits ch → B.perform op ch s = (.ok a, s') →
      Q (own ++ [⟨op, .ok a⟩]) s' (.ok a)) :
    Straight B limits J Q own s (call op) :=
  ⟨hcall, fun _ => rfl, hok⟩

theorem straight_call_bind {op : σ.Op} {f : σ.Res op → Program σ ε β} (hcall : J own s op)
    (hok : ∀ ch a s', limits ch → B.perform op ch s = (.ok a, s') →
      Straight B limits J R (own ++ [⟨op, .ok a⟩]) s' (f a)) :
    Straight B limits J R own s (call op >>= f) :=
  ⟨hcall, fun _ => rfl, hok⟩

end Rules

/-- How a run of a straight program ends. -/
inductive Stop (B : Backend σ ε) (J : List (Awaited σ ε) → B.State → σ.Op → Prop)
    (Q : List (Awaited σ ε) → B.State → Except ε α → Prop) (choices : Nat → B.Choice) :
    List (Awaited σ ε) → B.State → Except ε α → Prop
  /-- Every call was answered. -/
  | through {own : List (Awaited σ ε)} {s : B.State} {r : Except ε α} (hown : Unfailing own)
      (hend : Q own s r) : Stop B J Q choices own s r
  /-- One call failed, and it was the last one. -/
  | failed {before : List (Awaited σ ε)} {op : σ.Op} {e : ε} {m s : B.State}
      (hown : Unfailing before) (hcall : J before m op)
      (hperform : B.perform op (choices before.length) m = (.error e, s)) :
      Stop B J Q choices (before ++ [⟨op, .error e⟩]) s (.error e)

/-- A run goes through or stops at its first failing call. -/
theorem Straight.exec_from {B : Backend σ ε} {limits : B.Choice → Prop}
    {J : List (Awaited σ ε) → B.State → σ.Op → Prop}
    {Q : List (Awaited σ ε) → B.State → Except ε α → Prop} {own : List (Awaited σ ε)}
    {s : B.State} {p : Program σ ε α} (hp : Straight B limits J Q own s p) (hown : Unfailing own)
    {choices : Nat → B.Choice} (hchoices : ∀ n, limits (choices n)) :
    Stop B J Q choices
      (own ++ (p.exec B (fun n => choices (own.length + n)) s).awaited)
      (p.exec B (fun n => choices (own.length + n)) s).state
      (p.exec B (fun n => choices (own.length + n)) s).result := by
  induction p generalizing own s with
  | resolve a =>
      rw [exec_resolve, List.append_nil]
      exact .through hown hp
  | reject e =>
      rw [exec_reject, List.append_nil]
      exact .through hown hp
  | await op k ih =>
      rcases hp with ⟨hcall, hstop, hnext⟩
      rw [exec_await]
      cases hperform : B.perform op (choices (own.length + 0)) s with
      | mk res s' =>
          cases res with
          | error e =>
              dsimp only
              rw [hstop e, exec_reject]
              exact .failed hown hcall hperform
          | ok a =>
              have hmore : Unfailing (own ++ [(⟨op, .ok a⟩ : Awaited σ ε)]) :=
                unfailing_append.2 ⟨hown, unfailing_ok⟩
              have hrest := ih (.ok a) (hnext _ a s' (hchoices _) hperform) hmore
              -- The choices go on where the longer trace ends.
              have hshift : (fun n => choices ((own ++ [(⟨op, .ok a⟩ : Awaited σ ε)]).length + n)) =
                  fun n => choices (own.length + (n + 1)) := by
                funext n
                rw [List.length_append, List.length_singleton, Nat.add_assoc, Nat.add_comm 1 n]
              rw [hshift] at hrest
              simpa [hperform] using hrest

theorem Straight.exec {B : Backend σ ε} {limits : B.Choice → Prop}
    {J : List (Awaited σ ε) → B.State → σ.Op → Prop}
    {Q : List (Awaited σ ε) → B.State → Except ε α → Prop} {s : B.State} {p : Program σ ε α}
    (hp : Straight B limits J Q [] s p) {choices : Nat → B.Choice}
    (hchoices : ∀ n, limits (choices n)) :
    Stop B J Q choices (p.exec B choices s).awaited (p.exec B choices s).state
      (p.exec B choices s).result := by
  have hstop := hp.exec_from unfailing_nil hchoices
  simpa using hstop

/-- When no call of the run has failed, it went through. -/
theorem Straight.exec_unfailing {B : Backend σ ε} {limits : B.Choice → Prop}
    {J : List (Awaited σ ε) → B.State → σ.Op → Prop}
    {Q : List (Awaited σ ε) → B.State → Except ε α → Prop} {s : B.State} {p : Program σ ε α}
    (hp : Straight B limits J Q [] s p) {choices : Nat → B.Choice}
    (hchoices : ∀ n, limits (choices n)) (hown : Unfailing (p.exec B choices s).awaited) :
    Q (p.exec B choices s).awaited (p.exec B choices s).state (p.exec B choices s).result := by
  have hstop := hp.exec hchoices
  generalize p.exec B choices s = outcome at hown hstop ⊢
  rcases outcome with ⟨result, awaited, state⟩
  cases hstop with
  | through _ hend => exact hend
  | failed _ _ _ => exact absurd (unfailing_append.1 hown).2 not_unfailing_error

/-- A run with a value went through. -/
theorem Straight.exec_value {B : Backend σ ε} {limits : B.Choice → Prop}
    {J : List (Awaited σ ε) → B.State → σ.Op → Prop}
    {Q : List (Awaited σ ε) → B.State → Except ε α → Prop} {s : B.State} {p : Program σ ε α}
    (hp : Straight B limits J Q [] s p) {choices : Nat → B.Choice}
    (hchoices : ∀ n, limits (choices n)) (hok : (p.exec B choices s).result.isOk = true) :
    Q (p.exec B choices s).awaited (p.exec B choices s).state (p.exec B choices s).result := by
  have hstop := hp.exec hchoices
  generalize p.exec B choices s = outcome at hok hstop ⊢
  rcases outcome with ⟨result, awaited, state⟩
  cases hstop with
  | through _ hend => exact hend
  | failed _ _ _ => cases hok

/-- The same for a program and what is made of its value. -/
theorem Straight.exec_reply {B : Backend σ ε} {J : List (Awaited σ ε) → B.State → σ.Op → Prop}
    {Q : List (Awaited σ ε) → B.State → Except ε α → Prop} {s : B.State} {p : Program σ ε α}
    {f : α → β} (hp : Straight B (fun _ => True) J Q [] s p) {choices : Nat → B.Choice}
    (hown : Unfailing ((p >>= fun a => pure (f a)).exec B choices s).awaited) :
    ∃ r, Q ((p >>= fun a => pure (f a)).exec B choices s).awaited
        ((p >>= fun a => pure (f a)).exec B choices s).state r ∧
      ((p >>= fun a => pure (f a)).exec B choices s).result = r.map f := by
  have hmap : Straight B (fun _ => True) J (fun own s r' => ∃ r, Q own s r ∧ r' = r.map f) [] s
      (p >>= fun a => pure (f a)) := hp.map fun _ _ r hr => ⟨r, hr, rfl⟩
  exact hmap.exec_unfailing (fun _ => trivial) hown

/-- What holds wherever a call fails and wherever the program ends, holds after every run. -/
theorem Straight.exec_state {B : Backend σ ε} {J : List (Awaited σ ε) → B.State → σ.Op → Prop}
    {Q : List (Awaited σ ε) → B.State → Except ε α → Prop} {s : B.State} {p : Program σ ε α}
    {f : α → β} {R : B.State → Prop} (hp : Straight B (fun _ => True) J Q [] s p)
    (hfailed : ∀ own m op, J own m op → ∀ ch e m', B.perform op ch m = (.error e, m') → R m')
    (hend : ∀ own m r, Q own m r → R m) (choices : Nat → B.Choice) :
    R ((p >>= fun a => pure (f a)).exec B choices s).state := by
  have hmap : Straight B (fun _ => True) J (fun _ m _ => R m) [] s (p >>= fun a => pure (f a)) :=
    hp.map fun own m r hr => hend own m r hr
  have hstop : Stop B J (fun _ m _ => R m) choices _ _ _ := hmap.exec fun _ => trivial
  generalize (p >>= fun a => pure (f a)).exec B choices s = outcome at hstop ⊢
  rcases outcome with ⟨result, awaited, state⟩
  cases hstop with
  | through _ hend => exact hend
  | failed _ hcall hperform => exact hfailed _ _ _ hcall _ _ _ hperform

/-- When a call of the run has failed, it was the last one. -/
theorem Straight.exec_failed {B : Backend σ ε} {limits : B.Choice → Prop}
    {J : List (Awaited σ ε) → B.State → σ.Op → Prop}
    {Q : List (Awaited σ ε) → B.State → Except ε α → Prop} {s : B.State} {p : Program σ ε α}
    (hp : Straight B limits J Q [] s p) {choices : Nat → B.Choice}
    (hchoices : ∀ n, limits (choices n)) {n : Nat} {a : Awaited σ ε}
    (ha : (p.exec B choices s).awaited[n]? = some a) (hfailed : a.res.isOk = false) :
    ∃ before op e m, before.length = n ∧ Unfailing before ∧ J before m op ∧
      (p.exec B choices s).awaited = before ++ [⟨op, .error e⟩] ∧
      B.perform op (choices n) m = (.error e, (p.exec B choices s).state) ∧
      (p.exec B choices s).result = .error e := by
  have hstop := hp.exec hchoices
  generalize p.exec B choices s = outcome at ha hstop ⊢
  rcases outcome with ⟨result, awaited, state⟩
  dsimp only at ha hstop ⊢
  -- The call that failed is not among the ones before it.
  have hno : ∀ own : List (Awaited σ ε), Unfailing own → a ∉ own := by
    intro own hown hmem
    simp [hown a hmem] at hfailed
  cases hstop with
  | through hown hend => exact absurd (List.mem_of_getElem? ha) (hno _ hown)
  | @failed before op e m s hown hcall hperform =>
      have hlen : before.length = n := by
        by_cases hlt : n < before.length
        · rw [List.getElem?_append_left hlt] at ha
          exact absurd (List.mem_of_getElem? ha) (hno _ hown)
        · have hle := (List.getElem?_eq_some_iff.1 ha).1
          simp only [List.length_append, List.length_singleton] at hle
          omega
      subst hlen
      exact ⟨before, op, e, m, rfl, hown, hcall, rfl, hperform, rfl⟩

end Async
end IdentityBillpay
