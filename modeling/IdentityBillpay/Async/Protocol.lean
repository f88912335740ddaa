import IdentityBillpay.Async.Interleaving
import Mathlib.Data.List.Chain

/-!
# Protocol — what a program may await next, and induction over interleaved runs

A protocol says which operation a request may await after the events it has already seen. It is
checked once per program, by structural recursion (`Program.Follows`). `Config.run_induction` then
reduces a property of every interleaving to one step: some request performs an operation that its
protocol allows. Programs and their continuations no longer occur in that step.
-/

namespace IdentityBillpay
namespace Async

variable {σ : Signature} {ε α β : Type}

namespace Program

/-- After the events `own`, each further operation of the program is allowed by `P`, and it can
only settle in an outcome that satisfies `Q`. -/
def Follows (P : List (Awaited σ ε) → σ.Op → Prop)
    (Q : List (Awaited σ ε) → Except ε α → Prop) :
    List (Awaited σ ε) → Program σ ε α → Prop
  | own, .resolve a => Q own (.ok a)
  | own, .reject e => Q own (.error e)
  | own, .await op k => P own op ∧ ∀ r, Follows P Q (own ++ [⟨op, r⟩]) (k r)

variable {P : List (Awaited σ ε) → σ.Op → Prop}
  {Q : List (Awaited σ ε) → Except ε α → Prop} {own : List (Awaited σ ε)}

@[simp] theorem follows_resolve {a : α} :
    Follows P Q own (.resolve a) ↔ Q own (.ok a) := Iff.rfl

@[simp] theorem follows_reject {e : ε} :
    Follows P Q own (.reject e : Program σ ε α) ↔ Q own (.error e) := Iff.rfl

@[simp] theorem follows_await {op : σ.Op} {k : Except ε (σ.Res op) → Program σ ε α} :
    Follows P Q own (.await op k) ↔ P own op ∧ ∀ r, Follows P Q (own ++ [⟨op, r⟩]) (k r) :=
  Iff.rfl

@[simp] theorem follows_settled {r : Except ε α} : Follows P Q own (settled r) ↔ Q own r := by
  cases r with
  | ok a => exact Iff.rfl
  | error e => exact Iff.rfl

/-- The rule for `await`ing one operation. -/
theorem follows_call_bind {op : σ.Op} {f : σ.Res op → Program σ ε α} (hop : P own op)
    (herr : ∀ e, Q (own ++ [⟨op, .error e⟩]) (.error e))
    (hok : ∀ a, Follows P Q (own ++ [⟨op, .ok a⟩]) (f a)) :
    Follows P Q own (call op >>= f) := by
  refine ⟨hop, ?_⟩
  intro r
  cases r with
  | error e => exact herr e
  | ok a => exact hok a

/-- The rule for a check that may throw. -/
theorem follows_settled_bind {r : Except ε β} {f : β → Program σ ε α}
    (herr : ∀ e, r = .error e → Q own (.error e))
    (hok : ∀ b, r = .ok b → Follows P Q own (f b)) : Follows P Q own (settled r >>= f) := by
  cases hr : r with
  | error e => exact herr e hr
  | ok b => exact hok b hr

/-- Where a program stands: at its end, or at its next operation. -/
theorem Follows.cases {p : Program σ ε α} (h : Follows P Q own p) :
    (∃ r, p = settled r ∧ Q own r) ∨ ∃ op, P own op := by
  cases p with
  | resolve a => exact .inl ⟨.ok a, rfl, h⟩
  | reject e => exact .inl ⟨.error e, rfl, h⟩
  | await op k => exact .inr ⟨op, h.1⟩

theorem Follows.mono {P' : List (Awaited σ ε) → σ.Op → Prop}
    {Q' : List (Awaited σ ε) → Except ε α → Prop} {p : Program σ ε α}
    (h : Follows P Q own p) (hP : ∀ own op, P own op → P' own op)
    (hQ : ∀ own r, Q own r → Q' own r) : Follows P' Q' own p := by
  induction p generalizing own with
  | resolve a => exact hQ _ _ h
  | reject e => exact hQ _ _ h
  | await op k ih => exact ⟨hP _ _ h.1, fun r => ih r (h.2 r)⟩

/-- Sequencing: the rest of a program follows the protocol from wherever the first part settles. -/
theorem Follows.bind {Q' : List (Awaited σ ε) → Except ε β → Prop} {p : Program σ ε α}
    {f : α → Program σ ε β} (h : Follows P Q own p)
    (hok : ∀ own a, Q own (.ok a) → Follows P Q' own (f a))
    (herr : ∀ own e, Q own (.error e) → Q' own (.error e)) :
    Follows P Q' own (p >>= f) := by
  induction p generalizing own with
  | resolve a => exact hok _ _ h
  | reject e => exact herr _ _ h
  | await op k ih => exact ⟨h.1, fun r => ih r (h.2 r)⟩

/-- A program that starts after other events. -/
theorem Follows.prepend {p : Program σ ε α} (h : Follows P Q own p)
    (before : List (Awaited σ ε)) :
    Follows (fun own' op => ∃ rest, own' = before ++ rest ∧ P rest op)
      (fun own' r => ∃ rest, own' = before ++ rest ∧ Q rest r) (before ++ own) p := by
  induction p generalizing own with
  | resolve a => exact ⟨own, rfl, h⟩
  | reject e => exact ⟨own, rfl, h⟩
  | await op k ih =>
      refine ⟨⟨own, rfl, h.1⟩, fun r => ?_⟩
      rw [List.append_assoc]
      exact ih r (h.2 r)

/-- Where only the kind of each operation matters, a program adds operations of the kind. -/
theorem Follows.extends {A : σ.Op → Prop} {p : Program σ ε α}
    (h : Follows (fun _ op => A op) Q own p) :
    Follows (fun _ op => A op)
      (fun own' r => Q own' r ∧ ∃ more, own' = own ++ more ∧ ∀ a ∈ more, A a.op) own p := by
  induction p generalizing own with
  | resolve a => exact ⟨h, [], by simp, fun a ha => absurd ha List.not_mem_nil⟩
  | reject e => exact ⟨h, [], by simp, fun a ha => absurd ha List.not_mem_nil⟩
  | await op k ih =>
      refine ⟨h.1, fun r => (ih r (h.2 r)).mono (fun _ _ hop => hop) ?_⟩
      intro own' r' hr
      rcases hr with ⟨hQ, more, hown, hkind⟩
      refine ⟨hQ, ⟨op, r⟩ :: more, by simp [hown], fun a ha => ?_⟩
      rcases List.mem_cons.1 ha with rfl | ha
      · exact h.1
      · exact hkind a ha

/-- `try p catch f`: the handler follows the protocol from wherever `p` throws. -/
theorem Follows.handle {Q' : List (Awaited σ ε) → Except ε α → Prop} {p : Program σ ε α}
    {f : ε → Program σ ε α} (h : Follows P Q own p)
    (hok : ∀ own a, Q own (.ok a) → Q' own (.ok a))
    (herr : ∀ own e, Q own (.error e) → Follows P Q' own (f e)) :
    Follows P Q' own (p.handle f) := by
  induction p generalizing own with
  | resolve a => exact hok _ _ h
  | reject e => exact herr _ _ h
  | await op k ih => exact ⟨h.1, fun r => ih r (h.2 r)⟩

/-- The program goes through exactly the events `as`, and settles with `r`. -/
def Finishes : Program σ ε α → List (Awaited σ ε) → Except ε α → Prop
  | .resolve a, as, r => as = [] ∧ r = .ok a
  | .reject e, as, r => as = [] ∧ r = .error e
  | .await op k, as, r => ∃ res rest, as = ⟨op, res⟩ :: rest ∧ (k res).Finishes rest r

/-- A program that settles has gone through the events since its start. -/
theorem Follows.finishes {p : Program σ ε α} (h : Follows P Q own p) :
    Follows P (fun own' r => Q own' r ∧ ∃ as, own' = own ++ as ∧ p.Finishes as r) own p := by
  induction p generalizing own with
  | resolve a => exact ⟨h, [], by simp, rfl, rfl⟩
  | reject e => exact ⟨h, [], by simp, rfl, rfl⟩
  | await op k ih =>
      refine ⟨h.1, fun res => (ih res (h.2 res)).mono (fun _ _ hop => hop) ?_⟩
      intro own' r hr
      rcases hr with ⟨hQ, as, hown, hfinishes⟩
      exact ⟨hQ, ⟨op, res⟩ :: as, by simp [hown], res, as, rfl, hfinishes⟩

/-! Where nothing is said about outcomes, the parts of a program are checked one by one. -/

theorem Follows.andThen {p : Program σ ε α} {f : α → Program σ ε β}
    (hp : Follows P (fun _ _ => True) own p)
    (hf : ∀ own a, Follows P (fun _ _ => True) own (f a)) :
    Follows P (fun _ _ => True) own (p >>= f) :=
  hp.bind (fun own a _ => hf own a) fun _ _ _ => trivial

theorem Follows.orElse {p : Program σ ε α} {f : ε → Program σ ε α}
    (hp : Follows P (fun _ _ => True) own p)
    (hf : ∀ own e, Follows P (fun _ _ => True) own (f e)) :
    Follows P (fun _ _ => True) own (p.handle f) :=
  hp.handle (fun _ _ _ => trivial) fun own e _ => hf own e

theorem follows_call {op : σ.Op} (hop : P own op) :
    Follows P (fun _ _ => True) own (call op) :=
  ⟨hop, fun _ => follows_settled.2 trivial⟩

/-- Where nothing is said about a program. -/
theorem follows_trivial (own : List (Awaited σ ε)) (p : Program σ ε α) :
    Follows (fun _ _ => True) (fun _ _ => True) own p := by
  induction p generalizing own with
  | resolve a => trivial
  | reject e => trivial
  | await op k ih => exact ⟨trivial, fun r => ih r _⟩

/-- What a program does when it runs alone is what its protocol says. -/
theorem Follows.exec {B : Backend σ ε} {p : Program σ ε α} (h : Follows P Q own p)
    (choices : Nat → B.Choice) (s : B.State) :
    Q (own ++ (p.exec B choices s).awaited) (p.exec B choices s).result := by
  induction p generalizing own choices s with
  | resolve a => simpa using h
  | reject e => simpa using h
  | await op k ih =>
      have hk := h.2 (B.perform op (choices 0) s).1
      have hrest := ih _ hk (fun n => choices (n + 1)) (B.perform op (choices 0) s).2
      rw [exec_await]
      simpa using hrest

/-- Each operation a program performs when it runs alone is one its protocol allows. -/
theorem Follows.exec_allowed {B : Backend σ ε} {p : Program σ ε α} (h : Follows P Q own p)
    (choices : Nat → B.Choice) (s : B.State) {a : Awaited σ ε}
    (ha : a ∈ (p.exec B choices s).awaited) :
    ∃ before after, (p.exec B choices s).awaited = before ++ a :: after ∧
      P (own ++ before) a.op := by
  induction p generalizing own choices s with
  | resolve b => cases ha
  | reject e => cases ha
  | await op k ih =>
      rw [exec_await] at ha ⊢
      rcases List.mem_cons.1 ha with rfl | ha
      · exact ⟨[], _, rfl, by simpa using h.1⟩
      · rcases ih _ (h.2 _) _ _ ha with ⟨before, after, hawaited, hP⟩
        refine ⟨⟨op, (B.perform op (choices 0) s).1⟩ :: before, after, ?_, ?_⟩
        · simp [hawaited]
        · simpa using hP

/-- What no allowed operation changes is the same after a run alone. -/
theorem Follows.exec_kept {B : Backend σ ε} {A : σ.Op → Prop} {γ : Type} {p : Program σ ε α}
    (h : Follows (fun _ op => A op) Q own p) (view : B.State → γ)
    (hkeep : ∀ op, A op → ∀ ch m, view (B.perform op ch m).2 = view m)
    (choices : Nat → B.Choice) (s : B.State) : view (p.exec B choices s).state = view s := by
  refine (exec_performed p choices s).kept view fun a ha => ?_
  rcases h.exec_allowed choices s ha with ⟨before, after, _, hallowed⟩
  exact hkeep a.op hallowed

end Program

/-! ## Interleaved runs -/

namespace Config

variable {V : Service σ ε}

/-- Every program in the pool follows the protocol of its request from that request's events on,
and settles only in outcomes that satisfy `Q`. -/
def PoolEnds (P : V.Request → List (Awaited σ ε) → σ.Op → Prop)
    (Q : V.Request → List (Awaited σ ε) → Except ε V.Reply → Prop) (c : Config V) : Prop :=
  c.pool.length = c.requests.length ∧
    ∀ i r p, c.requests[i]? = some r → c.pool[i]? = some p →
      Program.Follows (P r) (Q r) (c.own i) p

variable {P : V.Request → List (Awaited σ ε) → σ.Op → Prop}
  {Q : V.Request → List (Awaited σ ε) → Except ε V.Reply → Prop}

theorem next_start_attributed {c : Config V} (h : c.Attributed) (r : V.Request) :
    (c.next (.start r)).Attributed := by
  intro e he
  have hlt := h e he
  simp only [next, History.start_requests, List.length_append, List.length_cons, List.length_nil]
  omega

theorem next_resume_cases (c : Config V) (i : Nat) (ch : V.Choice) :
    (c.next (.resume i ch) = c ∧ c.event? (.resume i ch) = none) ∨
    ∃ op k, c.pool[i]? = some (.await op k) ∧
      c.event? (.resume i ch) = some ⟨⟨op, (V.perform op ch c.state).1⟩, i⟩ ∧
      c.next (.resume i ch) =
        { c.toHistory.perform i op ch with
          pool := c.pool.set i (k (V.perform op ch c.state).1) } := by
  cases hp : c.pool[i]? with
  -- Nothing happens unless the request is at a call.
  | none =>
      left
      simp [next, event?, hp]
  | some p =>
      cases p with
      | resolve a =>
          left
          simp [next, event?, hp]
      | reject e =>
          left
          simp [next, event?, hp]
      | await op k =>
          right
          exact ⟨op, k, rfl, by simp [event?, hp], by simp [next, hp]⟩

/-- A run goes on from where it starts. -/
theorem grows_run (c : Config V) (as : List (Action V)) :
    c.toHistory.Grows (c.run as).toHistory := by
  induction as generalizing c with
  | nil => exact .refl _
  | cons a as ih =>
      refine History.Grows.trans ?_ (ih (c.next a))
      cases a with
      | start r => exact History.grows_start _ r
      | resume i ch =>
          rcases next_resume_cases c i ch with ⟨hsame, _⟩ | ⟨op, k, _, _, hnext⟩
          · rw [hsame]
            exact .refl _
          · rw [hnext]
            exact History.grows_perform _ i op ch

theorem poolEnds_start (hP : ∀ r, Program.Follows (P r) (Q r) [] (V.program r))
    {c : Config V} (hc : c.PoolEnds P Q) (ha : c.Attributed) (r : V.Request) :
    (c.next (.start r)).PoolEnds P Q := by
  rcases hc with ⟨hlen, hall⟩
  refine ⟨by simp [next, hlen], ?_⟩
  intro i r' p hr hp
  by_cases hi : i < c.requests.length
  · have hr' : c.requests[i]? = some r' := by
      simpa [next, List.getElem?_append_left hi] using hr
    have hp' : c.pool[i]? = some p := by
      simpa [next, List.getElem?_append_left (hlen ▸ hi)] using hp
    exact hall i r' p hr' hp'
  · -- The request just started: it has no events yet.
    have hle : c.requests.length ≤ i := Nat.le_of_not_lt hi
    have hi' : i = c.requests.length := by
      have hlt := (List.getElem?_eq_some_iff.1 hr).1
      simp only [next, History.start_requests, List.length_append, List.length_cons,
        List.length_nil] at hlt
      omega
    have hr' : r' = r := by
      simpa [next, hi', eq_comm] using hr
    have hp' : p = V.program r := by
      simpa [next, hi', ← hlen, eq_comm] using hp
    have hown : (c.next (.start r)).own i = [] := ha.own_eq_nil hle
    rw [hown, hr', hp']
    exact hP r

theorem poolEnds_perform {c : Config V} (hc : c.PoolEnds P Q) {i : Nat} {op : σ.Op}
    {k : Except ε (σ.Res op) → Program σ ε V.Reply} (hi : c.pool[i]? = some (.await op k))
    (ch : V.Choice) :
    (⟨c.toHistory.perform i op ch, c.pool.set i (k (V.perform op ch c.state).1)⟩ :
      Config V).PoolEnds P Q := by
  rcases hc with ⟨hlen, hall⟩
  refine ⟨by simpa using hlen, ?_⟩
  intro j r p hr hp
  -- Only request `i` has a new event, and `Follows` is closed under its answer.
  by_cases hij : j = i
  · subst hij
    have hlt : j < c.pool.length := (List.getElem?_eq_some_iff.1 hi).1
    have hpk : p = k (V.perform op ch c.state).1 := by
      simpa [List.getElem?_set_self hlt, eq_comm] using hp
    have hfollows := hall j r _ hr hi
    rw [hpk, History.perform_own_self]
    exact hfollows.2 _
  · have hp' : c.pool[j]? = some p := by
      simpa [List.getElem?_set_ne (Ne.symm hij)] using hp
    have hfollows := hall j r p hr hp'
    rwa [History.perform_own_ne _ _ _ hij]

section Runs

variable {C : History V → Event σ ε → Prop} {I : History V → Prop}

theorem attributed_perform {c : Config V} (h : c.Attributed) {i : Nat} (hi : i < c.requests.length)
    (op : σ.Op) (ch : V.Choice) :
    (c.toHistory.perform i op ch).Attributed := by
  intro e he
  rcases List.mem_append.1 he with he | he
  · exact h e he
  · have hwho : e = ⟨⟨op, (V.perform op ch c.state).1⟩, i⟩ := by simpa using he
    rw [hwho]
    exact hi

/-- Induction along a run that goes on from `c`. -/
theorem run_induction_from
    (hP : ∀ r, Program.Follows (P r) (Q r) [] (V.program r))
    (hstart : ∀ h r, h.Attributed → I h → I (h.start r))
    (hperform : ∀ h i r op ch, h.Attributed → I h → h.requests[i]? = some r → P r (h.own i) op →
      C h ⟨⟨op, (V.perform op ch h.state).1⟩, i⟩ → I (h.perform i op ch))
    {c : Config V} (hI : I c.toHistory) (hpool : c.PoolEnds P Q) (hattr : c.Attributed)
    {as : List (Action V)} (hC : Meets C c as) :
    I (c.run as).toHistory ∧ (c.run as).PoolEnds P Q ∧ (c.run as).Attributed := by
  induction as generalizing c with
  | nil => exact ⟨hI, hpool, hattr⟩
  | cons a as ih =>
      cases a with
      | start r =>
          exact ih (hstart _ r hattr hI) (poolEnds_start hP hpool hattr r)
            (next_start_attributed hattr r) hC.2
      -- A resumption of a request that is not at a call changes nothing.
      | resume i ch =>
          rcases next_resume_cases c i ch with ⟨hsame, _⟩ | ⟨op, k, hi, hev, hnext⟩
          · have hrest := hC.2
            rw [hsame] at hrest
            rw [run_cons, hsame]
            exact ih hI hpool hattr hrest
          · have hlt : i < c.requests.length := hpool.1 ▸ (List.getElem?_eq_some_iff.1 hi).1
            have hr : c.requests[i]? = some c.requests[i] := List.getElem?_eq_getElem hlt
            have hallowed := (hpool.2 i _ _ hr hi).1
            have hcond := hC.1 _ hev
            have hrest := hC.2
            rw [hnext] at hrest
            rw [run_cons, hnext]
            exact ih (hperform _ i _ op ch hattr hI hr hallowed hcond)
              (poolEnds_perform hpool hi ch) (attributed_perform hattr hlt op ch) hrest

theorem poolEnds_initial (s : V.State) : (initial V s).PoolEnds P Q := by
  refine ⟨rfl, ?_⟩
  intro i r p hr
  simp [initial] at hr

theorem attributed_initial (s : V.State) : (initial V s).Attributed := by
  intro e he
  simp [initial] at he

/-- Induction over interleaved runs. When every program follows its protocol, a property of
histories holds after every run whose events meet `C`, if it holds at the start and is kept by
starting a request and by each operation a protocol allows. -/
theorem run_induction
    (hP : ∀ r, Program.Follows (P r) (Q r) [] (V.program r))
    (hstart : ∀ h r, h.Attributed → I h → I (h.start r))
    (hperform : ∀ h i r op ch, h.Attributed → I h → h.requests[i]? = some r → P r (h.own i) op →
      C h ⟨⟨op, (V.perform op ch h.state).1⟩, i⟩ → I (h.perform i op ch))
    {s : V.State} (hinit : I (initial V s).toHistory) (as : List (Action V))
    (hC : Meets C (initial V s) as) : I ((initial V s).run as).toHistory :=
  (run_induction_from hP hstart hperform hinit (poolEnds_initial s) (attributed_initial s) hC).1

/-- After any run, every request still follows its protocol. -/
theorem run_follows (hP : ∀ r, Program.Follows (P r) (Q r) [] (V.program r))
    (s : V.State) (as : List (Action V)) :
    ((initial V s).run as).PoolEnds P Q ∧ ((initial V s).run as).Attributed := by
  have hreach := @run_induction_from σ ε V P Q (fun _ _ => True) (fun _ => True) hP
    (fun _ _ _ _ => trivial) (fun _ _ _ _ _ _ _ _ _ _ => trivial) (initial V s) trivial
    (poolEnds_initial s) (attributed_initial s) as (meets_trivial _ as)
  exact hreach.2

/-- Induction over the rest of a run: a property that holds after `as` holds after `as ++ bs`. -/
theorem run_induction_after
    (hP : ∀ r, Program.Follows (P r) (Q r) [] (V.program r))
    (hstart : ∀ h r, h.Attributed → I h → I (h.start r))
    (hperform : ∀ h i r op ch, h.Attributed → I h → h.requests[i]? = some r → P r (h.own i) op →
      C h ⟨⟨op, (V.perform op ch h.state).1⟩, i⟩ → I (h.perform i op ch))
    {s : V.State} {as bs : List (Action V)} (hinit : I ((initial V s).run as).toHistory)
    (hC : Meets C ((initial V s).run as) bs) : I ((initial V s).run (as ++ bs)).toHistory := by
  have hreach := run_follows hP s as
  rw [run_append]
  exact (run_induction_from hP hstart hperform hinit hreach.1 hreach.2 hC).1

/-- A relation that every allowed operation keeps between the state before it and the state after
it links the states of a whole run. -/
theorem states_isChain {R : V.State → V.State → Prop}
    (hP : ∀ r, Program.Follows (P r) (Q r) [] (V.program r))
    (hstart : ∀ h r, h.Attributed → I h → I (h.start r))
    (hperform : ∀ h i r op ch, h.Attributed → I h → h.requests[i]? = some r → P r (h.own i) op →
      C h ⟨⟨op, (V.perform op ch h.state).1⟩, i⟩ →
        I (h.perform i op ch) ∧ R h.state (h.perform i op ch).state)
    (hrefl : ∀ s, R s s) {c : Config V} (hI : I c.toHistory) (hpool : c.PoolEnds P Q)
    (hattr : c.Attributed) {as : List (Action V)} (hC : Meets C c as) :
    (c.states as).IsChain R := by
  induction as generalizing c with
  | nil => exact List.isChain_singleton _
  | cons a as ih =>
      -- The chain grows at its head, by the one step from `c` to `c.next a`.
      have hrest : ∀ c', c' = c.next a → R c.state c'.state → (c'.states as).IsChain R →
          (c.states (a :: as)).IsChain R := by
        intro c' hc' hR hchain
        subst hc'
        refine List.isChain_cons.2 ⟨fun s hs => ?_, hchain⟩
        rw [head?_states] at hs
        cases hs
        exact hR
      cases a with
      | start r =>
          refine hrest _ rfl (hrefl _) ?_
          exact ih (hstart _ r hattr hI) (poolEnds_start hP hpool hattr r)
            (next_start_attributed hattr r) hC.2
      | resume i ch =>
          rcases next_resume_cases c i ch with ⟨hsame, _⟩ | ⟨op, k, hi, hev, hnext⟩
          · have hmeets := hC.2
            rw [hsame] at hmeets
            exact hrest c hsame.symm (hrefl _) (ih hI hpool hattr hmeets)
          · have hlt : i < c.requests.length := hpool.1 ▸ (List.getElem?_eq_some_iff.1 hi).1
            have hr : c.requests[i]? = some c.requests[i] := List.getElem?_eq_getElem hlt
            have hstep := hperform _ i _ op ch hattr hI hr (hpool.2 i _ _ hr hi).1 (hC.1 _ hev)
            have hmeets := hC.2
            rw [hnext] at hmeets
            refine hrest _ hnext.symm hstep.2 ?_
            exact ih hstep.1 (poolEnds_perform hpool hi ch) (attributed_perform hattr hlt op ch)
              hmeets

end Runs

end Config

end Async
end IdentityBillpay
