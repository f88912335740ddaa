import IdentityBillpay.Async.Sequential

/-!
# Hoare — rules for a program that runs alone

`Ensures B I Q s p`: from the state `s`, the program `p` running alone keeps the invariant `I` with
every operation it performs, whatever the environment decides, and settles only in states and
outcomes that satisfy `Q`.

* `Ensures.mono`, `Ensures.bind`, `Ensures.handle`, `ensures_call_bind` — one rule a construct;
* `Ensures.and`, `ensures_kept` — two specifications at once, and what a program leaves alone;
* `Ensures.exec` — what a program ensures holds when it is run;
* `Backend.restrict`, `Backend.faulty` — an environment that decides within limits, or beyond them;
* `Backend.traced` — states that remember what has been awaited;
* `Service.alone` — the histories of a service as the state, seen by one request at work;
* `Config.run_ensures` — requests that do not overlap keep what each of them ensures.
-/

namespace IdentityBillpay
namespace Async

open Program (Follows)

variable {σ : Signature} {ε α β : Type}

def Ensures (B : Backend σ ε) (I : B.State → Prop) (Q : B.State → Except ε α → Prop) :
    B.State → Program σ ε α → Prop
  | s, .resolve a => Q s (.ok a)
  | s, .reject e => Q s (.error e)
  | s, .await op k => ∀ ch,
      I (B.perform op ch s).2 ∧ Ensures B I Q (B.perform op ch s).2 (k (B.perform op ch s).1)

/-! ## Rules -/

section Rules

variable {B : Backend σ ε} {I : B.State → Prop} {Q Q' : B.State → Except ε α → Prop} {s : B.State}

@[simp] theorem ensures_resolve {a : α} :
    Ensures B I Q s (.resolve a) ↔ Q s (.ok a) := Iff.rfl

@[simp] theorem ensures_reject {e : ε} :
    Ensures B I Q s (.reject e : Program σ ε α) ↔ Q s (.error e) := Iff.rfl

@[simp] theorem ensures_settled {r : Except ε α} :
    Ensures B I Q s (Program.settled r) ↔ Q s r := by
  cases r with
  | ok a => exact Iff.rfl
  | error e => exact Iff.rfl

theorem Ensures.mono {p : Program σ ε α} (hp : Ensures B I Q s p) (hQ : ∀ s r, Q s r → Q' s r) :
    Ensures B I Q' s p := by
  induction p generalizing s with
  | resolve a => exact hQ _ _ hp
  | reject e => exact hQ _ _ hp
  | await op k ih => exact fun ch => ⟨(hp ch).1, ih _ (hp ch).2⟩

/-- Where nothing is asked of a program. -/
theorem ensures_trivial (s : B.State) (p : Program σ ε α) :
    Ensures B (fun _ => True) (fun _ _ => True) s p := by
  induction p generalizing s with
  | resolve a => trivial
  | reject e => trivial
  | await op k ih => exact fun ch => ⟨trivial, ih _ _⟩

theorem Ensures.weaken {I' : B.State → Prop} {p : Program σ ε α} (hp : Ensures B I Q s p)
    (hI : ∀ s, I s → I' s) : Ensures B I' Q s p := by
  induction p generalizing s with
  | resolve a => exact hp
  | reject e => exact hp
  | await op k ih => exact fun ch => ⟨hI _ (hp ch).1, ih _ (hp ch).2⟩

theorem Ensures.bind {R : B.State → Except ε β → Prop} {p : Program σ ε α}
    {f : α → Program σ ε β} (hp : Ensures B I Q s p)
    (hok : ∀ s a, Q s (.ok a) → Ensures B I R s (f a))
    (herr : ∀ s e, Q s (.error e) → R s (.error e)) : Ensures B I R s (p >>= f) := by
  induction p generalizing s with
  | resolve a => exact hok _ _ hp
  | reject e => exact herr _ _ hp
  | await op k ih => exact fun ch => ⟨(hp ch).1, ih _ (hp ch).2⟩

theorem Ensures.handle {p : Program σ ε α} {f : ε → Program σ ε α} (hp : Ensures B I Q s p)
    (hok : ∀ s a, Q s (.ok a) → Q' s (.ok a))
    (herr : ∀ s e, Q s (.error e) → Ensures B I Q' s (f e)) : Ensures B I Q' s (p.handle f) := by
  induction p generalizing s with
  | resolve a => exact hok _ _ hp
  | reject e => exact herr _ _ hp
  | await op k ih => exact fun ch => ⟨(hp ch).1, ih _ (hp ch).2⟩

/-- The rule for `await`ing one operation. -/
theorem ensures_call {op : σ.Op} {Q : B.State → Except ε (σ.Res op) → Prop}
    (hop : ∀ ch, I (B.perform op ch s).2)
    (hres : ∀ ch, Q (B.perform op ch s).2 (B.perform op ch s).1) :
    Ensures B I Q s (Program.call op) := by
  intro ch
  exact ⟨hop ch, ensures_settled.2 (hres ch)⟩

theorem ensures_call_bind {op : σ.Op} {f : σ.Res op → Program σ ε α}
    (hop : ∀ ch, I (B.perform op ch s).2)
    (herr : ∀ ch e, (B.perform op ch s).1 = .error e → Q (B.perform op ch s).2 (.error e))
    (hok : ∀ ch a, (B.perform op ch s).1 = .ok a → Ensures B I Q (B.perform op ch s).2 (f a)) :
    Ensures B I Q s (Program.call op >>= f) := by
  intro ch
  refine ⟨hop ch, ?_⟩
  cases hres : (B.perform op ch s).1 with
  | error e => exact herr ch e hres
  | ok a => exact hok ch a hres

/-- What a program ensures holds when it is run. -/
theorem Ensures.exec {p : Program σ ε α} (hp : Ensures B I Q s p) (choices : Nat → B.Choice) :
    Q (p.exec B choices s).state (p.exec B choices s).result := by
  induction p generalizing s choices with
  | resolve a => exact hp
  | reject e => exact hp
  | await op k ih =>
      rw [Program.exec_await]
      exact ih _ (hp (choices 0)).2 _

/-- Two specifications of one program. -/
theorem Ensures.and {I' : B.State → Prop} {p : Program σ ε α} (hp : Ensures B I Q s p)
    (hp' : Ensures B I' Q' s p) :
    Ensures B (fun s => I s ∧ I' s) (fun s r => Q s r ∧ Q' s r) s p := by
  induction p generalizing s with
  | resolve a => exact ⟨hp, hp'⟩
  | reject e => exact ⟨hp, hp'⟩
  | await op k ih => exact fun ch => ⟨⟨(hp ch).1, (hp' ch).1⟩, ih _ (hp ch).2 (hp' ch).2⟩

/-- What operations of a kind keep, a program of such operations keeps. -/
theorem ensures_kept {A : σ.Op → Prop} {own : List (Awaited σ ε)}
    {R : List (Awaited σ ε) → Except ε α → Prop} {p : Program σ ε α}
    (hp : Follows (fun _ op => A op) R own p)
    (hkeep : ∀ op ch s, A op → I s → I (B.perform op ch s).2) (hI : I s) :
    Ensures B I (fun s _ => I s) s p := by
  induction p generalizing s own with
  | resolve a => exact hI
  | reject e => exact hI
  | await op k ih =>
      intro ch
      have hnext := hkeep op ch s hp.1 hI
      exact ⟨hnext, ih _ (hp.2 _) hnext⟩

end Rules

/-! ## Better and worse environments -/

/-- The same operations, when the environment decides within limits. -/
abbrev Backend.restrict (B : Backend σ ε) (limits : B.Choice → Prop) : Backend σ ε where
  State := B.State
  Choice := { ch : B.Choice // limits ch }
  perform op ch s := B.perform op ch.1 s

/-- The same operations over a connection that may break before any of them is carried out. -/
abbrev Backend.faulty (B : Backend σ ε) (broken : σ.Op → String → ε) : Backend σ ε where
  State := B.State
  Choice := Except String B.Choice
  perform op ch s :=
    match ch with
    | .ok ch => B.perform op ch s
    | .error message => (.error (broken op message), s)

/-- What a program ensures under limits holds when it is run within them. -/
theorem Ensures.exec_within {B : Backend σ ε} {limits : B.Choice → Prop} {I : B.State → Prop}
    {Q : B.State → Except ε α → Prop} {s : B.State} {p : Program σ ε α}
    (hp : Ensures (B.restrict limits) I Q s p) {choices : Nat → B.Choice}
    (hlimits : ∀ n, limits (choices n)) :
    Q (p.exec B choices s).state (p.exec B choices s).result := by
  induction p generalizing s choices with
  | resolve a => exact hp
  | reject e => exact hp
  | await op k ih =>
      rw [Program.exec_await]
      exact ih _ (hp ⟨choices 0, hlimits 0⟩).2 fun n => hlimits (n + 1)

/-- What a program ensures within limits it ensures within closer ones. -/
theorem Ensures.restrict {B : Backend σ ε} {limits limits' : B.Choice → Prop} {I : B.State → Prop}
    {Q : B.State → Except ε α → Prop} {s : B.State} {p : Program σ ε α}
    (hp : Ensures (B.restrict limits) I Q s p) (hlimits : ∀ ch, limits' ch → limits ch) :
    Ensures (B.restrict limits') I Q s p := by
  induction p generalizing s with
  | resolve a => exact hp
  | reject e => exact hp
  | await op k ih =>
      intro ch
      have hstep := hp ⟨ch.1, hlimits ch.1 ch.2⟩
      exact ⟨hstep.1, ih _ hstep.2⟩

/-! ## Traces -/

/-- The same operations over states that remember what has been awaited. -/
abbrev Backend.traced (B : Backend σ ε) : Backend σ ε where
  State := List (Awaited σ ε) × B.State
  Choice := B.Choice
  perform op ch t :=
    ((B.perform op ch t.2).1, t.1 ++ [⟨op, (B.perform op ch t.2).1⟩], (B.perform op ch t.2).2)

@[simp] theorem traced_perform (B : Backend σ ε) (op : σ.Op) (ch : B.Choice)
    (t : B.traced.State) :
    B.traced.perform op ch t =
      ((B.perform op ch t.2).1, t.1 ++ [⟨op, (B.perform op ch t.2).1⟩], (B.perform op ch t.2).2) :=
  rfl

/-- What a program ensures of its trace holds of what it awaits when it is run. -/
theorem Ensures.exec_traced {B : Backend σ ε} {I : B.traced.State → Prop}
    {Q : B.traced.State → Except ε α → Prop} {own : List (Awaited σ ε)} {s : B.State}
    {p : Program σ ε α} (hp : Ensures B.traced I Q (own, s) p) (choices : Nat → B.Choice) :
    Q (own ++ (p.exec B choices s).awaited, (p.exec B choices s).state)
      (p.exec B choices s).result := by
  induction p generalizing own s choices with
  | resolve a => simpa using hp
  | reject e => simpa using hp
  | await op k ih =>
      have hrest := ih _ (hp (choices 0)).2 (fun n => choices (n + 1))
      rw [Program.exec_await]
      simpa using hrest

/-- The rule for one operation whose two outcomes are followed apart. -/
theorem ensures_traced_call_bind {B : Backend σ ε} {Q : B.traced.State → Except ε α → Prop}
    {own : List (Awaited σ ε)} {s : B.State} {op : σ.Op} {f : σ.Res op → Program σ ε α}
    (herr : ∀ ch e s', B.perform op ch s = (.error e, s') →
      Q (own ++ [⟨op, .error e⟩], s') (.error e))
    (hok : ∀ ch a s', B.perform op ch s = (.ok a, s') →
      Ensures B.traced (fun _ => True) Q (own ++ [⟨op, .ok a⟩], s') (f a)) :
    Ensures B.traced (fun _ => True) Q (own, s) (Program.call op >>= f) := by
  intro ch
  refine ⟨trivial, ?_⟩
  cases hres : B.perform op ch s with
  | mk res s' =>
      rw [traced_perform, hres]
      cases res with
      | error e => exact herr ch e s' hres
      | ok a => exact hok ch a s' hres

/-! ## Histories -/

variable {V : Service σ ε}

/-- The histories of a service as the state, with request `i` alone at work. -/
abbrev Service.alone (V : Service σ ε) (i : Nat) : Backend σ ε where
  State := History V
  Choice := V.Choice
  perform op ch h := ((V.perform op ch h.state).1, h.perform i op ch)

@[simp] theorem alone_perform (i : Nat) (op : σ.Op) (ch : V.Choice) (h : History V) :
    (V.alone i).perform op ch h = ((V.perform op ch h.state).1, h.perform i op ch) := rfl

variable {I : History V → Prop} {i : Nat} {Q : History V → Except ε α → Prop} {h : History V}

/-- A program keeps an invariant that each operation of its protocol keeps, and settles as its
protocol says. -/
theorem Ensures.of_follows {P : List (Awaited σ ε) → σ.Op → Prop}
    {R : List (Awaited σ ε) → Except ε α → Prop} {p : Program σ ε α}
    (hp : Follows P R (h.own i) p) (hI : I h)
    (hkeep : ∀ h op ch, P (h.own i) op → I h → I (h.perform i op ch)) :
    Ensures (V.alone i) I (fun h r => I h ∧ R (h.own i) r) h p := by
  induction p generalizing h with
  | resolve a => exact ⟨hI, hp⟩
  | reject e => exact ⟨hI, hp⟩
  | await op k ih =>
      intro ch
      have hnext : I (h.perform i op ch) := hkeep h op ch hp.1 hI
      refine ⟨hnext, ih _ ?_ hnext⟩
      rw [alone_perform, History.perform_own_self]
      exact hp.2 _

/-- Other requests may start meanwhile. -/
theorem Ensures.start {p : Program σ ε α} (hI : ∀ h r, I h → I (h.start r))
    (hQ : ∀ h r res, Q h res → Q (h.start r) res)
    (hp : Ensures (V.alone i) I Q h p) (r : V.Request) :
    Ensures (V.alone i) I Q (h.start r) p := by
  induction p generalizing h with
  | resolve a => exact hQ _ _ _ hp
  | reject e => exact hQ _ _ _ hp
  | await op k ih => exact fun ch => ⟨hI _ r (hp ch).1, ih _ (hp ch).2⟩

/-! ## Runs -/

namespace Config

/-- Every request that may still go on keeps the invariant, running alone; one that has performed
nothing has its whole program before it. -/
def PoolEnsures (I : History V → Prop) (c : Config V) : Prop :=
  c.pool.length = c.requests.length ∧
    ∀ i p, c.pool[i]? = some p →
      (c.own i = [] → c.requests[i]?.map V.program = some p) ∧
      (c.own i ≠ [] → (∀ j, i < j → c.own j = []) →
        Ensures (V.alone i) I (fun _ _ => True) c.toHistory p)

theorem poolEnsures_start {c : Config V} (hI : ∀ h r, I h → I (h.start r))
    (hc : c.PoolEnsures I) (ha : c.Attributed) (r : V.Request) :
    (c.next (.start r)).PoolEnsures I := by
  rcases hc with ⟨hlen, hall⟩
  refine ⟨by simp [next, hlen], ?_⟩
  intro i p hp
  -- A request that was there before keeps what was promised for it.
  by_cases hi : i < c.pool.length
  · have hp' : c.pool[i]? = some p := by
      simpa [next, List.getElem?_append_left hi] using hp
    rcases hall i p hp' with ⟨hnew, hold⟩
    refine ⟨fun hown => ?_, fun hown hlast => ?_⟩
    · simpa [next, List.getElem?_append_left (hlen ▸ hi)] using hnew hown
    · exact (hold hown hlast).start hI (fun _ _ _ _ => trivial) r
  · -- The request just started has performed nothing.
    have hle : c.requests.length ≤ i := by
      rw [← hlen]
      exact Nat.le_of_not_lt hi
    have hi' : i = c.requests.length := by
      have hlt := (List.getElem?_eq_some_iff.1 hp).1
      simp only [next, List.length_append, List.length_cons, List.length_nil, hlen] at hlt
      omega
    have hp' : p = V.program r := by
      simpa [next, hi', ← hlen, eq_comm] using hp
    refine ⟨fun _ => by simp [next, hi', hp'], fun hown => absurd ?_ hown⟩
    exact ha.own_eq_nil hle

/-- The request that performs an operation goes on; those after it have yet to begin. -/
theorem poolEnsures_perform {c : Config V} (hc : c.PoolEnsures I) {i : Nat} {op : σ.Op}
    {k : Except ε (σ.Res op) → Program σ ε V.Reply} (hi : c.pool[i]? = some (.await op k))
    (hlater : ∀ j, i < j → c.own j = []) {ch : V.Choice}
    (hens : Ensures (V.alone i) I (fun _ _ => True) (c.toHistory.perform i op ch)
      (k (V.perform op ch c.state).1)) :
    (⟨c.toHistory.perform i op ch, c.pool.set i (k (V.perform op ch c.state).1)⟩ :
      Config V).PoolEnsures I := by
  rcases hc with ⟨hlen, hall⟩
  refine ⟨by simpa using hlen, ?_⟩
  intro j p hp
  -- The request that performed goes on as its triple says.
  by_cases hji : j = i
  · subst hji
    have hlt : j < c.pool.length := (List.getElem?_eq_some_iff.1 hi).1
    have hpk : p = k (V.perform op ch c.state).1 := by
      simpa [List.getElem?_set_self hlt, eq_comm] using hp
    refine ⟨fun hown => absurd hown (by simp), fun _ _ => ?_⟩
    rw [hpk]
    exact hens
  · -- A later request has performed nothing yet, and an earlier one is not the last any more.
    have hp' : c.pool[j]? = some p := by
      simpa [List.getElem?_set_ne (Ne.symm hji)] using hp
    rw [History.perform_own_ne _ _ _ hji]
    refine ⟨(hall j p hp').1, fun hown hlast => ?_⟩
    rcases Nat.lt_or_gt_of_ne hji with hlt | hgt
    · have hnil := hlast i hlt
      simp at hnil
    · exact absurd (hlater j hgt) hown

/-- Requests that do not overlap: an invariant holds throughout when each request keeps it, from
its first operation on and running alone. -/
theorem run_ensures (hstart : ∀ h r, I h → I (h.start r))
    (hbody : ∀ h i r, h.Attributed → I h → h.requests[i]? = some r → h.own i = [] →
      Ensures (V.alone i) I (fun _ _ => True) h (V.program r))
    {s : V.State} (hinit : I (initial V s).toHistory) (as : List (Action V))
    (hC : Meets InOrder (initial V s) as) : I ((initial V s).run as).toHistory := by
  have hrun : ∀ c : Config V, I c.toHistory → c.PoolEnsures I → c.Attributed →
      Meets InOrder c as → I (c.run as).toHistory := by
    clear hC
    induction as with
    | nil => exact fun c hI _ _ _ => hI
    | cons a as ih =>
        intro c hI hpool hattr hmeets
        cases a with
        | start r =>
            exact ih _ (hstart _ r hI) (poolEnsures_start hstart hpool hattr r)
              (next_start_attributed hattr r) hmeets.2
        | resume i ch =>
            rcases next_resume_cases c i ch with ⟨hsame, _⟩ | ⟨op, k, hi, hev, hnext⟩
            · have hrest := hmeets.2
              rw [hsame] at hrest
              rw [run_cons, hsame]
              exact ih _ hI hpool hattr hrest
            · have hlt : i < c.requests.length := hpool.1 ▸ (List.getElem?_eq_some_iff.1 hi).1
              have hlater : ∀ j, i < j → c.own j = [] := by
                intro j hij
                by_cases hj : j < c.requests.length
                · exact hmeets.1 _ hev j hj hij
                · exact hattr.own_eq_nil (Nat.le_of_not_lt hj)
              have hens : Ensures (V.alone i) I (fun _ _ => True) c.toHistory (.await op k) := by
                by_cases hown : c.own i = []
                · rcases Option.map_eq_some_iff.1 ((hpool.2 i _ hi).1 hown) with ⟨r, hr, hp⟩
                  rw [← hp]
                  exact hbody _ i r hattr hI hr hown
                · exact (hpool.2 i _ hi).2 hown hlater
              have hrest := hmeets.2
              rw [hnext] at hrest
              rw [run_cons, hnext]
              exact ih _ (hens ch).1 (poolEnsures_perform hpool hi hlater (hens ch).2)
                (attributed_perform hattr hlt op ch) hrest
  exact hrun _ hinit ⟨rfl, by simp [initial]⟩ (attributed_initial s) hC

end Config

end Async
end IdentityBillpay
