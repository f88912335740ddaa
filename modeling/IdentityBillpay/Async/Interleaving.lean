import IdentityBillpay.Async.Program

/-!
# Interleaving — requests overlapping at their awaits

A service answers each request by a program. Any number of requests are in flight; one step starts
a new request or lets one of them perform the operation it is suspended at. Operations are atomic,
and between two operations of a request the others may do anything.

* `Service`, `Config`, `Config.next`, `Config.run`, `Config.states` — the executable semantics;
* `History` — what an observer keeps of a configuration: requests, state and trace of events;
* `History.Grows` — what a history keeps when the run goes on;
* `Config.Meets` — a run each of whose events satisfies a condition on the history before it.
-/

namespace IdentityBillpay
namespace Async

/-- A backend together with its requests and the program that answers each of them. -/
structure Service (σ : Signature) (ε : Type) extends Backend σ ε where
  Request : Type
  Reply : Type
  program : Request → Program σ ε Reply

/-- One operation performed in a run, with the request that awaited it. -/
structure Event (σ : Signature) (ε : Type) extends Awaited σ ε where
  who : Nat

variable {σ : Signature} {ε : Type}

/-- The requests started so far (a request's number is its position), the shared state, and every
event in order. -/
structure History (V : Service σ ε) where
  requests : List V.Request
  state : V.State
  trace : List (Event σ ε)

namespace History

variable {V : Service σ ε}

/-- The events of request `i`, in order. -/
def own (h : History V) (i : Nat) : List (Awaited σ ε) :=
  (h.trace.filter fun e => e.who == i).map Event.toAwaited

def start (h : History V) (r : V.Request) : History V :=
  { h with requests := h.requests ++ [r] }

/-- Request `i` performs `op` under the environment's choice. -/
def perform (h : History V) (i : Nat) (op : σ.Op) (ch : V.Choice) : History V where
  requests := h.requests
  state := (V.perform op ch h.state).2
  trace := h.trace ++ [⟨⟨op, (V.perform op ch h.state).1⟩, i⟩]

@[simp] theorem start_state (h : History V) (r : V.Request) : (h.start r).state = h.state := rfl

@[simp] theorem start_trace (h : History V) (r : V.Request) : (h.start r).trace = h.trace := rfl

@[simp] theorem start_own (h : History V) (r : V.Request) (i : Nat) :
    (h.start r).own i = h.own i := rfl

@[simp] theorem start_requests (h : History V) (r : V.Request) :
    (h.start r).requests = h.requests ++ [r] := rfl

@[simp] theorem perform_requests (h : History V) (i : Nat) (op : σ.Op) (ch : V.Choice) :
    (h.perform i op ch).requests = h.requests := rfl

@[simp] theorem perform_state (h : History V) (i : Nat) (op : σ.Op) (ch : V.Choice) :
    (h.perform i op ch).state = (V.perform op ch h.state).2 := rfl

@[simp] theorem perform_trace (h : History V) (i : Nat) (op : σ.Op) (ch : V.Choice) :
    (h.perform i op ch).trace = h.trace ++ [⟨⟨op, (V.perform op ch h.state).1⟩, i⟩] := rfl

@[simp] theorem perform_own_self (h : History V) (i : Nat) (op : σ.Op) (ch : V.Choice) :
    (h.perform i op ch).own i = h.own i ++ [⟨op, (V.perform op ch h.state).1⟩] := by
  simp [own, List.filter_append]

theorem perform_own_ne (h : History V) {i j : Nat} (op : σ.Op) (ch : V.Choice) (hij : j ≠ i) :
    (h.perform i op ch).own j = h.own j := by
  have hne : (i == j) = false := by simpa using Ne.symm hij
  simp [own, List.filter_append, hne]

/-- The events of a request stay when another operation is performed. -/
theorem own_prefix_perform (h : History V) (i j : Nat) (op : σ.Op) (ch : V.Choice) :
    h.own j <+: (h.perform i op ch).own j := by
  by_cases hji : j = i
  · subst hji
    rw [perform_own_self]
    exact List.prefix_append _ _
  · have hsame : (h.perform i op ch).own j = h.own j := perform_own_ne h op ch hji
    simp [hsame]

theorem mem_own {h : History V} {i : Nat} {a : Awaited σ ε} :
    a ∈ h.own i ↔ (⟨a, i⟩ : Event σ ε) ∈ h.trace := by
  constructor
  · intro ha
    rcases List.mem_map.1 ha with ⟨e, he, rfl⟩
    rcases List.mem_filter.1 he with ⟨hmem, hwho⟩
    have hi : e.who = i := by simpa using hwho
    subst hi
    exact hmem
  · intro ha
    refine List.mem_map.2 ⟨⟨a, i⟩, List.mem_filter.2 ⟨ha, ?_⟩, rfl⟩
    simp

/-- The trace after one more operation: an event is old, or it is the one just performed. -/
theorem mem_perform {h : History V} {i j : Nat} {op : σ.Op} {ch : V.Choice} {a : Awaited σ ε} :
    (⟨a, j⟩ : Event σ ε) ∈ (h.perform i op ch).trace ↔
      (⟨a, j⟩ : Event σ ε) ∈ h.trace ∨
        (j = i ∧ a.op = op ∧ a.res = (V.perform a.op ch h.state).1) := by
  rcases a with ⟨op', r'⟩
  rw [perform_trace, List.mem_append, List.mem_singleton]
  refine or_congr Iff.rfl ?_
  constructor
  · intro he
    injection he with ha hj
    injection ha with hop hr
    subst hop
    exact ⟨hj, rfl, eq_of_heq hr⟩
  · intro he
    rcases he with ⟨hj, hop, hr⟩
    dsimp only at hop hr
    subst hop
    rw [hj, hr]

/-- A request number in use stays with its request when another one starts. -/
theorem start_requests_some {h : History V} {r r' : V.Request} {i : Nat}
    (hi : h.requests[i]? = some r') : (h.start r).requests[i]? = some r' := by
  have hlt : i < h.requests.length := (List.getElem?_eq_some_iff.1 hi).1
  rw [start_requests, List.getElem?_append_left hlt]
  exact hi

/-- `h'` goes on from `h`: its requests and their events are still there. -/
structure Grows (h h' : History V) : Prop where
  requests : ∀ (i : Nat) (r : V.Request), h.requests[i]? = some r → h'.requests[i]? = some r
  own : ∀ i, h.own i <+: h'.own i

theorem Grows.refl (h : History V) : h.Grows h :=
  ⟨fun _ _ hr => hr, fun _ => List.prefix_refl _⟩

theorem Grows.trans {h h' h'' : History V} (hg : h.Grows h') (hg' : h'.Grows h'') : h.Grows h'' :=
  ⟨fun i r hr => hg'.requests i r (hg.requests i r hr), fun i => (hg.own i).trans (hg'.own i)⟩

theorem grows_start (h : History V) (r : V.Request) : h.Grows (h.start r) :=
  ⟨fun _ _ hr => start_requests_some hr, fun _ => List.prefix_refl _⟩

theorem grows_perform (h : History V) (i : Nat) (op : σ.Op) (ch : V.Choice) :
    h.Grows (h.perform i op ch) :=
  ⟨fun _ _ hr => hr, fun j => h.own_prefix_perform i j op ch⟩

/-- Events belong to started requests. -/
def Attributed (h : History V) : Prop :=
  ∀ e ∈ h.trace, e.who < h.requests.length

/-- A request that has not started has no events. -/
theorem Attributed.own_eq_nil {h : History V} (ha : h.Attributed) {i : Nat}
    (hi : h.requests.length ≤ i) : h.own i = [] := by
  have hnone : (h.trace.filter fun e => e.who == i) = [] := by
    refine List.filter_eq_nil_iff.2 fun e he => ?_
    have hlt := ha e he
    have hne : e.who ≠ i := by omega
    simpa using hne
  simp [own, hnone]

/-- The events of the first `n + 1` requests are those of the first `n`, and the next one's own. -/
theorem countP_lt_succ (h : History V) (p : Awaited σ ε → Bool) (n : Nat) :
    h.trace.countP (fun e => decide (e.who < n + 1) && p e.toAwaited) =
      h.trace.countP (fun e => decide (e.who < n) && p e.toAwaited) + (h.own n).countP p := by
  rw [own, List.countP_map, List.countP_filter]
  induction h.trace with
  | nil => rfl
  | cons e trace ih =>
      simp only [List.countP_cons, Function.comp_apply, ih]
      rcases Nat.lt_trichotomy e.who n with hlt | heq | hgt
      · have hlt' : e.who < n + 1 := by omega
        have hne : e.who ≠ n := by omega
        simp [hlt, hlt', hne]
        omega
      · simp [heq]
        omega
      · have hlt' : ¬ e.who < n + 1 := by omega
        have hlt : ¬ e.who < n := by omega
        have hne : e.who ≠ n := by omega
        simp [hlt, hlt', hne]

/-- Where only some requests have events of a kind, and each at most `b` of them. -/
theorem Attributed.countP_le {h : History V} (ha : h.Attributed) {p : Awaited σ ε → Bool}
    {q : V.Request → Bool} {b : Nat}
    (hzero : ∀ i r, h.requests[i]? = some r → q r = false → (h.own i).countP p = 0)
    (hle : ∀ i r, h.requests[i]? = some r → (h.own i).countP p ≤ b) :
    h.trace.countP (fun e => p e.toAwaited) ≤ b * h.requests.countP q := by
  have hfirst : ∀ n ≤ h.requests.length,
      h.trace.countP (fun e => decide (e.who < n) && p e.toAwaited) ≤
        b * (h.requests.take n).countP q := by
    intro n
    induction n with
    | zero => simp
    | succ n ih =>
        intro hn
        have hr : h.requests[n]? = some h.requests[n] := List.getElem?_eq_getElem hn
        rw [countP_lt_succ, List.take_add_one, hr, List.countP_append, Nat.mul_add]
        refine Nat.add_le_add (ih (Nat.le_of_succ_le hn)) ?_
        cases hq : q h.requests[n] with
        | true => simpa [hq] using hle n _ hr
        | false => simp [hzero n _ hr hq]
  have hall := hfirst h.requests.length (Nat.le_refl _)
  rw [List.take_length] at hall
  refine Nat.le_trans (Nat.le_of_eq (List.countP_congr fun e he => ?_)) hall
  simp [ha e he]

/-- Every event is the outcome of its operation in some state. -/
def Answered (h : History V) : Prop :=
  ∀ e ∈ h.trace, ∃ ch s, e.res = (V.perform e.op ch s).1

theorem Answered.perform {h : History V} (ha : h.Answered) (i : Nat) (op : σ.Op) (ch : V.Choice) :
    (h.perform i op ch).Answered := by
  intro e he
  rcases List.mem_append.1 he with he | he
  · exact ha e he
  · rw [List.mem_singleton.1 he]
    exact ⟨ch, h.state, rfl⟩

theorem Answered.own {h : History V} (ha : h.Answered) {i : Nat} {a : Awaited σ ε}
    (hmem : a ∈ h.own i) : ∃ ch s, a.res = (V.perform a.op ch s).1 :=
  ha ⟨a, i⟩ (mem_own.1 hmem)

/-- A request number that is in use after a start was in use before, or is the new one. -/
theorem start_requests_cases {h : History V} {r r' : V.Request} {i : Nat}
    (hi : (h.start r).requests[i]? = some r') :
    h.requests[i]? = some r' ∨ (i = h.requests.length ∧ r' = r) := by
  rw [start_requests] at hi
  by_cases hlt : i < h.requests.length
  · left
    rwa [List.getElem?_append_left hlt] at hi
  · right
    have hle : h.requests.length ≤ i := Nat.le_of_not_lt hlt
    rw [List.getElem?_append_right hle] at hi
    rcases List.getElem?_eq_some_iff.1 hi with ⟨hzero, hr⟩
    have hi' : i - h.requests.length = 0 := by simpa using hzero
    exact ⟨by omega, by simpa [hi'] using hr.symm⟩

/-! ### Selected events -/

/-- `mark` holds of an event and the request that performs it. -/
def marks (h : History V) (mark : V.Request → Awaited σ ε → Bool) (e : Event σ ε) : Bool :=
  h.requests[e.who]?.any fun r => mark r e.toAwaited

/-- The events that `mark` selects. -/
def selected (h : History V) (mark : V.Request → Awaited σ ε → Bool) : List (Event σ ε) :=
  h.trace.filter (h.marks mark)

variable {mark : V.Request → Awaited σ ε → Bool}

theorem mem_selected {h : History V} {e : Event σ ε} :
    e ∈ h.selected mark ↔
      e ∈ h.trace ∧ ∃ r, h.requests[e.who]? = some r ∧ mark r e.toAwaited = true := by
  simp [selected, marks, Option.any_eq_true]

theorem selected_start {h : History V} (ha : h.Attributed) (r : V.Request) :
    (h.start r).selected mark = h.selected mark := by
  refine List.filter_congr fun e he => ?_
  rw [marks, marks, start_requests, List.getElem?_append_left (ha e he)]

theorem selected_perform {h : History V} {i : Nat} {r : V.Request} (hr : h.requests[i]? = some r)
    (op : σ.Op) (ch : V.Choice) :
    (h.perform i op ch).selected mark = h.selected mark ++
      if mark r ⟨op, (V.perform op ch h.state).1⟩ then
        [⟨⟨op, (V.perform op ch h.state).1⟩, i⟩] else [] := by
  have hmarks : (h.perform i op ch).marks mark = h.marks mark := rfl
  rw [selected, hmarks, perform_trace, List.filter_append, List.filter_singleton]
  simp [selected, marks, hr]

/-- At most one event stays selected, if a new one is selected only while there is none. -/
theorem selected_length_perform {h : History V} {i : Nat} {r : V.Request}
    (hr : h.requests[i]? = some r) {op : σ.Op} {ch : V.Choice}
    (hone : (h.selected mark).length ≤ 1)
    (hnew : mark r ⟨op, (V.perform op ch h.state).1⟩ = true → h.selected mark = []) :
    ((h.perform i op ch).selected mark).length ≤ 1 := by
  rw [selected_perform hr]
  by_cases hmark : mark r ⟨op, (V.perform op ch h.state).1⟩ = true
  · simp [hmark, hnew hmark]
  · simpa [hmark] using hone

/-- Where at most one event is selected, any two are the same. -/
theorem selected_unique {h : History V} (hone : (h.selected mark).length ≤ 1) {e e' : Event σ ε}
    (he : e ∈ h.selected mark) (he' : e' ∈ h.selected mark) : e = e' := by
  cases hsel : h.selected mark with
  | nil =>
      rw [hsel] at he
      cases he
  | cons a l =>
      have hnil : l = [] := by
        rw [hsel] at hone
        simpa using hone
      rw [hsel, hnil] at he he'
      rw [List.mem_singleton.1 he, List.mem_singleton.1 he']

end History

/-- A configuration: its history, and for each request the program still to run. -/
structure Config (V : Service σ ε) extends History V where
  pool : List (Program σ ε V.Reply)

/-- One move of the scheduler. -/
inductive Action (V : Service σ ε) : Type
  | start (r : V.Request)
  | resume (i : Nat) (ch : V.Choice)

namespace Config

variable {V : Service σ ε}

/-- No request has been started. -/
def initial (V : Service σ ε) (s : V.State) : Config V :=
  { requests := [], state := s, trace := [], pool := [] }

/-- One step. Resuming a request that has settled, or was never started, does nothing. -/
def next (c : Config V) : Action V → Config V
  | .start r => { c.toHistory.start r with pool := c.pool ++ [V.program r] }
  | .resume i ch =>
      match c.pool[i]? with
      | some (.await op k) =>
          { c.toHistory.perform i op ch with
            pool := c.pool.set i (k (V.perform op ch c.state).1) }
      | _ => c

def run (c : Config V) (as : List (Action V)) : Config V :=
  as.foldl next c

@[simp] theorem run_nil (c : Config V) : c.run [] = c := rfl

@[simp] theorem run_cons (c : Config V) (a : Action V) (as : List (Action V)) :
    c.run (a :: as) = (c.next a).run as := rfl

theorem run_append (c : Config V) (as bs : List (Action V)) :
    c.run (as ++ bs) = (c.run as).run bs :=
  List.foldl_append

/-- The states that a run goes through, the first and the last included. -/
def states : Config V → List (Action V) → List V.State
  | c, [] => [c.state]
  | c, a :: as => c.state :: (c.next a).states as

theorem head?_states (c : Config V) (as : List (Action V)) : (c.states as).head? = some c.state := by
  cases as with
  | nil => rfl
  | cons a as => rfl

/-- The event an action adds to the trace, if any. -/
def event? (c : Config V) : Action V → Option (Event σ ε)
  | .start _ => none
  | .resume i ch =>
      match c.pool[i]? with
      | some (.await op _) => some ⟨⟨op, (V.perform op ch c.state).1⟩, i⟩
      | _ => none

/-- Every event of the run satisfies `C` in the history it happens in. -/
def Meets (C : History V → Event σ ε → Prop) : Config V → List (Action V) → Prop
  | _, [] => True
  | c, a :: as => (∀ e ∈ c.event? a, C c.toHistory e) ∧ Meets C (c.next a) as

instance decidableMeets (C : History V → Event σ ε → Prop) [∀ h e, Decidable (C h e)] :
    ∀ (c : Config V) (as : List (Action V)), Decidable (Meets C c as)
  | _, [] => .isTrue trivial
  | c, a :: as =>
      have := decidableMeets C (c.next a) as
      inferInstanceAs (Decidable ((∀ e ∈ c.event? a, C c.toHistory e) ∧ Meets C (c.next a) as))

theorem meets_append {C : History V → Event σ ε → Prop} {c : Config V} {as bs : List (Action V)} :
    Meets C c (as ++ bs) ↔ Meets C c as ∧ Meets C (c.run as) bs := by
  induction as generalizing c with
  | nil => simp [Meets]
  | cons a as ih => exact (and_congr_right fun _ => ih).trans and_assoc.symm

theorem Meets.mono {C C' : History V → Event σ ε → Prop} {c : Config V} {as : List (Action V)}
    (h : Meets C c as) (hC : ∀ h e, C h e → C' h e) : Meets C' c as := by
  induction as generalizing c with
  | nil => trivial
  | cons a as ih => exact ⟨fun e he => hC _ _ (h.1 e he), ih h.2⟩

theorem meets_trivial (c : Config V) (as : List (Action V)) :
    Meets (fun _ _ => True) c as := by
  induction as generalizing c with
  | nil => trivial
  | cons a as ih => exact ⟨fun _ _ => trivial, ih (c.next a)⟩

end Config

end Async
end IdentityBillpay
