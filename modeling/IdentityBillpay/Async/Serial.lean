import IdentityBillpay.Async.Interleaving

/-!
# Serial — whole requests, one after the other

A call is a request together with what the environment decides while it is answered. Calls are
answered in order, each one alone and to its end; the states of interest lie between them.

* `Service.answer`, `Service.serve` — one call, and a list of calls;
* `Service.Complies` — a condition on every call of a list, in the state it is answered in;
* `serve_induction` — the induction rule;
* `Service.track`, `track_induction` — what the results of the calls have added up to;
* `exists_call` — what has become true during a list of calls became true during one of them;
* `exists_call_concat` — the calls of a list that has grown by one.
-/

namespace IdentityBillpay
namespace Async

variable {σ : Signature} {ε : Type}

/-- A request and the environment's choices while it is answered. -/
structure Call (V : Service σ ε) where
  request : V.Request
  choices : Nat → V.Choice

namespace Service

variable {V : Service σ ε}

/-- The call is answered with nobody else at work. -/
def answer (V : Service σ ε) (s : V.State) (c : Call V) : Outcome σ ε V.State V.Reply :=
  (V.program c.request).exec V.toBackend c.choices s

/-- The state after the calls. -/
def serve (V : Service σ ε) (s : V.State) (calls : List (Call V)) : V.State :=
  calls.foldl (fun s c => (V.answer s c).state) s

@[simp] theorem serve_nil (s : V.State) : V.serve s [] = s := rfl

@[simp] theorem serve_cons (s : V.State) (c : Call V) (calls : List (Call V)) :
    V.serve s (c :: calls) = V.serve (V.answer s c).state calls := rfl

theorem serve_append (s : V.State) (calls more : List (Call V)) :
    V.serve s (calls ++ more) = V.serve (V.serve s calls) more :=
  List.foldl_append

theorem serve_concat (s : V.State) (calls : List (Call V)) (c : Call V) :
    V.serve s (calls ++ [c]) = (V.answer (V.serve s calls) c).state := by
  rw [serve_append]
  rfl

/-- Every call satisfies `C` in the state it is answered in. -/
def Complies (V : Service σ ε) (C : V.State → Call V → Prop) : V.State → List (Call V) → Prop
  | _, [] => True
  | s, c :: calls => C s c ∧ Complies V C (V.answer s c).state calls

instance decidableComplies (C : V.State → Call V → Prop) [∀ s c, Decidable (C s c)] :
    (s : V.State) → (calls : List (Call V)) → Decidable (V.Complies C s calls)
  | _, [] => .isTrue trivial
  | s, c :: calls =>
      have := decidableComplies C (V.answer s c).state calls
      inferInstanceAs (Decidable (C s c ∧ V.Complies C (V.answer s c).state calls))

variable {C : V.State → Call V → Prop} {s : V.State} {calls more : List (Call V)}

theorem complies_append :
    V.Complies C s (calls ++ more) ↔ V.Complies C s calls ∧ V.Complies C (V.serve s calls) more := by
  induction calls generalizing s with
  | nil => simp [Complies]
  | cons c calls ih => exact (and_congr_right fun _ => ih).trans and_assoc.symm

theorem Complies.mono {C' : V.State → Call V → Prop} (h : V.Complies C s calls)
    (hC : ∀ s c, C s c → C' s c) : V.Complies C' s calls := by
  induction calls generalizing s with
  | nil => trivial
  | cons c calls ih => exact ⟨hC s c h.1, ih h.2⟩

theorem complies_trivial (s : V.State) (calls : List (Call V)) :
    V.Complies (fun _ _ => True) s calls := by
  induction calls generalizing s with
  | nil => trivial
  | cons c calls ih => exact ⟨trivial, ih _⟩

/-- A property of states that every complying call keeps holds after all of them. -/
theorem serve_induction {I : V.State → Prop} (hinit : I s)
    (hstep : ∀ s c, I s → C s c → I (V.answer s c).state) (hC : V.Complies C s calls) :
    I (V.serve s calls) := by
  induction calls generalizing s with
  | nil => exact hinit
  | cons c calls ih => exact ih (hstep s c hinit hC.1) hC.2

/-- A reflexive and transitive relation between the state before and after every complying call
links the first state to the last. -/
theorem serve_relation {R : V.State → V.State → Prop} (hrefl : ∀ s, R s s)
    (htrans : ∀ {s s' s''}, R s s' → R s' s'' → R s s'')
    (hstep : ∀ s c, C s c → R s (V.answer s c).state) (hC : V.Complies C s calls) :
    R s (V.serve s calls) := by
  induction calls generalizing s with
  | nil => exact hrefl s
  | cons c calls ih => exact htrans (hstep s c hC.1) (ih hC.2)

/-- What the results of the calls have added up to. -/
def track {γ : Type} (V : Service σ ε) (note : γ → Call V → Except ε V.Reply → γ) :
    γ → V.State → List (Call V) → γ
  | g, _, [] => g
  | g, s, c :: calls =>
      track V note (note g c (V.answer s c).result) (V.answer s c).state calls

/-- A relation between what is tracked and the state that every complying call keeps. -/
theorem track_induction {γ : Type} {note : γ → Call V → Except ε V.Reply → γ}
    {I : γ → V.State → Prop} {g : γ} (hinit : I g s)
    (hstep : ∀ g s c, I g s → C s c →
      I (note g c (V.answer s c).result) (V.answer s c).state)
    (hC : V.Complies C s calls) : I (V.track note g s calls) (V.serve s calls) := by
  induction calls generalizing g s with
  | nil => exact hinit
  | cons c calls ih => exact ih (hstep g s c hinit hC.1) hC.2

/-- What holds after the calls and did not hold before them was brought about by one of them. -/
theorem exists_call {P : V.State → Prop} (hbefore : ¬ P s) (hafter : P (V.serve s calls)) :
    ∃ before c after, calls = before ++ c :: after ∧ ¬ P (V.serve s before) ∧
      P (V.serve s (before ++ [c])) := by
  induction calls generalizing s with
  | nil => exact absurd hafter hbefore
  | cons c calls ih =>
      by_cases hnext : P (V.answer s c).state
      · exact ⟨[], c, calls, rfl, hbefore, hnext⟩
      · rcases ih hnext hafter with ⟨before, c', after, rfl, hnot, hnow⟩
        exact ⟨c :: before, c', after, rfl, hnot, hnow⟩

/-- A call of a list with one call more is one of the list, or the last. -/
theorem exists_call_concat {P : List (Call V) → Call V → Prop} {c : Call V} :
    (∃ before c' after, calls ++ [c] = before ++ c' :: after ∧ P before c') ↔
      (∃ before c' after, calls = before ++ c' :: after ∧ P before c') ∨ P calls c := by
  constructor
  · intro h
    rcases h with ⟨before, c', after, hsplit, hP⟩
    rcases after.eq_nil_or_concat with rfl | ⟨rest, last, rfl⟩
    · rcases List.append_inj' hsplit rfl with ⟨rfl, hlast⟩
      cases hlast
      exact .inr hP
    · have hsplit' : calls ++ [c] = (before ++ c' :: rest) ++ [last] := by simpa using hsplit
      exact .inl ⟨before, c', rest, (List.append_inj' hsplit' rfl).1, hP⟩
  · intro h
    rcases h with ⟨before, c', after, rfl, hP⟩ | hP
    · exact ⟨before, c', after ++ [c], by simp, hP⟩
    · exact ⟨calls, c, [], rfl, hP⟩

end Service

end Async
end IdentityBillpay
