import IdentityBillpay.Async.Serial

/-!
# Rounds — calls whose traces hand on further requests

A call may hand on requests: events for which others listen. A round is a call together with the
requests that it hands on, all of them answered before the next round begins.

* `Service.roundCalls` — the calls of a round, in order;
* `Service.settle` — the state after a list of rounds;
* `Service.RoundsComply`, `settle_induction` — a condition on every round, and the induction rule.
-/

namespace IdentityBillpay
namespace Async

variable {σ : Signature} {ε : Type}

/-- `handling n` is what the environment decides while the `n`-th request handed on is answered. -/
structure Round (V : Service σ ε) extends Call V where
  handling : Nat → Nat → V.Choice

namespace Service

variable (V : Service σ ε) (handsOn : List (Awaited σ ε) → List V.Request)

/-- The calls of a round that begins in the state `s`. -/
def roundCalls (s : V.State) (r : Round V) : List (Call V) :=
  r.toCall ::
    (handsOn (V.answer s r.toCall).awaited).mapIdx fun n request => ⟨request, r.handling n⟩

/-- The state after the rounds. -/
def settle (s : V.State) (rounds : List (Round V)) : V.State :=
  rounds.foldl (fun s r => V.serve s (V.roundCalls handsOn s r)) s

/-- Every round satisfies `C` in the state it begins in. -/
def RoundsComply (C : V.State → Round V → Prop) : V.State → List (Round V) → Prop
  | _, [] => True
  | s, r :: rounds => C s r ∧ RoundsComply C (V.serve s (V.roundCalls handsOn s r)) rounds

instance decidableRoundsComply (C : V.State → Round V → Prop) [∀ s r, Decidable (C s r)] :
    (s : V.State) → (rounds : List (Round V)) → Decidable (V.RoundsComply handsOn C s rounds)
  | _, [] => .isTrue trivial
  | s, r :: rounds =>
      have := decidableRoundsComply C (V.serve s (V.roundCalls handsOn s r)) rounds
      inferInstanceAs
        (Decidable (C s r ∧ V.RoundsComply handsOn C (V.serve s (V.roundCalls handsOn s r)) rounds))

variable {V handsOn}

/-- A property of states that every complying round keeps holds after all of them. -/
theorem settle_induction {C : V.State → Round V → Prop} {I : V.State → Prop} {s : V.State}
    {rounds : List (Round V)} (hinit : I s)
    (hstep : ∀ s r, I s → C s r → I (V.serve s (V.roundCalls handsOn s r)))
    (hC : V.RoundsComply handsOn C s rounds) : I (V.settle handsOn s rounds) := by
  induction rounds generalizing s with
  | nil => exact hinit
  | cons r rounds ih => exact ih (hstep s r hinit hC.1) hC.2

end Service

end Async
end IdentityBillpay
