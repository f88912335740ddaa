import IdentityBillpay.Async.Protocol

/-!
# Lift — a program among operations of two kinds

* `Signature.sum` — the operations of two signatures;
* `Program.lift` — a program of the left one, read as a program of both;
* `lift_bind`, `lift_settled` — lifting commutes with the constructs of a program;
* `follows_lift` — a lifted program awaits operations of the left one only.
-/

namespace IdentityBillpay
namespace Async

variable {σ τ : Signature} {ε α β : Type}

/-- The operations of two signatures. -/
def Signature.sumRes (σ τ : Signature) : σ.Op ⊕ τ.Op → Type
  | .inl op => σ.Res op
  | .inr op => τ.Res op

abbrev Signature.sum (σ τ : Signature) : Signature := ⟨σ.Op ⊕ τ.Op, σ.sumRes τ⟩

namespace Program

/-- The same program, with more operations at hand. -/
def lift (τ : Signature) : Program σ ε α → Program (σ.sum τ) ε α
  | .resolve a => .resolve a
  | .reject e => .reject e
  | .await op k => .await (.inl op) fun r => lift τ (k r)

@[simp] theorem lift_resolve (a : α) : lift τ (.resolve a : Program σ ε α) = .resolve a := rfl

@[simp] theorem lift_reject (e : ε) : lift τ (.reject e : Program σ ε α) = .reject e := rfl

@[simp] theorem lift_settled (r : Except ε α) :
    lift τ (settled r : Program σ ε α) = settled r := by
  cases r with
  | ok a => rfl
  | error e => rfl

theorem lift_bind (p : Program σ ε α) (f : α → Program σ ε β) :
    lift τ (p >>= f) = lift τ p >>= fun a => lift τ (f a) := by
  induction p with
  | resolve a => rfl
  | reject e => rfl
  | await op k ih => exact congrArg (Program.await _) (funext fun r => ih r)

/-- No operation of the right signature is awaited. -/
theorem follows_lift (own : List (Awaited (σ.sum τ) ε)) (p : Program σ ε α) :
    Follows (fun _ (op : σ.Op ⊕ τ.Op) => op.isLeft = true) (fun _ _ => True) own (lift τ p) := by
  induction p generalizing own with
  | resolve a => trivial
  | reject e => trivial
  | await op k ih => exact ⟨rfl, fun r => ih r _⟩

end Program

end Async
end IdentityBillpay
