/-!
# Optional — a field of a request body that may be left out

* `Optional` — left out, `null`, or a value;
* `Optional.text?` — the text that a branch `if (field)` is taken for;
* `Optional.getD` — the assignment `if (field !== undefined) old = field`.
-/

namespace IdentityBillpay
namespace Js

/-- A field of a body that may be left out, and that `@IsOptional` also lets be `null`. -/
inductive Optional (α : Type)
  | undefined
  | null
  | value (a : α)
  deriving DecidableEq

namespace Optional

variable {α : Type}

/-- `field !== undefined`. -/
def isSet : Optional α → Bool
  | .undefined => false
  | _ => true

/-- `field ?? null`. -/
def toOption : Optional α → Option α
  | .value a => some a
  | _ => none

/-- What a branch `if (field)` sees of a text. -/
def text? (field : Optional String) : Option String :=
  field.toOption.filter fun text => text ≠ ""

/-- `if (field !== undefined) old = field`, where a `none` stands for `null`. -/
def getD (field : Optional α) (old : Option α) : Option α :=
  match field with
  | .undefined => old
  | .null => none
  | .value a => some a

def map {β : Type} (f : α → β) : Optional α → Optional β
  | .undefined => .undefined
  | .null => .null
  | .value a => .value (f a)

@[simp] theorem isSet_map {β : Type} (f : α → β) (field : Optional α) :
    (field.map f).isSet = field.isSet := by
  cases field with
  | undefined => rfl
  | null => rfl
  | value a => rfl

/-- A field that ends up with a value was given that value, or was left out. -/
theorem getD_eq_some {field : Optional α} {old : Option α} {a : α} :
    field.getD old = some a ↔ field = .value a ∨ (field.isSet = false ∧ old = some a) := by
  cases field with
  | undefined => simp [getD, isSet]
  | null => simp [getD, isSet]
  | value b => simp [getD, isSet]

end Optional

end Js
end IdentityBillpay
