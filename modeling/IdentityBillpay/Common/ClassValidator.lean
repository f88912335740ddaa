import IdentityBillpay.Js.Json
import IdentityBillpay.Keycloak.Realm

/-!
# ClassValidator — the decorators that check the fields of a body

A field is given as it stands in the parsed body, with `none` for `undefined`. Its checks report
their messages from the lowest decorator up; `isLength` does not count variation selectors.

* `isNotEmpty`, `isString`, `minLength`, `maxLength`, `isUuid` — one decorator each;
* `validated` — the body goes on, or the messages go back.
-/

namespace IdentityBillpay
namespace Common

open Js Keycloak

/-- The length of a text as `MinLength` and `MaxLength` count it. -/
def textLength (text : String) : Nat :=
  (text.toList.filter fun c => c.toNat ≠ 0xFE0E && c.toNat ≠ 0xFE0F).length

/-- A check of a field: the message, when it fails. -/
abbrev Check := Option Json → List String

def check (passes : Bool) (message : String) : List String :=
  if passes then [] else [message]

def isNotEmpty (name : String) : Check
  | none | some .null => [s!"{name} should not be empty"]
  | some value => check (!value.isString "") s!"{name} should not be empty"

def isString (name : String) : Check
  | some (.string _) => []
  | _ => [s!"{name} must be a string"]

def minLength (name : String) (min : Nat) (value : Option Json) : List String :=
  match value with
  | some (.string text) =>
      check (min ≤ textLength text) s!"{name} must be longer than or equal to {min} characters"
  | _ => [s!"{name} must be longer than or equal to {min} characters"]

def maxLength (name : String) (max : Nat) (value : Option Json) : List String :=
  match value with
  | some (.string text) =>
      check (textLength text ≤ max) s!"{name} must be shorter than or equal to {max} characters"
  | _ => [s!"{name} must be shorter than or equal to {max} characters"]

def isUuid (uuid : String → Bool) (name : String) : Check
  | some (.string text) => check (uuid text) s!"{name} must be a UUID"
  | _ => [s!"{name} must be a UUID"]

/-- A text of so many characters. -/
def IsText (min max : Nat) (value : Json) : Prop :=
  ∃ text, value = .string text ∧ min ≤ textLength text ∧ textLength text ≤ max

/-- `@IsOptional()`: the checks of a field that is there. -/
def isOptional (checks : Check) : Check
  | none | some .null => []
  | value => checks value

/-- A body without complaints becomes a DTO; otherwise all messages are reported. -/
def validated {α : Type} (messages : List String) (dto : Option α) : Except HttpError α :=
  match messages, dto with
  | [], some dto => .ok dto
  | _, _ => .error (.badRequest (", ".intercalate messages))

theorem validated_ok {α : Type} {messages : List String} {dto? : Option α} {dto : α} :
    validated messages dto? = .ok dto ↔ messages = [] ∧ dto? = some dto := by
  cases messages with
  | nil =>
      cases dto? with
      | none => simp [validated]
      | some dto' => simp [validated]
  | cons message messages => simp [validated]

/-! ## What passes a list of checks -/

theorem check_eq_nil {passes : Bool} {message : String} :
    check passes message = [] ↔ passes = true := by
  cases passes with
  | true => simp [check]
  | false => simp [check]

theorem isString_eq_nil {name : String} {value : Option Json} :
    isString name value = [] ↔ ∃ text, value = some (.string text) := by
  rcases value with _ | ⟨_ | _ | _ | text | _ | _⟩ <;> simp [isString]

/-- `@IsNotEmpty() @IsString()`. -/
theorem nonEmptyText_eq_nil {name : String} {value : Option Json} :
    isString name value ++ isNotEmpty name value = [] ↔
      ∃ text, value = some (.string text) ∧ text ≠ "" := by
  rw [List.append_eq_nil_iff, isString_eq_nil]
  constructor
  · rintro ⟨⟨text, rfl⟩, hempty⟩
    refine ⟨text, rfl, ?_⟩
    simpa [isNotEmpty, check_eq_nil, Json.isString] using hempty
  · rintro ⟨text, rfl, hne⟩
    refine ⟨⟨text, rfl⟩, ?_⟩
    simpa [isNotEmpty, check_eq_nil, Json.isString] using hne

/-- `@IsNotEmpty() @IsString() @MinLength(min) @MaxLength(max)`. -/
theorem text_of_checks {name : String} {min max : Nat} {value : Option Json}
    (h : maxLength name max value ++ minLength name min value ++ isString name value ++
      isNotEmpty name value = []) :
    ∃ v, value = some v ∧ v.truthy = true ∧ IsText min max v := by
  rw [List.append_assoc, List.append_eq_nil_iff, List.append_eq_nil_iff, nonEmptyText_eq_nil] at h
  rcases h with ⟨⟨hmax, hmin⟩, text, rfl, hne⟩
  have hlower : min ≤ textLength text := by simpa [minLength, check_eq_nil] using hmin
  have hupper : textLength text ≤ max := by simpa [maxLength, check_eq_nil] using hmax
  exact ⟨_, rfl, by simpa [Json.truthy] using hne, text, rfl, hlower, hupper⟩

end Common
end IdentityBillpay
