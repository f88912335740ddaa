import IdentityBillpay.Js.Number

/-!
# Json — the values a request body is parsed to

* `Json` — the values of `JSON.parse`;
* `Json.property` — `body?.name`, for a name that no prototype has;
* `Json.truthy` — the conversion to a boolean;
* `Json.induct` — induction over arrays and objects.
-/

namespace IdentityBillpay
namespace Js

inductive Json
  | null
  | bool (b : Bool)
  | number (n : JsNumber)
  | string (s : String)
  | array (items : List Json)
  | object (members : List (String × Json))

namespace Json

def property (name : String) : Json → Option Json
  | .object members => members.lookup name
  | _ => none

def truthy : Json → Bool
  | .null => false
  | .bool b => b
  | .number n => n != .finite 0 0 && !n.isNaN
  | .string s => s != ""
  | .array _ | .object _ => true

/-- `value === s` for a string `s`. -/
def isString (s : String) : Json → Bool
  | .string t => t == s
  | _ => false

theorem isString_iff {s : String} {value : Json} : value.isString s = true ↔ value = .string s := by
  cases value with
  | string t => simp [isString]
  | null | bool _ | number _ | array _ | object _ => simp [isString]

/-- Induction over a value: what holds of all items, or of the values of all members, holds of the
array or the object. -/
@[elab_as_elim]
theorem induct {motive : Json → Prop} (null : motive .null) (bool : ∀ b, motive (.bool b))
    (number : ∀ n, motive (.number n)) (string : ∀ s, motive (.string s))
    (array : ∀ items, (∀ item ∈ items, motive item) → motive (.array items))
    (object : ∀ members, (∀ m ∈ members, motive m.2) → motive (.object members)) (value : Json) :
    motive value := by
  refine @Json.rec motive (fun items => ∀ item ∈ items, motive item)
    (fun members => ∀ m ∈ members, motive m.2) (fun m => motive m.2)
    null bool number string array object ?_ ?_ ?_ ?_ ?_ value
  · exact fun _ h => absurd h List.not_mem_nil
  · exact fun item items hitem hitems => List.forall_mem_cons.2 ⟨hitem, hitems⟩
  · exact fun _ h => absurd h List.not_mem_nil
  · exact fun m members hm hmembers => List.forall_mem_cons.2 ⟨hm, hmembers⟩
  · exact fun _ _ h => h

end Json

end Js
end IdentityBillpay
