import IdentityBillpay.Js.Hex
import IdentityBillpay.Js.Json
import IdentityBillpay.Js.Text

/-!
# Masking — what the log shows of a body

The functions of `masking.util.ts` and `maskPii` of `logging.interceptor.ts`.

* `maskMobile`, `maskEmail` — one text;
* `maskText` — a text, by the key it lies under;
* `maskPii` — a whole value.
-/

namespace IdentityBillpay
namespace Common

open Js

/-! ## Texts -/

/-- `replace(/(\d{2})\d+(\d{2})/, '$1******$2')`: the first run of at least five digits. -/
def maskMobileChars : List Char → List Char
  | [] => []
  | c :: cs =>
      let run := (c :: cs).takeWhile Char.isDigit
      if 5 ≤ run.length then
        run.take 2 ++ "******".toList ++ run.drop (run.length - 2) ++ (c :: cs).dropWhile Char.isDigit
      else c :: maskMobileChars cs

def maskMobile (mobile : String) : String :=
  String.ofList (maskMobileChars mobile.toList)

/-- `text.slice(0, units)`, in code units; a character that is cut in half becomes a replacement
character. -/
def sliceUnits : Nat → List Char → List Char
  | _, [] => []
  | 0, _ => []
  | 1, c :: _ => if c.toNat < 0x10000 then [c] else [Char.ofNat 0xFFFD]
  | units + 2, c :: cs =>
      if c.toNat < 0x10000 then c :: sliceUnits (units + 1) cs else c :: sliceUnits units cs

def maskEmail (email : String) : String :=
  match split '@' email with
  | user :: domain :: _ =>
      if domain = "" then email
      else String.ofList (sliceUnits 2 user.toList) ++ "***@" ++ domain
  | _ => email

/-! ## Values -/

/-- `/mobile|phone/i`. -/
def MOBILE_KEY_PATTERN (key : String) : Bool :=
  testWord "MOBILE" key.toList || testWord "PHONE" key.toList

/-- `/email/i`. -/
def EMAIL_KEY_PATTERN (key : String) : Bool :=
  testWord "EMAIL" key.toList

/-- `/^\d{10}$/`. -/
def MOBILE_VALUE_PATTERN (text : String) : Bool :=
  text.toList.length == 10 && text.toList.all Char.isDigit

/-- A text, by the key it lies under. -/
def maskText (keyHint : Option String) (text : String) : String :=
  if keyHint.any MOBILE_KEY_PATTERN && MOBILE_VALUE_PATTERN text then maskMobile text
  else if keyHint.any EMAIL_KEY_PATTERN && text.toList.contains '@' then maskEmail text
  else text

mutual

def maskPii (keyHint : Option String) : Json → Json
  | .null => .null
  | .bool b => .bool b
  | .number n => .number n
  | .string text => .string (maskText keyHint text)
  | .array items => .array (maskItems items)
  | .object members => .object (maskMembers members)
termination_by structural value => value

/-- `value.map((item) => maskPii(item))`. -/
def maskItems : List Json → List Json
  | [] => []
  | item :: items => maskPii none item :: maskItems items
termination_by structural items => items

/-- `masked[key] = maskPii(val, key)` for each entry. The key `__proto__` names no member of `masked`:
assigning to it sets the prototype, or nothing. -/
def maskMembers : List (String × Json) → List (String × Json)
  | [] => []
  | member :: members =>
      if member.1 = "__proto__" then maskMembers members
      else maskMember member :: maskMembers members
termination_by structural members => members

def maskMember : String × Json → String × Json
  | (key, value) => (key, maskPii (some key) value)
termination_by structural member => member

end

theorem maskMember_eq (member : String × Json) :
    maskMember member = (member.1, maskPii (some member.1) member.2) := by
  rcases member with ⟨key, value⟩
  rfl

theorem maskItems_eq (items : List Json) : maskItems items = items.map (maskPii none) := by
  induction items with
  | nil => rfl
  | cons item items ih => rw [maskItems, List.map_cons, ih]

theorem maskMembers_eq (members : List (String × Json)) :
    maskMembers members = (members.filter fun m => m.1 ≠ "__proto__").map maskMember := by
  induction members with
  | nil => rfl
  | cons member members ih =>
      by_cases hproto : member.1 = "__proto__"
      · simp [maskMembers, hproto, ih]
      · simp [maskMembers, hproto, ih]

example : maskPii none (.object [("mobile", .string "9876543210"),
      ("user", .object [("email", .string "asha@bank.in")]), ("phones", .array [.string "9876543210"])]) =
    .object [("mobile", .string "98******10"), ("user", .object [("email", .string "as***@bank.in")]),
      ("phones", .array [.string "9876543210"])] := by
  rfl

end Common
end IdentityBillpay
