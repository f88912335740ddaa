import IdentityBillpay.Common.Masking
import Mathlib.Data.List.TakeWhile

/-!
# LogPrivacy — what `maskPii` hides and what it keeps

* `Place` — where in a value a text stands;
* `Related` — two values of one shape and with the same keys, whose texts are related;
* `SameBut`, `SameButUnder`, `Masked` — numbers that differ in their middle digits, the same for
  numbers right under a key, and texts that may be masked;
* `maskPii_eq_iff` — when two values that differ in such numbers are shown alike;
* `masked_iff` — when everything else of a value is kept;
* `shown_alike_iff` — both together.
-/

namespace IdentityBillpay
namespace Common

open Js

/-! ## Places -/

/-- Where a value stands: under a key, among the items of an array under a key, or elsewhere. -/
inductive Place
  | top
  | under (key : String)
  | within (key : String)

namespace Place

/-- The place of the items of an array. -/
def item : Place → Place
  | under key => within key
  | _ => top

/-- The key the recursion knows of. -/
def hint : Place → Option String
  | under key => some key
  | _ => none

/-- A mobile number is expected here. -/
def mobile : Place → Bool
  | top => false
  | under key | within key => MOBILE_KEY_PATTERN key

/-- An e-mail address is expected here. -/
def email : Place → Bool
  | under key => EMAIL_KEY_PATTERN key
  | _ => false

@[simp] theorem hint_item (p : Place) : p.item.hint = none := by
  cases p with
  | top => rfl
  | under key => rfl
  | within key => rfl

end Place

/-! ## Related values -/

/-- The values differ in texts only, and those are related at their places. -/
inductive Related (R : Place → String → String → Prop) : Place → Json → Json → Prop
  | null {p : Place} : Related R p .null .null
  | bool {p : Place} (b : Bool) : Related R p (.bool b) (.bool b)
  | number {p : Place} (n : JsNumber) : Related R p (.number n) (.number n)
  | same {p : Place} (text : String) : Related R p (.string text) (.string text)
  | text {p : Place} {text text' : String} (h : R p text text') :
      Related R p (.string text) (.string text')
  | array {p : Place} {items items' : List Json} (hlength : items.length = items'.length)
      (hitems : ∀ q ∈ items.zip items', Related R p.item q.1 q.2) :
      Related R p (.array items) (.array items')
  | object {p : Place} {members members' : List (String × Json)}
      (hkeys : members.map Prod.fst = members'.map Prod.fst)
      (hvalues : ∀ q ∈ members.zip members', Related R (.under q.1.1) q.1.2 q.2.2) :
      Related R p (.object members) (.object members')

/-- Some object in a value has a member of this name. -/
inductive HasKey (name : String) : Json → Prop
  | here {members : List (String × Json)} (h : name ∈ members.map Prod.fst) :
      HasKey name (.object members)
  | item {items : List Json} {value : Json} (hmem : value ∈ items) (h : HasKey name value) :
      HasKey name (.array items)
  | member {members : List (String × Json)} {m : String × Json} (hmem : m ∈ members)
      (h : HasKey name m.2) : HasKey name (.object members)

section Related

variable {R : Place → String → String → Prop} {p : Place} {name : String}

theorem related_array {items items' : List Json} :
    Related R p (.array items) (.array items') ↔ items.length = items'.length ∧
      ∀ q ∈ items.zip items', Related R p.item q.1 q.2 := by
  constructor
  · intro h
    cases h with
    | array hlength hitems => exact ⟨hlength, hitems⟩
  · exact fun h => .array h.1 h.2

theorem related_object {members members' : List (String × Json)} :
    Related R p (.object members) (.object members') ↔
      members.map Prod.fst = members'.map Prod.fst ∧
        ∀ q ∈ members.zip members', Related R (.under q.1.1) q.1.2 q.2.2 := by
  constructor
  · intro h
    cases h with
    | object hkeys hvalues => exact ⟨hkeys, hvalues⟩
  · exact fun h => .object h.1 h.2

theorem related_string {text text' : String} :
    Related R p (.string text) (.string text') ↔ text = text' ∨ R p text text' := by
  constructor
  · intro h
    cases h with
    | same => exact .inl rfl
    | text h => exact .inr h
  · rintro (rfl | h)
    · exact .same text
    · exact .text h

theorem hasKey_array {items : List Json} :
    HasKey name (.array items) ↔ ∃ value ∈ items, HasKey name value := by
  constructor
  · intro h
    cases h with
    | item hmem h => exact ⟨_, hmem, h⟩
  · rintro ⟨value, hmem, h⟩
    exact .item hmem h

theorem hasKey_object {members : List (String × Json)} :
    HasKey name (.object members) ↔
      name ∈ members.map Prod.fst ∨ ∃ m ∈ members, HasKey name m.2 := by
  constructor
  · intro h
    cases h with
    | here h => exact .inl h
    | member hmem h => exact .inr ⟨_, hmem, h⟩
  · rintro (h | ⟨m, hmem, h⟩)
    · exact .here h
    · exact .member hmem h

end Related

/-! ## Lists side by side -/

section Lists

variable {α β : Type}

/-- Two lists of one length have the same image when the items side by side have. -/
theorem map_eq_map_iff {f : α → β} {xs ys : List α} (hlength : xs.length = ys.length) :
    xs.map f = ys.map f ↔ ∀ q ∈ xs.zip ys, f q.1 = f q.2 := by
  induction xs generalizing ys with
  | nil =>
      cases ys with
      | nil => simp
      | cons y ys => simp at hlength
  | cons x xs ih =>
      cases ys with
      | nil => simp at hlength
      | cons y ys => simp [ih (Nat.succ.inj hlength)]

/-- A list beside its own image. -/
theorem forall_zip_map {f : α → β} {P : α × β → Prop} {xs : List α} :
    (∀ q ∈ xs.zip (xs.map f), P q) ↔ ∀ x ∈ xs, P (x, f x) := by
  induction xs with
  | nil => simp
  | cons x xs ih => simp only [List.map_cons, List.zip_cons_cons, List.forall_mem_cons, ih]

end Lists

/-! ## Texts -/

/-- Two numbers that differ in their third to eighth digit only. -/
def SameEnds (text text' : String) : Prop :=
  MOBILE_VALUE_PATTERN text = true ∧ MOBILE_VALUE_PATTERN text' = true ∧
    text.toList.take 2 = text'.toList.take 2 ∧ text.toList.drop 8 = text'.toList.drop 8

/-- The texts are such numbers, where a mobile number is expected. -/
def SameBut (p : Place) (text text' : String) : Prop :=
  p.mobile = true ∧ SameEnds text text'

/-- And the number is the value of the key itself. -/
def SameButUnder (p : Place) (text text' : String) : Prop :=
  p.hint.isSome = true ∧ SameBut p text text'

/-- The text is a mobile number or an e-mail address, where one is expected. -/
def Masked (p : Place) (text _ : String) : Prop :=
  p.mobile = true ∧ MOBILE_VALUE_PATTERN text = true ∨ p.email = true ∧ '@' ∈ text.toList

section Texts

variable {p : Place} {text text' : String}

theorem maskMobile_number (h : MOBILE_VALUE_PATTERN text = true) :
    maskMobile text = String.ofList (text.toList.take 2 ++ "******".toList ++ text.toList.drop 8) := by
  simp only [MOBILE_VALUE_PATTERN, Bool.and_eq_true, beq_iff_eq] at h
  rcases h with ⟨hlength, hdigits⟩
  unfold maskMobile
  generalize text.toList = cs at hlength hdigits
  cases cs with
  | nil => cases hlength
  | cons c cs =>
      -- All of the text is one run of digits.
      have hrun : (c :: cs).takeWhile Char.isDigit = c :: cs :=
        List.takeWhile_eq_self_iff.2 fun d hd => List.all_eq_true.1 hdigits d hd
      have hrest : (c :: cs).dropWhile Char.isDigit = [] :=
        List.dropWhile_eq_nil_iff.2 fun d hd => List.all_eq_true.1 hdigits d hd
      simp only [maskMobileChars, hrun, hrest, hlength, Nat.reduceLeDiff, if_true, Nat.reduceSub,
        List.append_nil]

theorem maskMobile_eq (h : SameEnds text text') : maskMobile text = maskMobile text' := by
  rw [maskMobile_number h.1, maskMobile_number h.2.1, h.2.2.1, h.2.2.2]

/-- Two numbers with the same ends look alike under a key, and nowhere else. -/
theorem maskText_eq_iff (h : SameBut p text text') :
    maskText p.hint text = maskText p.hint text' ↔ text = text' ∨ SameButUnder p text text' := by
  rcases h with ⟨hmobile, hends⟩
  cases hhint : p.hint with
  | some key =>
      have hkey : MOBILE_KEY_PATTERN key = true := by
        cases p with
        | top => cases hhint
        | under key' =>
            cases hhint
            exact hmobile
        | within key' => cases hhint
      have halike : maskText (some key) text = maskText (some key) text' := by
        simp [maskText, hkey, hends.1, hends.2.1, maskMobile_eq hends]
      refine iff_of_true halike (.inr ⟨?_, hmobile, hends⟩)
      rw [hhint]
      rfl
  | none =>
      have hnone : ∀ t, maskText none t = t := fun t => rfl
      rw [hnone, hnone]
      constructor
      · exact .inl
      · rintro (heq | ⟨hsome, _⟩)
        · exact heq
        · rw [hhint] at hsome
          cases hsome

/-- What is masked is a number or an address that is expected there. -/
theorem maskText_masked (p : Place) (text : String) :
    text = maskText p.hint text ∨ Masked p text (maskText p.hint text) := by
  cases p with
  | top => exact .inl rfl
  | within key => exact .inl rfl
  | under key =>
      unfold maskText
      split
      · next hnumber =>
          simp only [Place.hint, Option.any_some, Bool.and_eq_true] at hnumber
          exact .inr (.inl hnumber)
      · split
        · next haddress =>
            simp only [Place.hint, Option.any_some, Bool.and_eq_true, List.contains_iff_mem]
              at haddress
            exact .inr (.inr haddress)
        · exact .inl rfl

end Texts

/-! ## Values -/

section Values

variable {p : Place} {value value' : Json}

/-- Without the name `__proto__` all members are kept. -/
theorem maskMembers_of_notMem {members : List (String × Json)}
    (h : "__proto__" ∉ members.map Prod.fst) : maskMembers members = members.map maskMember := by
  rw [maskMembers_eq, List.filter_eq_self.2]
  intro m hm
  have hne : m.1 ≠ "__proto__" := fun hproto => h (hproto ▸ List.mem_map_of_mem hm)
  simpa using hne

theorem maskPii_eq_iff (h : Related SameBut p value value') (hproto : ¬HasKey "__proto__" value) :
    maskPii p.hint value = maskPii p.hint value' ↔ Related SameButUnder p value value' := by
  induction value using Json.induct generalizing p value' with
  | null =>
      cases h with
      | null => exact iff_of_true rfl .null
  | bool b =>
      cases h with
      | bool => exact iff_of_true rfl (.bool b)
  | number n =>
      cases h with
      | number => exact iff_of_true rfl (.number n)
  | string text =>
      cases h with
      -- Two strings of the same place are masked by the same rule.
      | same => exact iff_of_true rfl (.same text)
      | text h =>
          rw [related_string, ← maskText_eq_iff h]
          simp [maskPii]
  | array items ih =>
      cases h with
      | @array _ _ items' hlength hitems =>
          have hno : ∀ item ∈ items, ¬HasKey "__proto__" item := fun item hitem hkey =>
            hproto (.item hitem hkey)
          rw [related_array]
          simp only [maskPii, maskItems_eq, Json.array.injEq, map_eq_map_iff hlength]
          constructor
          · refine fun heq => ⟨hlength, fun q hq => ?_⟩
            have hmem := (List.of_mem_zip hq).1
            have hitem := ih q.1 hmem (hitems q hq) (hno q.1 hmem)
            rw [Place.hint_item] at hitem
            exact hitem.1 (heq q hq)
          · intro hrelated q hq
            have hmem := (List.of_mem_zip hq).1
            have hitem := ih q.1 hmem (hitems q hq) (hno q.1 hmem)
            rw [Place.hint_item] at hitem
            exact hitem.2 (hrelated.2 q hq)
  | object members ih =>
      cases h with
      | @object _ _ members' hkeys hvalues =>
          have hlength : members.length = members'.length := by
            simpa using congrArg List.length hkeys
          -- Only a member called `__proto__` would be lost.
          have hname : "__proto__" ∉ members.map Prod.fst := fun hmem => hproto (.here hmem)
          have hno : ∀ m ∈ members, ¬HasKey "__proto__" m.2 := fun m hm hkey =>
            hproto (.member hm hkey)
          have hsame := (map_eq_map_iff hlength).1 hkeys
          have hmasked : maskPii p.hint (.object members) = .object (members.map maskMember) := by
            rw [maskPii, maskMembers_of_notMem hname]
          have hmasked' : maskPii p.hint (.object members') = .object (members'.map maskMember) := by
            rw [maskPii, maskMembers_of_notMem (hkeys ▸ hname)]
          rw [related_object, hmasked, hmasked', Json.object.injEq, map_eq_map_iff hlength]
          simp only [maskMember_eq, Prod.mk.injEq]
          constructor
          · refine fun heq => ⟨hkeys, fun q hq => ?_⟩
            have hmem := (List.of_mem_zip hq).1
            have hvalue := ih q.1 hmem (hvalues q hq) (hno q.1 hmem)
            have hmember := (heq q hq).2
            rw [← hsame q hq] at hmember
            exact hvalue.1 hmember
          · intro hrelated q hq
            have hmem := (List.of_mem_zip hq).1
            have hvalue := ih q.1 hmem (hvalues q hq) (hno q.1 hmem)
            refine ⟨hsame q hq, ?_⟩
            rw [← hsame q hq]
            exact hvalue.2 (hrelated.2 q hq)

/-- All that is not to be masked is kept, just when no member has the name `__proto__`. -/
theorem masked_iff :
    Related Masked p value (maskPii p.hint value) ↔ ¬HasKey "__proto__" value := by
  induction value using Json.induct generalizing p with
  | null => exact iff_of_true .null fun h => nomatch h
  | bool b => exact iff_of_true (.bool b) fun h => nomatch h
  | number n => exact iff_of_true (.number n) fun h => nomatch h
  | string text =>
      exact iff_of_true (related_string.2 (maskText_masked p text)) fun h => nomatch h
  | array items ih =>
      simp only [maskPii, maskItems_eq, related_array, hasKey_array, List.length_map, true_and,
        forall_zip_map, not_exists, not_and]
      refine forall₂_congr fun item hitem => ?_
      have hitem' := ih item hitem (p := p.item)
      rwa [Place.hint_item] at hitem'
  | object members ih =>
      rw [hasKey_object, not_or, maskPii]
      by_cases hname : "__proto__" ∈ members.map Prod.fst
      · refine iff_of_false ?_ fun hnot => hnot.1 hname
        -- The name is missing in what is shown.
        rw [related_object, maskMembers_eq]
        rintro ⟨hkeys, _⟩
        rw [hkeys] at hname
        rcases List.mem_map.1 hname with ⟨m, hm, hm'⟩
        rcases List.mem_map.1 hm with ⟨member, hmember, rfl⟩
        have hne := (List.mem_filter.1 hmember).2
        simp only [maskMember_eq] at hm'
        simp [hm'] at hne
      · have hkeys : members.map Prod.fst = (members.map maskMember).map Prod.fst := by
          rw [List.map_map]
          exact List.map_congr_left fun m _ => by rw [Function.comp_apply, maskMember_eq]
        rw [related_object, maskMembers_of_notMem hname, forall_zip_map]
        simp only [hkeys.symm, hname, true_and, not_false_eq_true, not_exists, not_and]
        refine forall₂_congr fun m hm => ?_
        rw [maskMember_eq]
        exact ih m hm

example : maskPii none (.object [("__proto__", .null)]) = .object [] := by
  rfl

/-- Two values that differ in such numbers are shown alike, and all else of them is kept, just when
the numbers lie right under their keys and no member has the name `__proto__`. -/
theorem shown_alike_iff (h : Related SameBut .top value value') :
    maskPii none value = maskPii none value' ∧ Related Masked .top value (maskPii none value) ↔
      Related SameButUnder .top value value' ∧ ¬HasKey "__proto__" value := by
  have hkept : Related Masked .top value (maskPii none value) ↔ ¬HasKey "__proto__" value :=
    masked_iff
  rw [hkept]
  exact and_congr_left fun hproto => maskPii_eq_iff h hproto

end Values

/-! ## A number in an array -/

def phoneBook (number : String) : Json :=
  .object [("name", .string "Asha"), ("mobile", .string number)]

def phoneList (number : String) : Json :=
  .object [("mobiles", .array [.string number])]

theorem phoneBook_alike :
    Related SameBut .top (phoneBook "9876543210") (phoneBook "9800000010") := by
  refine .object rfl fun q hq => ?_
  simp only [List.zip_cons_cons, List.zip_nil_right, List.mem_cons, List.not_mem_nil, or_false]
    at hq
  rcases hq with rfl | rfl
  · exact .same "Asha"
  · exact .text ⟨by decide, by decide, by decide, by decide, by decide⟩

theorem phoneBook_shown :
    maskPii none (phoneBook "9876543210") = maskPii none (phoneBook "9800000010") ∧
        Related Masked .top (phoneBook "9876543210") (maskPii none (phoneBook "9876543210")) ↔
      Related SameButUnder .top (phoneBook "9876543210") (phoneBook "9800000010") ∧
        ¬HasKey "__proto__" (phoneBook "9876543210") :=
  shown_alike_iff phoneBook_alike

/-- Among the items of an array a number is shown as it is. -/
theorem phoneList_shown :
    Related SameBut .top (phoneList "9876543210") (phoneList "9800000010") ∧
      maskPii none (phoneList "9876543210") ≠ maskPii none (phoneList "9800000010") := by
  constructor
  · refine .object rfl fun q hq => ?_
    simp only [List.zip_cons_cons, List.zip_nil_right, List.mem_cons, List.not_mem_nil, or_false]
      at hq
    subst hq
    refine .array rfl fun q hq => ?_
    simp only [List.zip_cons_cons, List.zip_nil_right, List.mem_cons, List.not_mem_nil, or_false]
      at hq
    subst hq
    exact .text ⟨by decide, by decide, by decide, by decide, by decide⟩
  · have hshown : ∀ number, maskPii none (phoneList number) = phoneList number := fun _ => rfl
    rw [hshown, hshown]
    intro heq
    have hmembers := congrArg (fun value => Json.property "mobiles" value) heq
    simp [phoneList, Json.property] at hmembers

end Common
end IdentityBillpay
