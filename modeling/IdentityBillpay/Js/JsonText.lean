import IdentityBillpay.Js.Hex
import IdentityBillpay.Js.Json
import IdentityBillpay.Js.Map
import IdentityBillpay.Js.StringToNumber
import Mathlib.Data.List.Sort
import Mathlib.Data.List.TakeWhile

/-!
# JsonText — JSON as text

The text of a number is a parameter: how the language prints a binary64 value is not modelled, only
what the texts are read as.

* `stringify` — `JSON.stringify(value)`;
* `arrange` — the members of an object in the order in which it lists them;
* `parse` — `JSON.parse(text)`, by recursive descent;
* `readValue_fuel` — the depth that `parse` starts with is enough for any text.
-/

namespace IdentityBillpay
namespace Js
namespace Json

/-! ## Writing -/

/-- The characters that are escaped by one letter. -/
def ESCAPES : List (Char × Char) :=
  [('"', '"'), ('\\', '\\'), (Char.ofNat 8, 'b'), (Char.ofNat 12, 'f'), ('\n', 'n'), ('\r', 'r'),
    ('\t', 't')]

/-- One character of a string, between the quotes. -/
def escape (c : Char) : List Char :=
  match ESCAPES.lookup c with
  | some letter => ['\\', letter]
  | none =>
      if c.toNat < 0x20 then
        ['\\', 'u', '0', '0', hexDigit (c.toNat / 16), hexDigit (c.toNat % 16)]
      else [c]

def quote (s : String) : List Char :=
  '"' :: (s.toList.flatMap escape ++ ['"'])

/-- `texts.join(',')`. -/
def join : List (List Char) → List Char
  | [] => []
  | text :: [] => text
  | text :: next :: texts => text ++ ',' :: join (next :: texts)

mutual

/-- `JSON.stringify(value)`, where `numberText` prints a finite number. -/
def stringify (numberText : JsNumber → List Char) : Json → List Char
  | .null => "null".toList
  | .bool true => "true".toList
  | .bool false => "false".toList
  | .number (.finite m e) => numberText (.finite m e)
  | .number _ => "null".toList
  | .string s => quote s
  | .array items => '[' :: (join (itemTexts numberText items) ++ [']'])
  | .object members => '{' :: (join (memberTexts numberText members) ++ ['}'])
termination_by structural value => value

def itemTexts (numberText : JsNumber → List Char) : List Json → List (List Char)
  | [] => []
  | item :: items => stringify numberText item :: itemTexts numberText items
termination_by structural items => items

def memberTexts (numberText : JsNumber → List Char) : List (String × Json) → List (List Char)
  | [] => []
  | m :: members => memberText numberText m :: memberTexts numberText members
termination_by structural members => members

def memberText (numberText : JsNumber → List Char) : String × Json → List Char
  | (key, value) => quote key ++ ':' :: stringify numberText value
termination_by structural m => m

end

theorem itemTexts_eq (numberText : JsNumber → List Char) (items : List Json) :
    itemTexts numberText items = items.map (stringify numberText) := by
  induction items with
  | nil => rfl
  | cons item items ih => rw [itemTexts, ih, List.map_cons]

theorem memberTexts_eq (numberText : JsNumber → List Char) (members : List (String × Json)) :
    memberTexts numberText members = members.map (memberText numberText) := by
  induction members with
  | nil => rfl
  | cons m members ih => rw [memberTexts, ih, List.map_cons]

/-! ## The members of an object -/

/-- The key as an array index. -/
def arrayIndex? (key : String) : Option Nat :=
  let cs := key.toList
  if cs ≠ [] ∧ cs.all Char.isDigit ∧ (cs.head? = some '0' → cs.length = 1) then
    let n := Nat.ofDigitChars 10 cs 0
    if n < 2 ^ 32 - 1 then some n else none
  else none

/-- The smaller index comes first. -/
def IndexLE (m m' : String × Json) : Prop :=
  (arrayIndex? m.1).getD 0 ≤ (arrayIndex? m'.1).getD 0

instance : DecidableRel IndexLE :=
  fun _ _ => inferInstanceAs (Decidable (_ ≤ _))

/-- The members as they are defined one by one: a key that is there already gets the new value. -/
def define (members : List (String × Json)) : List (String × Json) :=
  members.foldl (fun defined m => Map.put m.1 m.2 defined) []

/-- An object lists its array indices first and in order, then the other keys as they came. -/
def arrange (members : List (String × Json)) : List (String × Json) :=
  let defined := define members
  (defined.filter fun m => (arrayIndex? m.1).isSome).insertionSort IndexLE ++
    defined.filter fun m => (arrayIndex? m.1).isNone

example : (arrange [("b", .null), ("10", .null), ("a", .null), ("9", .null), ("b", .bool true)]).map
    Prod.fst = ["9", "10", "b", "a"] := by
  decide +kernel

/-! ## Reading -/

def isSpace (c : Char) : Bool :=
  c == ' ' || c == '\t' || c == '\n' || c == '\r'

/-- What follows the character, if it comes next. -/
def expect (c : Char) (cs : List Char) : Option (List Char) :=
  match cs.dropWhile isSpace with
  | d :: rest => if d = c then some rest else none
  | [] => none

def hex4 (a b c d : Char) : Option Nat := do
  let a ← hexValue a
  let b ← hexValue b
  let c ← hexValue c
  let d ← hexValue d
  return ((a * 16 + b) * 16 + c) * 16 + d

/-- What a letter behind a backslash stands for. -/
def unescape (letter : Char) : Option Char :=
  (('/', '/') :: ESCAPES.map Prod.swap).lookup letter

def isHighSurrogate (code : Nat) : Bool :=
  0xD800 ≤ code && code < 0xDC00

def isLowSurrogate (code : Nat) : Bool :=
  0xDC00 ≤ code && code < 0xE000

/-- The characters up to the closing quote, and what follows it. Half of a surrogate pair is no
character here. -/
def stringBody : List Char → Option (List Char × List Char)
  | [] => none
  | '"' :: rest => some ([], rest)
  | '\\' :: 'u' :: a :: b :: c :: d :: rest =>
      match hex4 a b c d with
      | none => none
      | some code =>
          if isLowSurrogate code then none
          else if isHighSurrogate code then
            match rest with
            | '\\' :: 'u' :: a' :: b' :: c' :: d' :: rest =>
                match hex4 a' b' c' d' with
                | none => none
                | some low =>
                    if isLowSurrogate low then
                      (stringBody rest).map fun r =>
                        (Char.ofNat (0x10000 + (code - 0xD800) * 0x400 + (low - 0xDC00)) :: r.1,
                          r.2)
                    else none
            | _ => none
          else (stringBody rest).map fun r => (Char.ofNat code :: r.1, r.2)
  | '\\' :: letter :: rest =>
      match unescape letter with
      | some c => (stringBody rest).map fun r => (c :: r.1, r.2)
      | none => none
  | c :: rest =>
      if c.toNat < 0x20 ∨ c = '\\' then none
      else (stringBody rest).map fun r => (c :: r.1, r.2)

/-- An exponent of a number, or none. -/
def isExponent : List Char → Bool
  | [] => true
  | e :: '+' :: ds | e :: '-' :: ds => (e == 'e' || e == 'E') && ds != [] && ds.all Char.isDigit
  | e :: ds => (e == 'e' || e == 'E') && ds != [] && ds.all Char.isDigit

/-- The digits behind the point, or none, and the exponent. -/
def isFraction : List Char → Bool
  | '.' :: cs => cs.head?.any Char.isDigit && isExponent (cs.dropWhile Char.isDigit)
  | cs => isExponent cs

def isUnsignedNumber : List Char → Bool
  | '0' :: cs => isFraction cs
  | c :: cs => c.isDigit && isFraction (cs.dropWhile Char.isDigit)
  | [] => false

/-- A number of the JSON grammar. -/
def isNumber : List Char → Bool
  | '-' :: cs => isUnsignedNumber cs
  | cs => isUnsignedNumber cs

/-- A character of a number or of a literal. -/
def isWordChar (c : Char) : Bool :=
  c.isAlphanum || c == '-' || c == '+' || c == '.'

/-- A number or a literal. -/
def word (cs : List Char) : Option Json :=
  if cs = "null".toList then some .null
  else if cs = "true".toList then some (.bool true)
  else if cs = "false".toList then some (.bool false)
  else if isNumber cs then some (.number (Number (String.ofList cs)))
  else none

def readWord (cs : List Char) : Option (Json × List Char) :=
  (word (cs.takeWhile isWordChar)).map fun value => (value, cs.dropWhile isWordChar)

mutual

/-- One value, and what follows it; the number bounds how deep the values lie in each other. -/
def readValue : Nat → List Char → Option (Json × List Char)
  | 0, _ => none
  | n + 1, cs =>
      match expect '"' cs with
      | some cs => (stringBody cs).map fun r => (.string (String.ofList r.1), r.2)
      | none =>
          match expect '[' cs with
          | some cs =>
              match expect ']' cs with
              | some cs => some (.array [], cs)
              | none => (readItems n cs).map fun r => (.array r.1, r.2)
          | none =>
              match expect '{' cs with
              | some cs =>
                  match expect '}' cs with
                  | some cs => some (.object [], cs)
                  | none => (readMembers n cs).map fun r => (.object (arrange r.1), r.2)
              | none => readWord (cs.dropWhile isSpace)

/-- The items up to the closing bracket, at least one. -/
def readItems : Nat → List Char → Option (List Json × List Char)
  | 0, _ => none
  | n + 1, cs =>
      (readValue n cs).bind fun item =>
        match expect ',' item.2 with
        | some cs => (readItems n cs).map fun items => (item.1 :: items.1, items.2)
        | none => (expect ']' item.2).map fun cs => ([item.1], cs)

/-- The members up to the closing brace, at least one. -/
def readMembers : Nat → List Char → Option (List (String × Json) × List Char)
  | 0, _ => none
  | n + 1, cs =>
      (expect '"' cs).bind fun cs => (stringBody cs).bind fun key =>
        (expect ':' key.2).bind fun cs => (readValue n cs).bind fun value =>
          match expect ',' value.2 with
          | some cs => (readMembers n cs).map fun members =>
              ((String.ofList key.1, value.1) :: members.1, members.2)
          | none => (expect '}' value.2).map fun cs => ([(String.ofList key.1, value.1)], cs)

end

/-- Each nested value takes two rounds and at least one character. -/
def depth (cs : List Char) : Nat :=
  2 * cs.length + 1

/-- `JSON.parse(text)`; nothing where it throws. -/
def parse (text : List Char) : Option Json :=
  (readValue (depth text) text).bind fun r =>
    if r.2.dropWhile isSpace = [] then some r.1 else none

/-! ## The depth -/

theorem expect_length {c : Char} {cs rest : List Char} (h : expect c cs = some rest) :
    rest.length < cs.length := by
  have hle := List.length_dropWhile_le isSpace cs
  unfold expect at h
  split at h
  · next d tail hdrop =>
      split at h
      · cases h
        rw [hdrop, List.length_cons] at hle
        omega
      · cases h
  · cases h

theorem stringBody_length {cs : List Char} {r : List Char × List Char}
    (h : stringBody cs = some r) : r.2.length < cs.length := by
  -- Each case reads on from a shorter text.
  have hmap : ∀ {rest : List Char} {c : Char} {r : List Char × List Char},
      (∀ r, stringBody rest = some r → r.2.length < rest.length) →
      (stringBody rest).map (fun r => (c :: r.1, r.2)) = some r → r.2.length < rest.length := by
    intro rest c r ih hr
    rcases Option.map_eq_some_iff.1 hr with ⟨r', hr', rfl⟩
    exact ih r' hr'
  fun_induction stringBody cs generalizing r with
  | case1 => cases h
  | case2 rest =>
      cases h
      simp
  | case3 => cases h
  | case4 => cases h
  | case5 => cases h
  | case6 a b c d code _ _ _ a' b' c' d' rest low _ _ ih =>
      have hlt := hmap (fun r => ih) h
      simp only [List.length_cons]
      omega
  | case7 => cases h
  | case8 => cases h
  | case9 a b c d rest code _ _ _ ih =>
      have hlt := hmap (fun r => ih) h
      simp only [List.length_cons]
      omega
  | case10 letter rest c _ _ ih =>
      have hlt := hmap (fun r => ih) h
      simp only [List.length_cons]
      omega
  | case11 => cases h
  | case12 => cases h
  | case13 c rest _ _ _ _ ih =>
      have hlt := hmap (fun r => ih) h
      simp only [List.length_cons]
      omega

theorem readWord_length {cs : List Char} {r : Json × List Char} (h : readWord cs = some r) :
    r.2.length < cs.length := by
  rcases Option.map_eq_some_iff.1 h with ⟨value, hword, rfl⟩
  have hne : cs.takeWhile isWordChar ≠ [] := by
    intro hnil
    rw [hnil] at hword
    cases hword
  have hparts := congrArg List.length (List.takeWhile_append_dropWhile (p := isWordChar) (l := cs))
  rw [List.length_append] at hparts
  have hpos := List.length_pos_iff.2 hne
  dsimp only
  omega

/-- Whatever is read takes at least one character. -/
theorem read_length (n : Nat) :
    (∀ cs r, readValue n cs = some r → r.2.length < cs.length) ∧
    (∀ cs r, readItems n cs = some r → r.2.length < cs.length) ∧
    ∀ cs r, readMembers n cs = some r → r.2.length < cs.length := by
  induction n with
  | zero =>
      refine ⟨fun _ _ h => ?_, fun _ _ h => ?_, fun _ _ h => ?_⟩
      · cases h
      · cases h
      · cases h
  | succ n ih =>
      rcases ih with ⟨ihvalue, ihitems, ihmembers⟩
      refine ⟨fun cs r h => ?_, fun cs r h => ?_, fun cs r h => ?_⟩
      · rw [readValue] at h
        split at h
        · next rest hquote =>
            rcases Option.map_eq_some_iff.1 h with ⟨r', hr', rfl⟩
            exact (stringBody_length hr').trans (expect_length hquote)
        · split at h
          · next rest hopen =>
              have hlt := expect_length hopen
              split at h
              · next rest' hclose =>
                  cases h
                  exact (expect_length hclose).trans hlt
              · rcases Option.map_eq_some_iff.1 h with ⟨r', hr', rfl⟩
                exact (ihitems rest r' hr').trans hlt
          · split at h
            · next rest hopen =>
                have hlt := expect_length hopen
                split at h
                · next rest' hclose =>
                    cases h
                    exact (expect_length hclose).trans hlt
                · rcases Option.map_eq_some_iff.1 h with ⟨r', hr', rfl⟩
                  exact (ihmembers rest r' hr').trans hlt
            · exact (readWord_length h).trans_le (List.length_dropWhile_le isSpace cs)
      · rw [readItems] at h
        rcases Option.bind_eq_some_iff.1 h with ⟨item, hitem, hrest⟩
        have hlt := ihvalue cs item hitem
        split at hrest
        · next rest hcomma =>
            rcases Option.map_eq_some_iff.1 hrest with ⟨items, hitems, rfl⟩
            exact (ihitems rest items hitems).trans ((expect_length hcomma).trans hlt)
        · rcases Option.map_eq_some_iff.1 hrest with ⟨rest, hclose, rfl⟩
          exact (expect_length hclose).trans hlt
      · rw [readMembers] at h
        rcases Option.bind_eq_some_iff.1 h with ⟨cs₁, hquote, h₁⟩
        rcases Option.bind_eq_some_iff.1 h₁ with ⟨key, hkey, h₂⟩
        rcases Option.bind_eq_some_iff.1 h₂ with ⟨cs₂, hcolon, h₃⟩
        rcases Option.bind_eq_some_iff.1 h₃ with ⟨value, hvalue, hrest⟩
        have hlt : value.2.length < cs.length :=
          (ihvalue cs₂ value hvalue).trans ((expect_length hcolon).trans
            ((stringBody_length hkey).trans (expect_length hquote)))
        split at hrest
        · next rest hcomma =>
            rcases Option.map_eq_some_iff.1 hrest with ⟨members, hmembers, rfl⟩
            exact (ihmembers rest members hmembers).trans ((expect_length hcomma).trans hlt)
        · rcases Option.map_eq_some_iff.1 hrest with ⟨rest, hclose, rfl⟩
          exact (expect_length hclose).trans hlt

/-- More depth than a text can need changes nothing. -/
theorem read_succ (n : Nat) :
    (∀ cs, depth cs ≤ n → readValue (n + 1) cs = readValue n cs) ∧
    (∀ cs, depth cs < n → readItems (n + 1) cs = readItems n cs) ∧
    ∀ cs, depth cs ≤ n → readMembers (n + 1) cs = readMembers n cs := by
  induction n with
  | zero =>
      refine ⟨fun cs h => ?_, fun cs h => ?_, fun cs h => ?_⟩
      · simp [depth] at h
      · simp [depth] at h
      · simp [depth] at h
  | succ n ih =>
      rcases ih with ⟨ihvalue, ihitems, ihmembers⟩
      refine ⟨fun cs h => ?_, fun cs h => ?_, fun cs h => ?_⟩
      · have hitems : ∀ rest, expect '[' cs = some rest →
            readItems (n + 1) rest = readItems n rest := by
          intro rest hopen
          have hlt := expect_length hopen
          exact ihitems rest (by unfold depth at *; omega)
        have hmembers : ∀ rest, expect '{' cs = some rest →
            readMembers (n + 1) rest = readMembers n rest := by
          intro rest hopen
          have hlt := expect_length hopen
          exact ihmembers rest (by unfold depth at *; omega)
        rw [readValue, readValue]
        cases hquote : expect '"' cs with
        | some rest => rfl
        | none =>
            cases hopen : expect '[' cs with
            | some rest => simp only [hitems rest hopen]
            | none =>
                cases hbrace : expect '{' cs with
                | some rest => simp only [hmembers rest hbrace]
                | none => rfl
      · rw [readItems, readItems, ihvalue cs (by omega)]
        refine Option.bind_congr fun item hitem => ?_
        have hlt := (read_length n).1 cs item hitem
        cases hcomma : expect ',' item.2 with
        | none => rfl
        | some rest =>
            have hlt' := expect_length hcomma
            simp only [ihitems rest (by unfold depth at *; omega)]
      · rw [readMembers, readMembers]
        refine Option.bind_congr fun cs₁ hquote => Option.bind_congr fun key hkey =>
          Option.bind_congr fun cs₂ hcolon => ?_
        have hshort : cs₂.length < cs.length :=
          (expect_length hcolon).trans ((stringBody_length hkey).trans (expect_length hquote))
        rw [ihvalue cs₂ (by unfold depth at *; omega)]
        refine Option.bind_congr fun value hvalue => ?_
        have hlt := (read_length n).1 cs₂ value hvalue
        cases hcomma : expect ',' value.2 with
        | none => rfl
        | some rest =>
            have hlt' := expect_length hcomma
            simp only [ihmembers rest (by unfold depth at *; omega)]

/-- The depth that `parse` starts with is enough: any other depth as large reads the same. -/
theorem readValue_fuel {cs : List Char} {n : Nat} (h : depth cs ≤ n) :
    readValue n cs = readValue (depth cs) cs := by
  induction n, h using Nat.le_induction with
  | base => rfl
  | succ n hle ih => exact ((read_succ n).1 cs hle).trans ih

end Json
end Js
end IdentityBillpay
