import IdentityBillpay.Js.JsonText

/-!
# JsonRoundTrip — what is written as JSON is read back

* `Printable`, `Regular` — the values that the language holds and prints without loss;
* `stringBody_escaped`, `word_number` — the parts: strings and numbers;
* `readValue_stringify` — a value is read up to its last character;
* `parse_stringify`, `stringify_injective` — the round trip.
-/

namespace IdentityBillpay
namespace Js
namespace Json

variable {numberText : JsNumber → List Char}

/-- The text of the number is one of the JSON grammar, and is read as the number. -/
def Printable (numberText : JsNumber → List Char) (n : JsNumber) : Prop :=
  isNumber (numberText n) = true ∧ Number (String.ofList (numberText n)) = n

/-- A value as the language holds it: the numbers are finite, and objects list their members in
their order. -/
inductive Regular (numberText : JsNumber → List Char) : Json → Prop
  | null : Regular numberText .null
  | bool (b : Bool) : Regular numberText (.bool b)
  | number {m e : Int} (h : Printable numberText (.finite m e)) :
      Regular numberText (.number (.finite m e))
  | string (s : String) : Regular numberText (.string s)
  | array {items : List Json} (h : ∀ item ∈ items, Regular numberText item) :
      Regular numberText (.array items)
  | object {members : List (String × Json)} (harranged : arrange members = members)
      (h : ∀ m ∈ members, Regular numberText m.2) : Regular numberText (.object members)

/-! ## Single characters -/

theorem expect_cons {c : Char} (h : isSpace c = false) (rest : List Char) :
    expect c (c :: rest) = some rest := by
  simp [expect, h]

theorem expect_ne {c d : Char} (h : isSpace d = false) (hne : d ≠ c) (rest : List Char) :
    expect c (d :: rest) = none := by
  simp [expect, h, hne]

/-- What follows a value does not go on with a number or a literal. -/
def Stops (rest : List Char) : Prop :=
  ∀ c ∈ rest.head?, isWordChar c = false

theorem stops_cons {c : Char} (h : isWordChar c = false) (rest : List Char) :
    Stops (c :: rest) := by
  intro d hd
  cases hd
  exact h

/-! ## Strings -/

theorem hex4_low {n : Nat} (h : n < 0x20) :
    hex4 '0' '0' (hexDigit (n / 16)) (hexDigit (n % 16)) = some n := by
  have hhigh : hexValue (hexDigit (n / 16)) = some (n / 16) := hexValue_hexDigit (by omega)
  have hlow : hexValue (hexDigit (n % 16)) = some (n % 16) :=
    hexValue_hexDigit (Nat.mod_lt _ (by decide))
  have hzero : hexValue '0' = some 0 := by decide
  simp only [hex4, hhigh, hlow, hzero]
  exact congrArg some (by omega)

/-- An escaped character is read back. -/
theorem stringBody_escape (c : Char) (cs : List Char) :
    stringBody (escape c ++ cs) = (stringBody cs).map fun r => (c :: r.1, r.2) := by
  have hletters : ∀ e ∈ ESCAPES, unescape e.2 = some e.1 ∧ e.2 ≠ 'u' := by decide
  unfold escape
  split
  · next letter hlookup =>
      rcases List.lookup_eq_some_iff.1 hlookup with ⟨before, after, hentries, _⟩
      have hmem : (c, letter) ∈ ESCAPES := by
        rw [hentries]
        exact List.mem_append_right _ List.mem_cons_self
      rcases hletters _ hmem with ⟨hread, hnotu⟩
      change stringBody ('\\' :: letter :: cs) = _
      rw [stringBody, hread]
      exact fun _ _ _ _ _ hu => absurd hu hnotu
  · next hlookup =>
      have hplain : c ≠ '"' ∧ c ≠ '\\' := by
        constructor
        · rintro rfl
          cases hlookup
        · rintro rfl
          cases hlookup
      split
      · next hlow =>
          have hcode : Char.ofNat c.toNat = c := Char.ofNat_toNat c
          have hlowSurrogate : isLowSurrogate c.toNat = false := by
            simp [isLowSurrogate]
            omega
          have hhighSurrogate : isHighSurrogate c.toNat = false := by
            simp [isHighSurrogate]
            omega
          change stringBody ('\\' :: 'u' :: '0' :: '0' :: hexDigit (c.toNat / 16) ::
            hexDigit (c.toNat % 16) :: cs) = _
          rw [stringBody]
          simp only [hex4_low hlow, hlowSurrogate, hhighSurrogate, hcode, Bool.false_eq_true,
            if_false]
      · next hhigh =>
          change stringBody (c :: cs) = _
          rw [stringBody, if_neg]
          · exact fun h => h.elim hhigh hplain.2
          · exact hplain.1
          · exact fun _ _ _ _ _ h => absurd h hplain.2
          · exact fun _ _ h => absurd h hplain.2

theorem stringBody_escaped (cs rest : List Char) :
    stringBody (cs.flatMap escape ++ '"' :: rest) = some (cs, rest) := by
  induction cs with
  | nil => rfl
  | cons c cs ih =>
      rw [List.flatMap_cons, List.append_assoc, stringBody_escape, ih]
      rfl

/-! ## Numbers and literals -/

theorem isWordChar_of_isDigit {c : Char} (h : c.isDigit = true) : isWordChar c = true := by
  simp [isWordChar, Char.isAlphanum, h]

/-- The digits at the start of a text, and the rest. -/
theorem all_isWordChar_of_digits {cs : List Char}
    (h : (cs.dropWhile Char.isDigit).all isWordChar = true) : cs.all isWordChar = true := by
  rw [← List.takeWhile_append_dropWhile (p := Char.isDigit) (l := cs), List.all_append, h,
    Bool.and_true]
  exact List.all_eq_true.2 fun c hc => isWordChar_of_isDigit (List.mem_takeWhile_imp hc)

theorem isExponent_word {cs : List Char} (h : isExponent cs = true) : cs.all isWordChar = true := by
  have hletter : ∀ {e : Char}, e = 'e' ∨ e = 'E' → isWordChar e = true := by
    rintro e (rfl | rfl)
    · decide
    · decide
  have hdigits : ∀ {ds : List Char}, (∀ d ∈ ds, d.isDigit = true) →
      ∀ d ∈ ds, isWordChar d = true := fun hds d hd => isWordChar_of_isDigit (hds d hd)
  unfold isExponent at h
  split at h
  · rfl
  · simp only [Bool.and_eq_true, Bool.or_eq_true, beq_iff_eq, List.all_eq_true] at h
    rw [List.all_cons, List.all_cons, hletter h.1.1, List.all_eq_true.2 (hdigits h.2)]
    decide
  · simp only [Bool.and_eq_true, Bool.or_eq_true, beq_iff_eq, List.all_eq_true] at h
    rw [List.all_cons, List.all_cons, hletter h.1.1, List.all_eq_true.2 (hdigits h.2)]
    decide
  · simp only [Bool.and_eq_true, Bool.or_eq_true, beq_iff_eq, List.all_eq_true] at h
    rw [List.all_cons, hletter h.1.1, List.all_eq_true.2 (hdigits h.2)]
    decide

theorem isFraction_word {cs : List Char} (h : isFraction cs = true) : cs.all isWordChar = true := by
  unfold isFraction at h
  split at h
  · have hrest := isExponent_word (Bool.and_eq_true_iff.1 h).2
    rw [List.all_cons, all_isWordChar_of_digits hrest]
    decide
  · exact isExponent_word h

theorem isUnsignedNumber_word {cs : List Char} (h : isUnsignedNumber cs = true) :
    cs.all isWordChar = true ∧ ∃ c, cs.head? = some c ∧ c.isDigit = true := by
  unfold isUnsignedNumber at h
  split at h
  · rw [List.all_cons, isFraction_word h]
    exact ⟨rfl, '0', rfl, rfl⟩
  · next c rest _ =>
      have hparts := Bool.and_eq_true_iff.1 h
      rw [List.all_cons, isWordChar_of_isDigit hparts.1,
        all_isWordChar_of_digits (isFraction_word hparts.2)]
      exact ⟨rfl, c, rfl, hparts.1⟩
  · cases h

/-- A number is one word; it starts with a sign or a digit. -/
theorem isNumber_word {cs : List Char} (h : isNumber cs = true) :
    cs.all isWordChar = true ∧ ∃ c, cs.head? = some c ∧ (c = '-' ∨ c.isDigit = true) := by
  unfold isNumber at h
  split at h
  · rw [List.all_cons, (isUnsignedNumber_word h).1]
    exact ⟨rfl, '-', rfl, .inl rfl⟩
  · rcases isUnsignedNumber_word h with ⟨hall, c, hc, hdigit⟩
    exact ⟨hall, c, hc, .inr hdigit⟩

theorem word_number {n : JsNumber} (h : Printable numberText n) :
    word (numberText n) = some (.number n) := by
  have hne : ∀ literal, isNumber literal = false → numberText n ≠ literal := by
    rintro literal hfalse rfl
    rw [h.1] at hfalse
    cases hfalse
  rw [word, if_neg (hne _ (by decide)), if_neg (hne _ (by decide)), if_neg (hne _ (by decide)),
    if_pos h.1, h.2]

/-- A word is read up to its end. -/
theorem readWord_append {text rest : List Char} {value : Json} (hword : word text = some value)
    (hall : text.all isWordChar = true) (hstops : Stops rest) :
    readWord (text ++ rest) = some (value, rest) := by
  have hchars : ∀ c ∈ text, isWordChar c = true := List.all_eq_true.1 hall
  have hnext : rest.takeWhile isWordChar = [] ∧ rest.dropWhile isWordChar = rest := by
    cases rest with
    | nil => exact ⟨rfl, rfl⟩
    | cons c rest =>
        have hc := hstops c rfl
        simp [hc]
  rw [readWord, List.takeWhile_append_of_pos hchars, List.dropWhile_append_of_pos hchars, hnext.1,
    hnext.2, List.append_nil, hword]
  rfl

/-- A word is no string, no array and no object. -/
theorem readValue_word {text rest : List Char} {value : Json} (hword : word text = some value)
    (hall : text.all isWordChar = true) (hstops : Stops rest) (n : Nat) :
    readValue (n + 1) (text ++ rest) = some (value, rest) := by
  cases text with
  | nil => cases hword
  | cons c text =>
      have hc : isWordChar c = true := (Bool.and_eq_true_iff.1 hall).1
      have hne : ∀ {d : Char}, isWordChar d = false → c ≠ d := by
        rintro d hd rfl
        rw [hc] at hd
        cases hd
      have hspace : isSpace c = false := by
        simp only [isSpace, Bool.or_eq_false_iff, beq_eq_false_iff_ne]
        exact ⟨⟨⟨hne rfl, hne rfl⟩, hne rfl⟩, hne rfl⟩
      have hdrop : (c :: text ++ rest).dropWhile isSpace = c :: text ++ rest := by
        simp [hspace]
      rw [readValue, hdrop, readWord_append hword hall hstops]
      have hquote : c ≠ '"' := hne (by decide)
      have hbracket : c ≠ '[' := hne (by decide)
      have hbrace : c ≠ '{' := hne (by decide)
      simp only [List.cons_append, expect_ne hspace hquote, expect_ne hspace hbracket,
        expect_ne hspace hbrace]

/-! ## Values -/

/-- The value is read from its text, whatever follows. -/
def ReadsBack (numberText : JsNumber → List Char) (value : Json) : Prop :=
  ∀ rest, Stops rest → ∀ n, depth (stringify numberText value ++ rest) ≤ n →
    readValue n (stringify numberText value ++ rest) = some (value, rest)

/-- No value starts like the end of an array. -/
theorem stringify_head {value : Json} (h : Regular numberText value) :
    ∃ c cs, stringify numberText value = c :: cs ∧ isSpace c = false ∧ c ≠ ']' := by
  cases h with
  | null => exact ⟨'n', "ull".toList, rfl, rfl, by decide⟩
  | bool b =>
      cases b with
      | true => exact ⟨'t', "rue".toList, rfl, rfl, by decide⟩
      | false => exact ⟨'f', "alse".toList, rfl, rfl, by decide⟩
  | @number m e hprint =>
      rcases isNumber_word hprint.1 with ⟨_, c, hc, hstart⟩
      rcases List.head?_eq_some_iff.1 hc with ⟨cs, hcs⟩
      refine ⟨c, cs, hcs, ?_, ?_⟩
      · rcases hstart with rfl | hdigit
        · decide
        · simp only [isSpace, Bool.or_eq_false_iff, beq_eq_false_iff_ne]
          refine ⟨⟨⟨?_, ?_⟩, ?_⟩, ?_⟩ <;> rintro rfl <;> cases hdigit
      · rcases hstart with rfl | hdigit
        · decide
        · rintro rfl
          cases hdigit
  | string s => exact ⟨'"', _, rfl, rfl, by decide⟩
  | array _ => exact ⟨'[', _, rfl, rfl, by decide⟩
  | object _ _ => exact ⟨'{', _, rfl, rfl, by decide⟩

/-- Items that are read back one by one are read back together. -/
theorem readItems_join {items : List Json} (hne : items ≠ [])
    (hitems : ∀ item ∈ items, ReadsBack numberText item) (rest : List Char) {n : Nat}
    (hn : depth (join (items.map (stringify numberText)) ++ ']' :: rest) < n) :
    readItems n (join (items.map (stringify numberText)) ++ ']' :: rest) = some (items, rest) := by
  induction items generalizing n with
  | nil => exact absurd rfl hne
  | cons item items ih =>
      have hitem := hitems item List.mem_cons_self
      rcases n with _ | n
      · omega
      · cases items with
        | nil =>
            have htext : join ([item].map (stringify numberText)) = stringify numberText item := rfl
            rw [htext] at hn ⊢
            rw [readItems, hitem _ (stops_cons rfl rest) n (by omega)]
            rw [Option.bind_some, expect_ne rfl (by decide), expect_cons rfl]
            rfl
        | cons next items =>
            have htext : join ((item :: next :: items).map (stringify numberText)) ++ ']' :: rest =
                stringify numberText item ++
                  ',' :: (join ((next :: items).map (stringify numberText)) ++ ']' :: rest) := by
              simp [join]
            have hlater := @ih (by simp)
              (fun item hmem => hitems item (List.mem_cons_of_mem _ hmem)) n
            rw [htext] at hn ⊢
            have hshorter : depth (join ((next :: items).map (stringify numberText)) ++
                ']' :: rest) < n := by
              unfold depth at *
              simp only [List.length_append, List.length_cons] at *
              omega
            rw [readItems, hitem _ (stops_cons rfl _) n (by omega), Option.bind_some,
              expect_cons rfl]
            dsimp only
            rw [hlater hshorter]
            rfl

/-- The key and the colon in front of a value. -/
theorem memberText_append (key : String) (value : Json) (cs : List Char) :
    memberText numberText (key, value) ++ cs =
      '"' :: (key.toList.flatMap escape ++ '"' :: ':' :: (stringify numberText value ++ cs)) := by
  simp [memberText, quote]

theorem readMembers_last {key : String} {value : Json} {rest : List Char} {n : Nat}
    (hvalue : readValue n (stringify numberText value ++ '}' :: rest) = some (value, '}' :: rest)) :
    readMembers (n + 1) (memberText numberText (key, value) ++ '}' :: rest) =
      some ([(key, value)], rest) := by
  rw [memberText_append, readMembers, expect_cons rfl, Option.bind_some, stringBody_escaped,
    Option.bind_some, expect_cons rfl, Option.bind_some, hvalue, Option.bind_some,
    expect_ne rfl (by decide), expect_cons rfl, String.ofList_toList]
  rfl

theorem readMembers_more {key : String} {value : Json} {members : List (String × Json)}
    {cs rest : List Char} {n : Nat}
    (hvalue : readValue n (stringify numberText value ++ ',' :: cs) = some (value, ',' :: cs))
    (hmembers : readMembers n cs = some (members, rest)) :
    readMembers (n + 1) (memberText numberText (key, value) ++ ',' :: cs) =
      some ((key, value) :: members, rest) := by
  rw [memberText_append, readMembers, expect_cons rfl, Option.bind_some, stringBody_escaped,
    Option.bind_some, expect_cons rfl, Option.bind_some, hvalue, Option.bind_some,
    expect_cons rfl, String.ofList_toList]
  dsimp only
  rw [hmembers]
  rfl

theorem readMembers_join {members : List (String × Json)} (hne : members ≠ [])
    (hmembers : ∀ m ∈ members, ReadsBack numberText m.2) (rest : List Char) {n : Nat}
    (hn : depth (join (members.map (memberText numberText)) ++ '}' :: rest) ≤ n) :
    readMembers n (join (members.map (memberText numberText)) ++ '}' :: rest) =
      some (members, rest) := by
  induction members generalizing n with
  | nil => exact absurd rfl hne
  | cons m members ih =>
      rcases m with ⟨key, value⟩
      have hvalue := hmembers _ List.mem_cons_self
      rcases n with _ | n
      · simp [depth] at hn
      · -- A round is spent on the member, and its value is shorter than the member.
        have hshorter : ∀ cs, depth (memberText numberText (key, value) ++ cs) ≤ n + 1 →
            depth (stringify numberText value ++ cs) ≤ n := by
          intro cs hle
          rw [memberText_append] at hle
          unfold depth at *
          simp only [List.length_append, List.length_cons] at *
          omega
        cases members with
        | nil =>
            have htext : join ([(key, value)].map (memberText numberText)) =
                memberText numberText (key, value) := rfl
            rw [htext] at hn ⊢
            exact readMembers_last (hvalue _ (stops_cons rfl rest) n (hshorter _ hn))
        | cons next members =>
            have htext : join (((key, value) :: next :: members).map (memberText numberText)) ++
                '}' :: rest = memberText numberText (key, value) ++
                  ',' :: (join ((next :: members).map (memberText numberText)) ++ '}' :: rest) := by
              simp [join]
            rw [htext] at hn ⊢
            have hrest : depth (join ((next :: members).map (memberText numberText)) ++
                '}' :: rest) ≤ n := by
              have hle := hshorter _ hn
              unfold depth at *
              simp only [List.length_append, List.length_cons] at *
              omega
            exact readMembers_more (hvalue _ (stops_cons rfl _) n (hshorter _ hn))
              (ih (by simp) (fun m hmem => hmembers m (List.mem_cons_of_mem _ hmem)) hrest)

/-- A text that starts like an item does not start like the end of an array. -/
theorem expect_items {item : Json} (h : Regular numberText item) (items : List Json)
    (rest : List Char) :
    expect ']' (join ((item :: items).map (stringify numberText)) ++ ']' :: rest) = none := by
  rcases stringify_head h with ⟨c, cs, htext, hc, hne⟩
  cases items with
  | nil =>
      simp only [List.map_cons, List.map_nil, join, htext, List.cons_append]
      exact expect_ne hc hne _
  | cons next items =>
      simp only [List.map_cons, join, htext, List.cons_append]
      exact expect_ne hc hne _

theorem expect_members (m : String × Json) (members : List (String × Json)) (rest : List Char) :
    expect '}' (join ((m :: members).map (memberText numberText)) ++ '}' :: rest) = none := by
  rcases m with ⟨key, value⟩
  have hspace : isSpace '"' = false := rfl
  have hne : '"' ≠ '}' := by decide
  cases members with
  | nil => exact expect_ne hspace hne _
  | cons next members => exact expect_ne hspace hne _

/-- By induction over the value; an array and an object read their parts one after the other. -/
theorem readValue_stringify {value : Json} (h : Regular numberText value) :
    ReadsBack numberText value := by
  -- There is depth left for one value at least.
  have hpos : ∀ {cs : List Char} {n : Nat}, depth cs ≤ n → ∃ k, n = k + 1 := by
    intro cs n hn
    exact Nat.exists_eq_add_one.2 (Nat.lt_of_lt_of_le (by simp [depth]) hn)
  induction h with
  | null =>
      intro rest hstops n hn
      rcases hpos hn with ⟨k, rfl⟩
      exact readValue_word rfl rfl hstops k
  | bool b =>
      intro rest hstops n hn
      rcases hpos hn with ⟨k, rfl⟩
      cases b with
      | true => exact readValue_word rfl rfl hstops k
      | false => exact readValue_word rfl rfl hstops k
  | @number m e hprint =>
      intro rest hstops n hn
      rcases hpos hn with ⟨k, rfl⟩
      exact readValue_word (word_number hprint) (isNumber_word hprint.1).1 hstops k
  | string s =>
      intro rest _ n hn
      rcases hpos hn with ⟨k, rfl⟩
      have htext : stringify numberText (.string s) ++ rest =
          '"' :: (s.toList.flatMap escape ++ '"' :: rest) := by
        simp [stringify, quote]
      rw [htext, readValue, expect_cons rfl]
      dsimp only
      rw [stringBody_escaped, Option.map_some, String.ofList_toList]
  | @array items hregular ih =>
      intro rest _ n hn
      rcases hpos hn with ⟨k, rfl⟩
      have htext : stringify numberText (.array items) ++ rest =
          '[' :: (join (items.map (stringify numberText)) ++ ']' :: rest) := by
        simp [stringify, itemTexts_eq]
      rw [htext] at hn ⊢
      have hshorter : depth (join (items.map (stringify numberText)) ++ ']' :: rest) < k := by
        unfold depth at *
        rw [List.length_cons] at hn
        omega
      have hquote : expect '"' ('[' :: (join (items.map (stringify numberText)) ++ ']' :: rest)) =
          none := expect_ne rfl (by decide) _
      rw [readValue, hquote, expect_cons rfl]
      dsimp only
      cases items with
      | nil =>
          have hclose : expect ']' (join (([] : List Json).map (stringify numberText)) ++
              ']' :: rest) = some rest := expect_cons rfl rest
          rw [hclose]
      | cons item items =>
          rw [expect_items (hregular item List.mem_cons_self)]
          dsimp only
          rw [readItems_join (by simp) ih rest hshorter]
          rfl
  | @object members harranged hregular ih =>
      intro rest _ n hn
      rcases hpos hn with ⟨k, rfl⟩
      have htext : stringify numberText (.object members) ++ rest =
          '{' :: (join (members.map (memberText numberText)) ++ '}' :: rest) := by
        simp [stringify, memberTexts_eq]
      rw [htext] at hn ⊢
      have hshorter : depth (join (members.map (memberText numberText)) ++ '}' :: rest) ≤ k := by
        unfold depth at *
        rw [List.length_cons] at hn
        omega
      have hquote : expect '"' ('{' :: (join (members.map (memberText numberText)) ++
          '}' :: rest)) = none := expect_ne rfl (by decide) _
      have hbracket : expect '[' ('{' :: (join (members.map (memberText numberText)) ++
          '}' :: rest)) = none := expect_ne rfl (by decide) _
      rw [readValue, hquote, hbracket, expect_cons rfl]
      dsimp only
      cases members with
      | nil =>
          have hclose : expect '}' (join (([] : List (String × Json)).map
              (memberText numberText)) ++ '}' :: rest) = some rest := expect_cons rfl rest
          rw [hclose]
      | cons m members =>
          rw [expect_members]
          dsimp only
          rw [readMembers_join (by simp) ih rest hshorter]
          simp only [Option.map_some, harranged]

/-- A value is read from its own text. -/
theorem parse_stringify {value : Json} (h : Regular numberText value) :
    parse (stringify numberText value) = some value := by
  have hread := readValue_stringify h [] (fun _ hc => by cases hc)
    (depth (stringify numberText value ++ [])) le_rfl
  rw [List.append_nil] at hread
  rw [parse, hread]
  rfl

/-- Different values have different texts. -/
theorem stringify_injective {value value' : Json} (h : Regular numberText value)
    (h' : Regular numberText value')
    (htext : stringify numberText value = stringify numberText value') : value = value' := by
  have hparse := parse_stringify h
  rw [htext, parse_stringify h'] at hparse
  exact (Option.some.inj hparse).symm

end Json
end Js
end IdentityBillpay
