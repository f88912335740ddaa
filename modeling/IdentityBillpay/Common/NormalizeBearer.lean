import IdentityBillpay.Js.Patterns
import IdentityBillpay.Js.Trim

/-!
# NormalizeBearer — `normalizeBearerMiddleware` of `normalize-bearer.middleware.ts`

* `afterBearer` — what `/^bearer\s+/i` leaves of a text it matches;
* `stripBearer` — the loop that takes prefixes away, each shorter than the text before;
* `normalizeBearerMiddleware` — the header that the next handler sees;
* `stripBearer_spec` — what the loop ends with;
* `stripBearer_prefixed` — one prefix more makes no difference;
* `normalizeBearer_normalForm` — the header is brought to a normal form.
-/

namespace IdentityBillpay
namespace Common

open Js

/-! ## The middleware -/

/-- `token.replace(/^bearer\s+/i, '')`, if the pattern matches. -/
def afterBearer (token : List Char) : Option (List Char) :=
  match stripWord "BEARER".toList token with
  | some (c :: rest) => if isWhiteSpace c then some (rest.dropWhile isWhiteSpace) else none
  | _ => none

/-- A match of the pattern: the word, white space, and what follows. -/
theorem afterBearer_eq_some_iff {token rest : List Char} :
    afterBearer token = some rest ↔ ∃ word c tail, token = word ++ c :: tail ∧
      word.map Char.toUpper = "BEARER".toList ∧ isWhiteSpace c = true ∧
        rest = tail.dropWhile isWhiteSpace := by
  constructor
  · intro h
    unfold afterBearer at h
    split at h
    · next c tail hstrip =>
        split at h
        · next hwhite =>
            rcases stripWord_eq_some_iff.1 hstrip with ⟨word, htoken, hword⟩
            exact ⟨word, c, tail, htoken, hword, hwhite, (Option.some.inj h).symm⟩
        · cases h
    · cases h
  · rintro ⟨word, c, tail, rfl, hword, hwhite, rfl⟩
    have hstrip : stripWord "BEARER".toList (word ++ c :: tail) = some (c :: tail) :=
      stripWord_eq_some_iff.2 ⟨word, rfl, hword⟩
    rw [afterBearer, hstrip]
    exact if_pos hwhite

example : afterBearer "bEARER \t token".toList = some "token".toList ∧
    afterBearer "Bearertoken".toList = none ∧ afterBearer "Bearer".toList = none := by
  decide

theorem length_afterBearer {token rest : List Char} (h : afterBearer token = some rest) :
    (trim rest).length < token.length := by
  rcases afterBearer_eq_some_iff.1 h with ⟨word, c, tail, rfl, _, _, rfl⟩
  have hdrop := List.length_dropWhile_le isWhiteSpace tail
  have htrim := length_trim_le (tail.dropWhile isWhiteSpace)
  rw [List.length_append, List.length_cons]
  omega

/-- `while (/^bearer\s+/i.test(token)) …`. -/
def stripBearer (token : List Char) : List Char :=
  match h : afterBearer token with
  | some rest => stripBearer (trim rest)
  | none => token
termination_by token.length
decreasing_by exact length_afterBearer h

/-- The header `authorization` behind the middleware. -/
def normalizeBearerMiddleware (authorization : Option String) : Option String :=
  match authorization with
  | none => none
  | some authHeader =>
      if authHeader = "" then authorization
      else
        match stripBearer (trim authHeader.toList) with
        -- Nothing but prefixes: the header stays as it was sent.
        | [] => authorization
        | c :: token => some ("Bearer " ++ String.ofList (c :: token))

/-! ## What the loop ends with -/

/-- The text starts with the word, in any case, and white space. -/
def StartsWithBearer (token : List Char) : Prop :=
  ∃ word c tail, token = word ++ c :: tail ∧ word.map Char.toUpper = "BEARER".toList ∧
    isWhiteSpace c = true

theorem afterBearer_eq_none_iff {token : List Char} :
    afterBearer token = none ↔ ¬ StartsWithBearer token := by
  constructor
  · rintro hnone ⟨word, c, tail, htoken, hword, hwhite⟩
    have hsome := afterBearer_eq_some_iff.2 ⟨word, c, tail, htoken, hword, hwhite, rfl⟩
    cases hnone.symm.trans hsome
  · intro hnot
    cases hafter : afterBearer token with
    | none => rfl
    | some rest =>
        rcases afterBearer_eq_some_iff.1 hafter with ⟨word, c, tail, htoken, hword, hwhite, _⟩
        exact absurd ⟨word, c, tail, htoken, hword, hwhite⟩ hnot

theorem stripBearer_of_some {token rest : List Char} (h : afterBearer token = some rest) :
    stripBearer token = stripBearer (trim rest) := by
  rw [stripBearer]
  split
  · next rest' h' =>
      cases h.symm.trans h'
      rfl
  · next h' => cases h.symm.trans h'

theorem stripBearer_of_none {token : List Char} (h : afterBearer token = none) :
    stripBearer token = token := by
  rw [stripBearer]
  split
  · next rest h' => cases h.symm.trans h'
  · rfl

/-- A trimmed token does not end with the white space of a prefix. -/
theorem trim_afterBearer_ne_nil {token rest : List Char} (htrimmed : Trimmed token)
    (h : afterBearer token = some rest) : trim rest ≠ [] := by
  rcases afterBearer_eq_some_iff.1 h with ⟨word, c, tail, rfl, _, hwhite, rfl⟩
  intro hnil
  have htail : ∀ d ∈ tail.dropWhile isWhiteSpace, isWhiteSpace d = true := trim_eq_nil_iff.1 hnil
  have hall : ∀ d ∈ c :: tail, isWhiteSpace d = true := by
    intro d hd
    rcases List.mem_cons.1 hd with rfl | hd
    · exact hwhite
    · rw [← List.takeWhile_append_dropWhile (p := isWhiteSpace) (l := tail)] at hd
      rcases List.mem_append.1 hd with htaken | hkept
      · exact List.mem_takeWhile_imp htaken
      · exact htail d hkept
  have hne : c :: tail ≠ [] := List.cons_ne_nil c tail
  have hlast : (word ++ c :: tail).getLast? = some ((c :: tail).getLast hne) := by
    rw [List.getLast?_append, List.getLast?_eq_some_getLast hne, Option.some_or]
  have hfalse := htrimmed.2 _ hlast
  rw [hall _ (List.getLast_mem hne)] at hfalse
  cases hfalse

/-- By induction along the rounds of the loop: each round goes on with a trimmed text that is not
empty, and the last one finds no prefix. -/
theorem stripBearer_spec (token : List Char) (htrimmed : Trimmed token) (hne : token ≠ []) :
    Trimmed (stripBearer token) ∧ stripBearer token ≠ [] ∧
      ¬ StartsWithBearer (stripBearer token) := by
  induction token using stripBearer.induct with
  | case1 token rest hafter ih =>
      rw [stripBearer_of_some hafter]
      exact ih (trimmed_trim rest) (trim_afterBearer_ne_nil htrimmed hafter)
  | case2 token hafter =>
      rw [stripBearer_of_none hafter]
      exact ⟨htrimmed, hne, afterBearer_eq_none_iff.1 hafter⟩

/-! ## Prefixes -/

/-- A prefix in front of a text that is not blank is taken away in the first round. -/
theorem stripBearer_prefixed {word white cs : List Char}
    (hword : word.map Char.toUpper = "BEARER".toList) (hne : white ≠ [])
    (hwhite : ∀ c ∈ white, isWhiteSpace c = true) (hcs : trim cs ≠ []) :
    stripBearer (trim (word ++ white ++ cs)) = stripBearer (trim cs) := by
  have hend : trimEnd cs ≠ [] := fun hnil => hcs (trim_eq_nil_iff.2 (trimEnd_eq_nil_iff.1 hnil))
  have htrim : trim (word ++ white ++ cs) = word ++ white ++ trimEnd cs := by
    have hfront : (word ++ white ++ cs).dropWhile isWhiteSpace = word ++ white ++ cs := by
      refine dropWhile_of_head fun c hc => ?_
      cases word with
      | nil => cases hword
      | cons b word =>
          have hb : c.toUpper = 'B' := by
            rw [← Option.some.inj (Option.mem_def.1 hc)]
            exact (List.cons_eq_cons.1 hword).1
          -- White space has no upper case, so it does not become a letter.
          refine Bool.eq_false_iff.2 fun hspace => ?_
          rw [← toUpper_of_isWhiteSpace hspace, hb] at hspace
          cases hspace
    rw [trim_eq, hfront, trimEnd_append hend]
  cases white with
  | nil => exact absurd rfl hne
  | cons c white =>
      have hafter : afterBearer (word ++ (c :: white) ++ trimEnd cs) =
          some ((white ++ trimEnd cs).dropWhile isWhiteSpace) :=
        afterBearer_eq_some_iff.2 ⟨word, c, white ++ trimEnd cs, List.append_assoc _ _ _, hword,
          hwhite c List.mem_cons_self, rfl⟩
      have hdrop : (white ++ trimEnd cs).dropWhile isWhiteSpace =
          (trimEnd cs).dropWhile isWhiteSpace :=
        List.dropWhile_append_of_pos fun d hd => hwhite d (List.mem_cons_of_mem _ hd)
      calc stripBearer (trim (word ++ (c :: white) ++ cs))
          = stripBearer (trim ((trimEnd cs).dropWhile isWhiteSpace)) := by
            rw [htrim, stripBearer_of_some hafter, hdrop]
        _ = stripBearer (trim cs) := by rw [trim_dropWhile, trim_trimEnd]

/-! ## The normal form -/

/-- The header `h` behind any number of prefixes, each in its own case and with its own white
space. -/
inductive Prefixed (h : String) : String → Prop
  | self : Prefixed h h
  | bearer {word white h' : String} (hword : word.toList.map Char.toUpper = "BEARER".toList)
      (hne : white ≠ "") (hwhite : ∀ c ∈ white.toList, isWhiteSpace c = true)
      (hrest : Prefixed h h') : Prefixed h (word ++ white ++ h')

/-- Nothing but white space. -/
def Blank (h : String) : Prop :=
  ∀ c ∈ h.toList, isWhiteSpace c = true

theorem not_blank_iff {h : String} : ¬ Blank h ↔ trim h.toList ≠ [] :=
  not_congr trim_eq_nil_iff.symm

theorem normalize_blank {h : String} (hblank : Blank h) :
    normalizeBearerMiddleware (some h) = some h := by
  have hnone : stripBearer (trim h.toList) = [] := by
    rw [trim_eq_nil_iff.2 hblank]
    exact stripBearer_of_none rfl
  simp [normalizeBearerMiddleware, hnone]

theorem normalize_not_blank {h : String} (hblank : ¬ Blank h) : normalizeBearerMiddleware (some h) =
    some ("Bearer " ++ String.ofList (stripBearer (trim h.toList))) := by
  have hne : h ≠ "" := by
    rintro rfl
    exact hblank fun c hc => absurd hc List.not_mem_nil
  have htoken := (stripBearer_spec _ (trimmed_trim h.toList) (not_blank_iff.1 hblank)).2.1
  cases hstrip : stripBearer (trim h.toList) with
  | nil => exact absurd hstrip htoken
  | cons c token => simp [normalizeBearerMiddleware, hne, hstrip]

/-- A prefixed header is not blank, and the loop takes its prefixes away. -/
theorem stripBearer_of_prefixed {h h' : String} (hblank : ¬ Blank h) (hprefixed : Prefixed h h') :
    ¬ Blank h' ∧ stripBearer (trim h'.toList) = stripBearer (trim h.toList) := by
  induction hprefixed with
  | self => exact ⟨hblank, rfl⟩
  | @bearer word white h' hword hne hwhite _ ih =>
      have hwhite' : white.toList ≠ [] := fun hnil => hne (String.toList_inj.1 hnil)
      refine ⟨fun hall => ih.1 fun c hc => hall c ?_, ?_⟩
      · rw [String.toList_append]
        exact List.mem_append_right _ hc
      · rw [String.toList_append, String.toList_append,
          stripBearer_prefixed hword hwhite' hwhite (not_blank_iff.1 ih.1), ih.2]

/-- A blank header stays as it is. Any other becomes `Bearer` and a trimmed token without a prefix,
which is the same under all prefixes; and a second pass changes nothing. -/
theorem normalizeBearer_normalForm (h : String) :
    (Blank h → normalizeBearerMiddleware (some h) = some h) ∧
    (¬ Blank h →
      (∃ token, normalizeBearerMiddleware (some h) = some ("Bearer " ++ token) ∧ token ≠ "" ∧
        Trimmed token.toList ∧ ¬ StartsWithBearer token.toList) ∧
      ∀ h', Prefixed h h' →
        normalizeBearerMiddleware (some h') = normalizeBearerMiddleware (some h)) ∧
    normalizeBearerMiddleware (normalizeBearerMiddleware (some h)) =
      normalizeBearerMiddleware (some h) := by
  have hprefixes : ∀ {h h' : String}, ¬ Blank h → Prefixed h h' →
      normalizeBearerMiddleware (some h') = normalizeBearerMiddleware (some h) := by
    intro h h' hblank hprefixed
    rcases stripBearer_of_prefixed hblank hprefixed with ⟨hblank', hsame⟩
    rw [normalize_not_blank hblank, normalize_not_blank hblank', hsame]
  have htoken : ¬ Blank h →
      ∃ token, normalizeBearerMiddleware (some h) = some ("Bearer " ++ token) ∧ token ≠ "" ∧
        Trimmed token.toList ∧ ¬ StartsWithBearer token.toList := by
    intro hblank
    rcases stripBearer_spec _ (trimmed_trim h.toList) (not_blank_iff.1 hblank) with
      ⟨htrimmed, hne, hstart⟩
    refine ⟨_, normalize_not_blank hblank, fun hempty => hne ?_, ?_, ?_⟩
    · simpa using congrArg String.toList hempty
    · rwa [String.toList_ofList]
    · rwa [String.toList_ofList]
  refine ⟨normalize_blank, fun hblank => ⟨htoken hblank, fun h' => hprefixes hblank⟩, ?_⟩
  by_cases hblank : Blank h
  · rw [normalize_blank hblank, normalize_blank hblank]
  · rcases htoken hblank with ⟨token, hnormal, hne, htrimmed, hstart⟩
    -- The header is its own token behind one prefix.
    have hblank' : ¬ Blank token := by
      rw [not_blank_iff, trim_of_trimmed htrimmed]
      exact fun hnil => hne (String.toList_inj.1 hnil)
    have hspace : ∀ c ∈ " ".toList, isWhiteSpace c = true := by
      intro c hc
      rw [List.mem_singleton.1 hc]
      rfl
    have hprefixed : Prefixed token ("Bearer " ++ token) :=
      @Prefixed.bearer token "Bearer" " " token (by decide) (by decide) hspace .self
    have htoken' : stripBearer (trim token.toList) = token.toList := by
      rw [trim_of_trimmed htrimmed, stripBearer_of_none (afterBearer_eq_none_iff.2 hstart)]
    calc normalizeBearerMiddleware (normalizeBearerMiddleware (some h))
        = normalizeBearerMiddleware (some ("Bearer " ++ token)) := by rw [hnormal]
      _ = normalizeBearerMiddleware (some token) := hprefixes hblank' hprefixed
      _ = some ("Bearer " ++ token) := by
          rw [normalize_not_blank hblank', htoken', String.ofList_toList]
      _ = normalizeBearerMiddleware (some h) := hnormal.symm

end Common
end IdentityBillpay
