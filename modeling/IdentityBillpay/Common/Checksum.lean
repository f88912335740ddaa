import IdentityBillpay.Js.Hex
import IdentityBillpay.Js.JsonRoundTrip
import IdentityBillpay.Keycloak.Realm

/-!
# Checksum — bodies that are signed with a shared secret

`checksum-signing.interceptor.ts` signs what it sends, `checksum.guard.ts` checks what it receives.
HMAC-SHA256 and the text of a number are parameters.

* `ChecksumSigningInterceptor.intercept` — the header `X-Checksum` of a response;
* `ChecksumGuard.canActivate` — the check of a request;
* `Collision` — two texts with one checksum;
* `signed_body_accepted_iff` — a signature is good for the body it was made for;
* `header_accepted_iff` — all headers that are good for one body.
-/

namespace IdentityBillpay
namespace Common

open Js Keycloak

section Checksum

variable (hmac : String → List Char → List UInt8) (numberText : JsNumber → List Char)

/-- `body ?? {}`. -/
def orEmpty : Option Json → Json
  | none | some .null => .object []
  | some body => body

/-- `createHmac('sha256', secret).update(JSON.stringify(body ?? {})).digest('hex')`. -/
def checksum (secret : String) (body : Option Json) : String :=
  toHex (hmac secret (Json.stringify numberText (orEmpty body)))

namespace ChecksumSigningInterceptor

/-- The header that a response with this body gets. -/
def intercept (secret : Option String) (body : Option Json) : Option String :=
  match secret with
  | none => none
  | some secret => if secret = "" then none else some (checksum hmac numberText secret body)

end ChecksumSigningInterceptor

namespace ChecksumGuard

def notConfigured : HttpError :=
  .unauthorized "Checksum verification is not configured (CHECKSUM_SHARED_SECRET unset)"

def canActivate (secret : Option String) (provided : Option String) (body : Option Json) :
    Except HttpError Bool :=
  match secret with
  | none => .error notConfigured
  | some secret =>
      if secret = "" then .error notConfigured
      else
        match provided with
        | none => .error (.unauthorized "Missing X-Checksum header")
        | some provided =>
            if provided = "" then .error (.unauthorized "Missing X-Checksum header")
            else
              let expected := checksum hmac numberText secret body
              -- Reading digits does not throw: it stops where there are none.
              let providedBuf := fromHex provided
              let expectedBuf := fromHex expected
              if providedBuf.length ≠ expectedBuf.length ∨ providedBuf ≠ expectedBuf then
                .error (.unauthorized "Invalid checksum")
              else .ok true

end ChecksumGuard

/-- Two different texts with the same checksum. -/
def Collision (secret : String) (text text' : List Char) : Prop :=
  text ≠ text' ∧ hmac secret text = hmac secret text'

/-! ## What is accepted -/

theorem orEmpty_orEmpty (body : Option Json) : orEmpty (some (orEmpty body)) = orEmpty body := by
  rcases body with _ | body
  · rfl
  · cases body <;> rfl

variable {hmac numberText}

/-- With a secret and a header there, the bytes decide. -/
theorem canActivate_iff {secret provided : String} {body : Option Json} (hsecret : secret ≠ "")
    (hprovided : provided ≠ "") :
    ChecksumGuard.canActivate hmac numberText (some secret) (some provided) body = .ok true ↔
      fromHex provided = hmac secret (Json.stringify numberText (orEmpty body)) := by
  simp only [ChecksumGuard.canActivate, if_neg hsecret, if_neg hprovided, checksum, fromHex_toHex]
  by_cases hsame : fromHex provided = hmac secret (Json.stringify numberText (orEmpty body))
  · simp [hsame]
  · simp [hsame]

/-- The header is the checksum of some text: it is accepted for the bodies whose text has the same
checksum. -/
theorem canActivate_toHex_iff {secret : String} {text : List Char} {body : Option Json}
    (hsecret : secret ≠ "") (hbytes : hmac secret text ≠ []) :
    ChecksumGuard.canActivate hmac numberText (some secret) (some (toHex (hmac secret text))) body =
        .ok true ↔
      text = Json.stringify numberText (orEmpty body) ∨
        Collision hmac secret text (Json.stringify numberText (orEmpty body)) := by
  rw [canActivate_iff hsecret (toHex_ne_empty hbytes), fromHex_toHex]
  by_cases htext : text = Json.stringify numberText (orEmpty body)
  · exact iff_of_true (congrArg (hmac secret) htext) (.inl htext)
  · exact ⟨fun h => .inr ⟨htext, h⟩, fun h => (h.resolve_left htext).2⟩

/-- A body that was signed, sent as JSON and received is accepted under its signature, and any other
body only if the texts of the two collide; `null` and no body count as `{}`. A sender who signs the
text it sends is accepted for the texts that `JSON.stringify` writes, or again by a collision. -/
theorem signed_body_accepted_iff (hdigest : ∀ secret text, (hmac secret text).length = 32)
    {secret : String} (hsecret : secret ≠ "") {body body' : Option Json}
    (hbody : Json.Regular numberText (orEmpty body))
    (hbody' : Json.Regular numberText (orEmpty body')) :
    ChecksumGuard.canActivate hmac numberText (some secret)
        (ChecksumSigningInterceptor.intercept hmac numberText (some secret) body)
        (Json.parse (Json.stringify numberText (orEmpty body))) = .ok true ∧
    (ChecksumGuard.canActivate hmac numberText (some secret)
        (ChecksumSigningInterceptor.intercept hmac numberText (some secret) body) body' = .ok true ↔
      orEmpty body = orEmpty body' ∨
        Collision hmac secret (Json.stringify numberText (orEmpty body))
          (Json.stringify numberText (orEmpty body'))) ∧
    ∀ text, ChecksumGuard.canActivate hmac numberText (some secret)
        (some (toHex (hmac secret text))) (Json.parse text) = .ok true ↔
      text = Json.stringify numberText (orEmpty (Json.parse text)) ∨
        Collision hmac secret text (Json.stringify numberText (orEmpty (Json.parse text))) := by
  have hbytes : ∀ text, hmac secret text ≠ [] := by
    intro text hnil
    have hlength := hdigest secret text
    rw [hnil] at hlength
    cases hlength
  have hheader : ChecksumSigningInterceptor.intercept hmac numberText (some secret) body =
      some (toHex (hmac secret (Json.stringify numberText (orEmpty body)))) := by
    simp only [ChecksumSigningInterceptor.intercept, if_neg hsecret, checksum]
  have htexts : Json.stringify numberText (orEmpty body) =
      Json.stringify numberText (orEmpty body') ↔ orEmpty body = orEmpty body' :=
    ⟨Json.stringify_injective hbody hbody', fun h => by rw [h]⟩
  rw [hheader]
  refine ⟨?_, ?_, fun text => canActivate_toHex_iff hsecret (hbytes text)⟩
  · rw [canActivate_toHex_iff hsecret (hbytes _), Json.parse_stringify hbody]
    exact .inl (by rw [orEmpty_orEmpty])
  · rw [canActivate_toHex_iff hsecret (hbytes _)]
    exact or_congr_left htexts

/-- HMAC-SHA256 as it is for one text, and 32 bytes for any other. -/
def sampleHmac (secret : String) (text : List Char) : List UInt8 :=
  if secret = "shared-secret" ∧
      text = "\x7b\"status\":\"SENT\",\"items\":[true,null,1]\x7d".toList then
    [11, 249, 244, 204, 202, 231, 251, 147, 122, 86, 105, 87, 88, 37, 178, 117, 189, 231,
      79, 13, 32, 193, 106, 80, 81, 30, 190, 226, 241, 159, 55, 63]
  else List.replicate 32 0

/-- The text of the one number that the sample has. -/
def sampleText (_ : JsNumber) : List Char :=
  ['1']

def sampleBody : Json :=
  .object [("status", .string "SENT"), ("items", .array [.bool true, .null, .number (Number "1")])]

theorem regular_sampleBody : Json.Regular sampleText sampleBody := by
  refine .object rfl fun m hm => ?_
  simp only [List.mem_cons, List.not_mem_nil, or_false] at hm
  rcases hm with rfl | rfl
  · exact .string _
  · refine .array fun item hitem => ?_
    simp only [List.mem_cons, List.not_mem_nil, or_false] at hitem
    rcases hitem with rfl | rfl | rfl
    · exact .bool true
    · exact .null
    · have hone : Number "1" = .finite 4503599627370496 (-52) := by decide
      rw [hone]
      exact .number ⟨rfl, hone⟩

theorem sampleHmac_length (secret : String) (text : List Char) :
    (sampleHmac secret text).length = 32 := by
  unfold sampleHmac
  split
  · rfl
  · rfl

theorem signed_body_accepted_sampleBody :
    ChecksumGuard.canActivate sampleHmac sampleText (some "shared-secret")
      (ChecksumSigningInterceptor.intercept sampleHmac sampleText (some "shared-secret")
        (some sampleBody))
      (Json.parse (Json.stringify sampleText sampleBody)) = .ok true :=
  (@signed_body_accepted_iff sampleHmac sampleText sampleHmac_length "shared-secret" (by decide)
    (some sampleBody) none regular_sampleBody (.object rfl (by simp))).1

/-- A text with white space in it is not what `JSON.stringify` writes. -/
example : Json.stringify sampleText (orEmpty (Json.parse "\x7b \"a\": [] \x7d".toList)) =
    "\x7b\"a\":[]\x7d".toList := by
  decide +kernel

/-- All headers that are good for a body: the digits of its checksum in letters of either case, and
then anything that does not go on with two more digits. -/
theorem header_accepted_iff (hdigest : ∀ secret text, (hmac secret text).length = 32)
    {secret : String} (hsecret : secret ≠ "") (provided : Option String) (body : Option Json) :
    ChecksumGuard.canActivate hmac numberText (some secret) provided body = .ok true ↔
      ∃ header digits rest, provided = some header ∧ header.toList = digits ++ rest ∧
        digits.map Char.toLower = (checksum hmac numberText secret body).toList ∧
          fromHexChars rest = [] := by
  have hchecksum : (checksum hmac numberText secret body).toList =
      hexChars (hmac secret (Json.stringify numberText (orEmpty body))) := by
    simp [checksum, toHex]
  cases provided with
  | none => simp [ChecksumGuard.canActivate, hsecret]
  | some header =>
      have hheader : (∃ header' digits rest, some header = some header' ∧
          header'.toList = digits ++ rest ∧
          digits.map Char.toLower = (checksum hmac numberText secret body).toList ∧
            fromHexChars rest = []) ↔
          fromHex header = hmac secret (Json.stringify numberText (orEmpty body)) := by
        rw [hchecksum, fromHex, fromHexChars_eq_iff]
        constructor
        · rintro ⟨header', digits, rest, hsame, hparts⟩
          cases hsame
          exact ⟨digits, rest, hparts⟩
        · rintro ⟨digits, rest, hparts⟩
          exact ⟨header, digits, rest, rfl, hparts⟩
      rw [hheader]
      by_cases hempty : header = ""
      · -- An empty header has no bytes.
        have hlength := hdigest secret (Json.stringify numberText (orEmpty body))
        have hnone : fromHex header ≠ hmac secret (Json.stringify numberText (orEmpty body)) := by
          intro hbytes
          rw [← hbytes, hempty] at hlength
          cases hlength
        simp [ChecksumGuard.canActivate, hsecret, hempty ▸ hnone, hempty]
      · exact canActivate_iff hsecret hempty

/-- Upper case, and more text behind the digits. -/
def loudDigits : List Char :=
  (checksum sampleHmac sampleText "shared-secret" (some sampleBody)).toList.map Char.toUpper

theorem header_accepted_sampleBody :
    ChecksumGuard.canActivate sampleHmac sampleText (some "shared-secret")
      (some (String.ofList (loudDigits ++ ['z']))) (some sampleBody) = .ok true :=
  (header_accepted_iff sampleHmac_length (by decide) _ _).2
    ⟨_, loudDigits, ['z'], rfl, String.toList_ofList, by decide +kernel, rfl⟩

end Checksum

end Common
end IdentityBillpay
