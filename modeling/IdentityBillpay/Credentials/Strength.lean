import IdentityBillpay.Async.Protocol
import IdentityBillpay.Credentials.CredentialController

/-!
# Strength — the secrets that `create` lets through

The checks of a secret are switched off by the other one.

* `accepted_secrets` — what an accepted body says of its two secrets;
* `StrongWrite` — what a call writes, if it writes a secret, is strong enough;
* `create_strong` — with strong secrets every call is a strong write;
* `strong_writes_iff` — for which accepted bodies every run writes strong secrets only.
-/

namespace IdentityBillpay
namespace Credentials

open Async Async.Program Common Js Keycloak

/-- A password for Keycloak. -/
abbrev IsPassword (value : Json) : Prop := IsText 8 128 value

/-- An MPIN for the table. -/
abbrev IsMpin (value : Json) : Prop := IsText 4 6 value

theorem isTruthy_iff {field : Option Json} :
    isTruthy field = true ↔ ∃ v, field = some v ∧ v.truthy = true := by
  cases field with
  | none => simp [isTruthy]
  | some v => simp [isTruthy]

section Secrets

variable {scrypt : Scrypt} {uuid : String → Bool} {body : Json} {dto : SetCredentialDto}

/-- The secrets of an accepted body: each is checked where the other one is falsy. -/
theorem accepted_secrets (h : SetCredentialDto.validate uuid body = .ok dto) :
    dto.password = body.property "password" ∧ dto.mpin = body.property "mpin" ∧
      (isTruthy dto.mpin = false →
        ∃ v, dto.password = some v ∧ v.truthy = true ∧ IsPassword v) ∧
      (isTruthy dto.password = false → ∃ v, dto.mpin = some v ∧ v.truthy = true ∧ IsMpin v) := by
  rcases validated_ok.1 h with ⟨hmessages, hdto⟩
  rcases Option.map_eq_some_iff.1 hdto with ⟨userId, -, rfl⟩
  rcases List.append_eq_nil_iff.1 hmessages with ⟨hfront, hmpin⟩
  have hpassword := (List.append_eq_nil_iff.1 hfront).2
  refine ⟨rfl, rfl, fun hfalsy => ?_, fun hfalsy => ?_⟩
  · rw [hfalsy] at hpassword
    exact text_of_checks hpassword
  · rw [hfalsy] at hmpin
    exact text_of_checks hmpin

/-- A hash that is written is that of the body's MPIN, which is strong enough. -/
def StrongHash (scrypt : Scrypt) (dto : SetCredentialDto) (hashed : String) : Prop :=
  ∃ text salt, dto.mpin = some (.string text) ∧ IsMpin (.string text) ∧
    hashed = stored scrypt text salt

/-- A call that writes a secret writes a strong one. -/
def StrongWrite (scrypt : Scrypt) (dto : SetCredentialDto) : Op → Prop
  | .putPassword _ value => IsPassword value
  | .insertCredential new => StrongHash scrypt dto new.hashedMpin
  | .saveCredential record => StrongHash scrypt dto record.hashedMpin
  | _ => True

/-- A call that is a strong write, whatever it comes to. -/
abbrev WritesStrong (scrypt : Scrypt) (dto : SetCredentialDto) {α : Type} (p : Prog α) : Prop :=
  ∀ own, Follows (fun _ op => StrongWrite scrypt dto op) (fun _ _ => True) own p

theorem updatePassword_strong
    (h : ∀ v, dto.password = some v → v.truthy = true → IsPassword v) :
    WritesStrong scrypt dto (CredentialService.updatePassword dto) := by
  intro own
  unfold CredentialService.updatePassword
  cases hpassword : dto.password with
  | none => trivial
  | some v =>
      dsimp only
      split
      · next htruthy =>
          have hv : IsPassword v := h v hpassword htruthy
          have hput : ∀ own, Follows (fun _ op => StrongWrite scrypt dto op) (fun _ _ => True) own
              (CredentialService.resetUserPassword dto.userId v) := fun own =>
            follows_call_bind trivial (fun _ => trivial) fun _ =>
              ⟨hv, fun _ => follows_settled.2 trivial⟩
          exact (hput own).bind (fun _ _ _ => trivial) fun _ _ _ => trivial
      · trivial

theorem writeMpin_strong {v : Json} (hmpin : dto.mpin = some v)
    (h : ∀ text, v = .string text → IsMpin v) :
    WritesStrong scrypt dto (CredentialService.writeMpin scrypt dto.userId v) := by
  intro own
  refine follows_call_bind trivial (fun _ => trivial) fun existing => ?_
  refine follows_call_bind trivial (fun _ => trivial) fun random => ?_
  refine follows_settled_bind (fun _ _ => trivial) fun hashed hhashed => ?_
  -- Only text has been hashed.
  have hstrong : StrongHash scrypt dto hashed := by
    cases v with
    | string text =>
        cases hhashed
        exact ⟨text, toHex random, hmpin, h text rfl, rfl⟩
    | null | bool _ | number _ | array _ | object _ => cases hhashed
  refine follows_call_bind trivial (fun _ => trivial) fun now => ?_
  cases existing with
  | some existing => exact ⟨hstrong, fun r => follows_settled.2 trivial⟩
  | none => exact ⟨hstrong, fun r => follows_settled.2 trivial⟩

theorem storeMpin_strong (h : ∀ text, dto.mpin = some (.string text) →
      Json.truthy (.string text) = true → IsMpin (.string text)) :
    WritesStrong scrypt dto (CredentialService.storeMpin scrypt dto) := by
  intro own
  unfold CredentialService.storeMpin
  cases hmpin : dto.mpin with
  | none => trivial
  | some v =>
      dsimp only
      split
      · next htruthy =>
          have hwrite : WritesStrong scrypt dto (CredentialService.writeMpin scrypt dto.userId v) :=
            writeMpin_strong hmpin fun text hv => by
              subst hv
              exact h text hmpin htruthy
          exact (hwrite own).bind (fun _ _ _ => trivial) fun _ _ _ => trivial
      · trivial

theorem create_strong
    (hpassword : ∀ v, dto.password = some v → v.truthy = true → IsPassword v)
    (hmpin : ∀ text, dto.mpin = some (.string text) →
      Json.truthy (.string text) = true → IsMpin (.string text)) :
    WritesStrong scrypt dto (CredentialService.create scrypt dto) := by
  intro own
  unfold CredentialService.create
  split
  · trivial
  · refine (updatePassword_strong hpassword own).bind (fun own _ _ => ?_) fun _ _ _ => trivial
    exact (storeMpin_strong hmpin own).bind (fun _ _ _ => trivial) fun _ _ _ => trivial

/-! ## Runs -/

/-- Every call of a run of `create` that writes a secret writes a strong one. -/
def WritesOnlyStrong (scrypt : Scrypt) (dto : SetCredentialDto) : Prop :=
  ∀ choices s, ∀ a ∈ ((CredentialService.create scrypt dto).exec backend choices s).awaited,
    StrongWrite scrypt dto a.op

/-- Nothing fails, and there is no credential yet. -/
def calm : Choice := ⟨false, "", 0, "credential", 0, fun _ => 0⟩

abbrev calmRun (scrypt : Scrypt) (dto : SetCredentialDto) : Own :=
  ((CredentialService.create scrypt dto).exec backend (fun _ => calm) ⟨.empty⟩).awaited

/-- With two truthy secrets the password is sent to Keycloak. -/
theorem password_sent {v w : Json} (hpassword : dto.password = some v) (hv : v.truthy = true)
    (hmpin : dto.mpin = some w) :
    ∃ a ∈ calmRun scrypt dto, a.op = .putPassword dto.userId v := by
  refine ⟨⟨.putPassword dto.userId v, .ok ()⟩, ?_, rfl⟩
  simp only [calmRun, CredentialService.create, CredentialService.updatePassword,
    CredentialService.resetUserPassword, hpassword, hmpin, hv, isTruthy, Option.any_some,
    Bool.not_true, Bool.false_and, if_true, Bool.false_eq_true, if_false, bind_assoc]
  rw [exec_call_bind rfl, exec_call_bind rfl]
  exact List.mem_cons_of_mem _ List.mem_cons_self

/-- And the hash of an MPIN that is text is written to the table. -/
theorem hash_written {v : Json} {text : String} (hpassword : dto.password = some v)
    (hv : v.truthy = true) (hmpin : dto.mpin = some (.string text)) (htext : text ≠ "") :
    ∃ a ∈ calmRun scrypt dto, ∃ new, a.op = .insertCredential new := by
  have hw : Json.truthy (.string text) = true := by simpa [Json.truthy] using htext
  let hashed : String := stored scrypt text (toHex ((List.range 16).map fun _ => 0))
  let new : NewCredential := ⟨dto.userId, hashed, some 0⟩
  have hcall : ∀ {β : Type} (f : Credential → Prog β) (choices : Nat → Choice) (s : Store),
      ∃ a ∈ ((call (.insertCredential new) >>= f).exec backend choices s).awaited,
        ∃ new, a.op = .insertCredential new :=
    fun f choices s => ⟨_, List.mem_cons_self, new, rfl⟩
  rcases hcall (fun record => pure (Reply.created dto.userId true (some (toPublicView record))))
    (fun _ => calm) ⟨.empty⟩ with ⟨a, ha, hnew⟩
  refine ⟨a, ?_, hnew⟩
  simp only [calmRun, CredentialService.create, CredentialService.updatePassword,
    CredentialService.resetUserPassword, CredentialService.storeMpin, CredentialService.writeMpin,
    hpassword, hmpin, hv, hw, isTruthy, Option.any_some, Bool.not_true, Bool.false_and, if_true,
    Bool.false_eq_true, if_false, bind_assoc, pure_bind, hashMpin]
  rw [exec_call_bind rfl, exec_call_bind rfl, exec_call_bind rfl, exec_call_bind rfl]
  refine List.mem_cons_of_mem _ (List.mem_cons_of_mem _ (List.mem_cons_of_mem _
    (List.mem_cons_of_mem _ ?_)))
  exact List.mem_cons_of_mem _ ha

/-- Where both secrets are truthy, and so neither is checked, the password is strong enough, and so
is the MPIN if it is text. -/
def StrongIfUnchecked (body : Json) : Prop :=
  isTruthy (body.property "password") = true → isTruthy (body.property "mpin") = true →
    (∃ v, body.property "password" = some v ∧ IsPassword v) ∧
      ∀ text, body.property "mpin" = some (.string text) → IsMpin (.string text)

/-- The runs of an accepted body write strong secrets only, just where this holds of the secrets that
were not checked. -/
theorem strong_writes_iff (h : SetCredentialDto.validate uuid body = .ok dto) :
    WritesOnlyStrong scrypt dto ↔ StrongIfUnchecked body := by
  rcases accepted_secrets h with ⟨hpassword, hmpin, hchecked, hchecked'⟩
  simp only [StrongIfUnchecked, ← hpassword, ← hmpin]
  constructor
  · intro hruns hp hm
    -- Both secrets are given, and the run that writes both shows that they are strong.
    rcases isTruthy_iff.1 hp with ⟨v, hv, hvtrue⟩
    rcases isTruthy_iff.1 hm with ⟨w, hw, hwtrue⟩
    refine ⟨⟨v, hv, ?_⟩, fun text htext => ?_⟩
    · rcases password_sent hv hvtrue hw with ⟨a, ha, hop⟩
      have hstrong := hruns _ _ a ha
      rwa [hop] at hstrong
    · have hne : text ≠ "" := by
        cases hw.symm.trans htext
        simpa [Json.truthy] using hwtrue
      rcases hash_written hv hvtrue htext hne with ⟨a, ha, new, hop⟩
      have hstrong := hruns _ _ a ha
      rw [hop] at hstrong
      rcases hstrong with ⟨text', salt, htext', hbounds, -⟩
      cases htext.symm.trans htext'
      exact hbounds
  · intro hunchecked choices s a ha
    -- Each secret that is written has been checked, or is strong by assumption.
    have hstrong : WritesStrong scrypt dto (CredentialService.create scrypt dto) := by
      refine create_strong (fun v hv htruthy => ?_) fun text htext htruthy => ?_
      · have hp : isTruthy dto.password = true := by simpa [isTruthy, hv] using htruthy
        cases hm : isTruthy dto.mpin with
        | false =>
            rcases hchecked hm with ⟨v', hv', -, hbounds⟩
            cases hv.symm.trans hv'
            exact hbounds
        | true =>
            rcases (hunchecked hp hm).1 with ⟨v', hv', hbounds⟩
            cases hv.symm.trans hv'
            exact hbounds
      · have hm : isTruthy dto.mpin = true := by simpa [isTruthy, htext] using htruthy
        cases hp : isTruthy dto.password with
        | false =>
            rcases hchecked' hp with ⟨v', hv', -, hbounds⟩
            cases htext.symm.trans hv'
            exact hbounds
        | true => exact (hunchecked hp hm).2 text htext
    rcases (hstrong []).exec_allowed choices s ha with ⟨before, after, _, hallowed⟩
    exact hallowed

end Secrets

/-! ## Two weak secrets -/

def weakUserId : String := "334b032c-7468-47fa-82a3-8204b80913a2"

/-- Each of the two switches off the checks of the other. -/
def weakBody : Json :=
  .object [("userId", .string weakUserId), ("password", .string "a"), ("mpin", .string "1")]

def strongBody : Json :=
  .object [("userId", .string weakUserId), ("password", .string "MySecurePass@123")]

theorem strong_writes_sample :
    WritesOnlyStrong plainScrypt ⟨weakUserId, some (.string "MySecurePass@123"), none⟩ ↔
      StrongIfUnchecked strongBody := by
  have haccepted : SetCredentialDto.validate (fun text => text == weakUserId) strongBody =
      .ok ⟨weakUserId, some (.string "MySecurePass@123"), none⟩ := by rfl
  exact strong_writes_iff haccepted

theorem weak_secrets_written :
    SetCredentialDto.validate (fun text => text == weakUserId) weakBody =
        .ok ⟨weakUserId, some (.string "a"), some (.string "1")⟩ ∧
      ¬WritesOnlyStrong plainScrypt ⟨weakUserId, some (.string "a"), some (.string "1")⟩ := by
  refine ⟨by rfl, fun hruns => ?_⟩
  have hsent : ∃ a ∈ calmRun plainScrypt ⟨weakUserId, some (.string "a"), some (.string "1")⟩,
      a.op = .putPassword weakUserId (.string "a") := password_sent rfl (by decide) rfl
  rcases hsent with ⟨a, ha, hop⟩
  have hstrong := hruns _ _ a ha
  rw [hop] at hstrong
  rcases hstrong with ⟨text, htext, hlength, -⟩
  cases htext
  exact absurd hlength (by decide)

end Credentials
end IdentityBillpay
