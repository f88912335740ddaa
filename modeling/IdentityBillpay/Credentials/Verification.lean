import IdentityBillpay.Credentials.Entities
import Mathlib.Data.Set.Function

/-!
# Verification — what `verifyMpin` says of a stored text

* `verifyMpin_stored` — a stored MPIN is verified by comparing two derived keys;
* `comparedHash` — the part of a stored text that is compared;
* `verifyMpin_settles_iff` — the texts on which the comparison does not throw.
-/

namespace IdentityBillpay
namespace Credentials

open Js Keycloak

section Verification

variable {scrypt : Scrypt}

theorem timingSafeEqual_of_length {a b : List UInt8} (h : a.length = b.length) :
    timingSafeEqual a b = .ok (a == b) := by
  simp [timingSafeEqual, h]

theorem timingSafeEqual_settles_iff {a b : List UInt8} :
    (∃ equal, timingSafeEqual a b = .ok equal) ↔ a.length = b.length := by
  by_cases h : a.length = b.length
  · simp [timingSafeEqual, h]
  · simp [timingSafeEqual, h]

/-- The three parts of what is stored for an MPIN. -/
theorem split_stored (m : String) {salt : String} (hsalt : ':' ∉ salt.toList) :
    split ':' (stored scrypt m salt) = [SCRYPT_PREFIX, salt, toHex (scrypt m salt)] := by
  have hprefix : ':' ∉ SCRYPT_PREFIX.toList := by decide
  have htext : stored scrypt m salt =
      SCRYPT_PREFIX ++ String.singleton ':' ++
        (salt ++ String.singleton ':' ++ toHex (scrypt m salt)) := by
    rw [← String.toList_inj]
    simp [stored]
  rw [htext, split_cons hprefix, split_cons hsalt, split_last (colon_notMem_toHex _)]

/-- A stored MPIN is verified by comparing the two derived keys. -/
theorem verifyMpin_stored (hlength : ∀ m salt, (scrypt m salt).length = 64) (m m' : String)
    {salt : String} (hcolon : ':' ∉ salt.toList) (hsalt : salt ≠ "") :
    verifyMpin scrypt m' (stored scrypt m salt) = .ok (scrypt m salt == scrypt m' salt) := by
  have hkey : scrypt m salt ≠ [] := fun hnil => by simpa [hnil] using hlength m salt
  have hhash : toHex (scrypt m salt) ≠ "" := toHex_ne_empty hkey
  have hsame : (scrypt m salt).length = (scrypt m' salt).length := by rw [hlength, hlength]
  simp [verifyMpin, split_stored m hcolon, hsalt, hhash, fromHex_toHex,
    timingSafeEqual_of_length hsame]

/-- The part of a stored text that is compared with the derived key, when it comes to that. -/
def comparedHash (stored : String) : Option String :=
  match split ':' stored with
  | first :: salt :: hash :: _ =>
      if first ≠ SCRYPT_PREFIX || salt = "" || hash = "" then none else some hash
  | _ => none

/-- The comparison throws unless the hash stands for as many bytes as a derived key has. -/
theorem verifyMpin_settles_iff (hlength : ∀ m salt, (scrypt m salt).length = 64) (m s : String) :
    (∃ verified, verifyMpin scrypt m s = .ok verified) ↔
      ∀ hash, comparedHash s = some hash → (fromHex hash).length = 64 := by
  unfold verifyMpin comparedHash
  rcases split ':' s with _ | ⟨first, _ | ⟨salt, _ | ⟨hash, rest⟩⟩⟩
  · simp
  · simp
  · simp
  · dsimp only
    split
    · simp
    · rw [timingSafeEqual_settles_iff, fromHex_toHex, hlength]
      simp

/-- With a key derivation that tells the MPINs apart, a stored MPIN is verified by itself alone; and
the verification of any text settles, unless its hash has not the length of a key. -/
theorem verifyMpin_sound_and_settles_iff (mpins : Set String)
    (hlength : ∀ m salt, (scrypt m salt).length = 64)
    (hinjective : ∀ salt, Set.InjOn (fun m => scrypt m salt) mpins) :
    (∀ m ∈ mpins, ∀ m' ∈ mpins, ∀ random : List UInt8, random.length = 16 →
      ∃ text verified, hashMpin scrypt (.string m) random = .ok text ∧
        verifyMpin scrypt m' text = .ok verified ∧ (verified = true ↔ m' = m)) ∧
    ∀ m s, (∃ verified, verifyMpin scrypt m s = .ok verified) ↔
      ∀ hash, comparedHash s = some hash → (fromHex hash).length = 64 := by
  refine ⟨fun m hm m' hm' random hrandom => ?_, verifyMpin_settles_iff hlength⟩
  have hbytes : random ≠ [] := fun hnil => by simp [hnil] at hrandom
  have hverify := verifyMpin_stored hlength m m' (colon_notMem_toHex random) (toHex_ne_empty hbytes)
  refine ⟨_, _, rfl, hverify, ?_⟩
  constructor
  · intro hequal
    exact (hinjective _ hm hm' (eq_of_beq hequal)).symm
  · intro hmpin
    rw [hmpin]
    exact beq_self_eq_true _

end Verification

/-- The key of `1234` under a sample salt. -/
def sampleKey : List UInt8 :=
  [194, 166, 63, 244, 204, 57, 160, 156, 227, 97, 124, 220, 251, 158, 25, 194, 44, 241, 50,
  194, 122, 233, 29, 78, 163, 129, 197, 236, 55, 41, 116, 104, 23, 182, 62, 125, 45, 249, 67,
  163, 112, 63, 35, 118, 38, 54, 25, 141, 253, 252, 18, 186, 60, 188, 87, 4, 0, 90, 57, 138,
  189, 41, 23, 68]

/-- The key of `9999` under the same salt. -/
def otherKey : List UInt8 :=
  [221, 242, 117, 133, 110, 142, 210, 170, 143, 205, 67, 141, 46, 166, 149, 204, 125, 235, 7,
  16, 218, 139, 35, 127, 130, 49, 106, 36, 220, 11, 215, 93, 173, 216, 172, 229, 208, 216, 8,
  45, 8, 130, 178, 205, 140, 184, 103, 113, 79, 230, 104, 233, 114, 32, 185, 141, 24, 195, 225,
  135, 35, 19, 119, 175]

/-- The keys of the two MPINs; any other key is padded text. -/
def sampleScrypt : Scrypt := fun mpin salt =>
  if mpin = "1234" ∧ salt = "000102030405060708090a0b0c0d0e0f" then sampleKey
  else if mpin = "9999" ∧ salt = "000102030405060708090a0b0c0d0e0f" then otherKey
  else ((mpin.toList.map fun c : Char => UInt8.ofNat c.toNat) ++ List.replicate 64 0).take 64

theorem length_sampleScrypt (m salt : String) : (sampleScrypt m salt).length = 64 := by
  unfold sampleScrypt
  split
  · rfl
  · split
    · rfl
    · simp

theorem sampleScrypt_injOn (salt : String) :
    Set.InjOn (fun m => sampleScrypt m salt) {"1234", "9999"} := by
  have hne : sampleScrypt "1234" salt ≠ sampleScrypt "9999" salt := by
    by_cases hsalt : salt = "000102030405060708090a0b0c0d0e0f"
    · subst hsalt
      decide +kernel
    · have h1234 : sampleScrypt "1234" salt = [49, 50, 51, 52] ++ List.replicate 60 0 := by
        simp [sampleScrypt, hsalt]
      have h9999 : sampleScrypt "9999" salt = [57, 57, 57, 57] ++ List.replicate 60 0 := by
        simp [sampleScrypt, hsalt]
      rw [h1234, h9999]
      decide
  intro m hm m' hm' heq
  rcases hm with rfl | rfl <;> rcases hm' with rfl | rfl
  · rfl
  · exact (hne heq).elim
  · exact (hne heq.symm).elim
  · rfl

theorem verifyMpin_sound_sample :
    (∀ m ∈ ({"1234", "9999"} : Set String), ∀ m' ∈ ({"1234", "9999"} : Set String),
      ∀ random : List UInt8, random.length = 16 →
      ∃ text verified, hashMpin sampleScrypt (.string m) random = .ok text ∧
        verifyMpin sampleScrypt m' text = .ok verified ∧ (verified = true ↔ m' = m)) ∧
    ∀ m s, (∃ verified, verifyMpin sampleScrypt m s = .ok verified) ↔
      ∀ hash, comparedHash s = some hash → (fromHex hash).length = 64 :=
  verifyMpin_sound_and_settles_iff {"1234", "9999"} length_sampleScrypt sampleScrypt_injOn

/-- A hash that was cut off makes the verification throw. -/
theorem verifyMpin_cut_hash :
    ¬∃ verified, verifyMpin sampleScrypt "1234"
      "scrypt:000102030405060708090a0b0c0d0e0f:c2a63ff4" = .ok verified := by
  rintro ⟨verified, hverified⟩
  have hthrown : verifyMpin sampleScrypt "1234"
      "scrypt:000102030405060708090a0b0c0d0e0f:c2a63ff4" =
        .error (.typeError "Input buffers must have the same byte length") := by
    decide +kernel
  rw [hthrown] at hverified
  cases hverified

end Credentials
end IdentityBillpay
