import Mathlib.Data.Fintype.EquivFin
import IdentityBillpay.Credentials.CredentialController

/-!
# Ownership — what a caller sees and changes of the credentials of others

* `ownRows`, `otherRows` — the rows of a user, and those of everybody else;
* `Apart` — two runs that agree on the user's rows, and leave the others as they were;
* `same_route` — a route behind the guard sees no more than the caller's rows;
* `own_only_iff` — which sequences of requests keep to the caller's rows.
-/

namespace IdentityBillpay
namespace Credentials

open Async Async.Program Common Js Keycloak
open Bbps (Actor)

def ownRows (s : Store) (userId : String) : List Credential :=
  s.credentials.find fun r => r.keycloakUserId == userId

def otherRows (s : Store) (userId : String) : List Credential :=
  s.credentials.find fun r => r.keycloakUserId != userId

/-- A generated id is not that of another user's row. -/
def NewId (s : Store) (userId id : String) : Prop :=
  ∀ r ∈ otherRows s userId, r.id ≠ id

instance (s : Store) (userId id : String) : Decidable (NewId s userId id) :=
  inferInstanceAs (Decidable (∀ r ∈ otherRows s userId, _))

/-- Two stores in runs from `s₀` and `t₀`. -/
structure Apart (userId : String) (s₀ t₀ s t : Store) : Prop where
  own : ownRows t userId = ownRows s userId
  left : otherRows s userId = otherRows s₀ userId
  right : otherRows t userId = otherRows t₀ userId

/-! ## One operation -/

section Performing

variable {userId : String} {s₀ t₀ s t : Store}

theorem mem_ownRows {r : Credential} :
    r ∈ ownRows s userId ↔ r ∈ s.credentials ∧ r.keycloakUserId = userId := by
  simp [ownRows]

theorem mem_otherRows {r : Credential} :
    r ∈ otherRows s userId ↔ r ∈ s.credentials ∧ r.keycloakUserId ≠ userId := by
  simp [otherRows]

/-- The rows are changed one by one, those of others not at all. -/
theorem rows_mapped {s' : Store} {f : Credential → Credential}
    (hrows : s'.credentials.rows = s.credentials.rows.map f)
    (hown : ∀ r ∈ ownRows s userId, (f r).keycloakUserId = userId)
    (hother : ∀ r ∈ otherRows s userId, f r = r) :
    ownRows s' userId = (ownRows s userId).map f ∧ otherRows s' userId = otherRows s userId := by
  have huser : ∀ r ∈ s.credentials.rows, (f r).keycloakUserId = userId ↔ r.keycloakUserId = userId := by
    intro r hr
    by_cases h : r.keycloakUserId = userId
    · exact iff_of_true (hown r (mem_ownRows.2 ⟨hr, h⟩)) h
    · rw [hother r (mem_otherRows.2 ⟨hr, h⟩)]
  constructor
  · simp only [ownRows, Sql.Table.find, hrows, List.filter_map]
    refine congrArg _ (List.filter_congr fun r hr => ?_)
    rw [Bool.eq_iff_iff]
    simpa using huser r hr
  · simp only [otherRows, Sql.Table.find, hrows, List.filter_map]
    have hsame : s.credentials.rows.filter ((fun r => r.keycloakUserId != userId) ∘ f) =
        s.credentials.rows.filter fun r => r.keycloakUserId != userId := by
      refine List.filter_congr fun r hr => ?_
      rw [Bool.eq_iff_iff]
      simpa using not_congr (huser r hr)
    rw [hsame]
    calc (s.credentials.rows.filter fun r => r.keycloakUserId != userId).map f
        = (s.credentials.rows.filter fun r => r.keycloakUserId != userId).map id :=
          List.map_congr_left fun r hr => hother r hr
      _ = _ := List.map_id _

/-- What the environment decides: ids that are new in both runs. -/
abbrev NewInBoth (userId : String) (s₀ t₀ : Store) (ch : Choice) : Prop :=
  NewId s₀ userId ch.freshId ∧ NewId t₀ userId ch.freshId

/-- An operation that keeps the relation and has one outcome. -/
abbrev SameFor (userId : String) (s₀ t₀ s t : Store) (op : Op) : Prop :=
  SameOutcome backend (NewInBoth userId s₀ t₀) (Apart userId s₀ t₀) s t op

theorem same_query {α : Type} {ch : Choice} {a : α} {s' t' : Store} (h : Apart userId s₀ t₀ s t)
    (h' : Apart userId s₀ t₀ s' t') :
    (query ch t (some (a, t'))).1 = (query ch s (some (a, s'))).1 ∧
      Apart userId s₀ t₀ (query ch s (some (a, s'))).2 (query ch t (some (a, t'))).2 := by
  cases hfails : ch.fails with
  | true => simpa [query, Sql.commit, hfails] using h
  | false => simpa [query, Sql.commit, hfails] using h'

theorem find_isLiveOf : s.credentials.find (Credential.isLiveOf userId) =
    (ownRows s userId).filter Credential.isLive := by
  simp only [ownRows, Sql.Table.find, List.filter_filter]
  refine List.filter_congr fun r _ => ?_
  rw [Credential.isLiveOf, Bool.and_comm]

theorem same_findCredential (h : Apart userId s₀ t₀ s t) :
    SameFor userId s₀ t₀ s t (.findCredential userId) := by
  intro ch _
  have hfound : t.credentials.findOne (Credential.isLiveOf userId) ch.pick =
      s.credentials.findOne (Credential.isLiveOf userId) ch.pick := by
    simp only [Sql.Table.findOne, find_isLiveOf, h.own]
  simp only [perform, hfound]
  exact same_query h h

theorem insert?_own {record : Credential} (hnew : NewId s userId record.id) :
    (∃ r ∈ ownRows s userId, r.id = record.id) ∧ s.credentials.insert? record = none ∨
      (∀ r ∈ ownRows s userId, r.id ≠ record.id) ∧
        ∃ t', s.credentials.insert? record = some t' := by
  by_cases hfree : ∀ r ∈ ownRows s userId, r.id ≠ record.id
  · have hall : ∀ r ∈ s.credentials, r.id ≠ record.id := by
      intro r hr
      by_cases huser : r.keycloakUserId = userId
      · exact hfree r (mem_ownRows.2 ⟨hr, huser⟩)
      · exact hnew r (mem_otherRows.2 ⟨hr, huser⟩)
    exact .inr ⟨hfree, Sql.Table.exists_insert? hall hall⟩
  · simp only [not_forall, not_not] at hfree
    rcases hfree with ⟨r, hr, hid⟩
    refine .inl ⟨⟨r, hr, hid⟩, ?_⟩
    cases hinsert : s.credentials.insert? record with
    | none => rfl
    | some t' =>
        exact absurd hid (Sql.Table.insert?_fresh hinsert (mem_ownRows.1 hr).1).1

/-- A row of the user that is appended. -/
theorem rows_appended {t' : Sql.Table Credential.id Credential.id} {record : Credential}
    (h : s.credentials.insert? record = some t') (huser : record.keycloakUserId = userId) :
    ownRows ⟨t'⟩ userId = ownRows s userId ++ [record] ∧
      otherRows ⟨t'⟩ userId = otherRows s userId := by
  have hrows := Sql.Table.rows_insert? h
  constructor
  · simp [ownRows, Sql.Table.find, hrows, huser]
  · simp [otherRows, Sql.Table.find, hrows, huser]

theorem same_insertCredential (h : Apart userId s₀ t₀ s t) {new : NewCredential}
    (huser : new.keycloakUserId = userId) :
    SameFor userId s₀ t₀ s t (.insertCredential new) := by
  intro ch hlimits
  simp only [perform]
  cases hrow : new.row? ch.freshId ch.now with
  | none => simpa [insertCredential?, hrow, query, Sql.commit] using h
  | some record =>
      have hrecord : record.id = ch.freshId ∧ record.keycloakUserId = userId := by
        unfold NewCredential.row? at hrow
        dsimp only at hrow
        split at hrow
        · cases hrow
          exact ⟨rfl, huser⟩
        · cases hrow
      have hs : NewId s userId record.id := by
        rw [hrecord.1, NewId, h.left]
        exact hlimits.1
      have ht : NewId t userId record.id := by
        rw [hrecord.1, NewId, h.right]
        exact hlimits.2
      rcases insert?_own hs with ⟨⟨r, hr, hid⟩, hrefused⟩ | ⟨hfree, s', hinserted⟩
      · -- An own row has the id, in both runs.
        rcases insert?_own ht with ⟨_, hrefused'⟩ | ⟨hfree, _⟩
        · simpa [insertCredential?, hrow, hrefused, hrefused', query, Sql.commit] using h
        · exact absurd hid (hfree r (h.own ▸ hr))
      · rcases insert?_own ht with ⟨⟨r, hr, hid⟩, _⟩ | ⟨_, t', hinserted'⟩
        · exact absurd hid (hfree r (h.own ▸ hr))
        · have hleft := rows_appended hinserted hrecord.2
          have hright := rows_appended hinserted' hrecord.2
          simp only [insertCredential?, hrow, hinserted, hinserted', Option.bind_eq_bind,
            Option.bind_some, Option.pure_def]
          refine same_query h ⟨?_, hleft.2.trans h.left, hright.2.trans h.right⟩
          rw [hleft.1, hright.1, h.own]

/-- An operation that maps the rows of both runs alike, and only own ones. -/
theorem apart_mapped {s' t' : Store} {f : Credential → Credential} (h : Apart userId s₀ t₀ s t)
    (hs : s'.credentials.rows = s.credentials.rows.map f)
    (ht : t'.credentials.rows = t.credentials.rows.map f)
    (hown : ∀ r ∈ ownRows s userId, (f r).keycloakUserId = userId)
    (hother : ∀ r ∈ otherRows s userId, f r = r) (hother' : ∀ r ∈ otherRows t userId, f r = r) :
    Apart userId s₀ t₀ s' t' := by
  have hleft := rows_mapped hs hown hother
  have hright := rows_mapped ht (by rw [h.own]; exact hown) hother'
  exact ⟨by rw [hleft.1, hright.1, h.own], hleft.2.trans h.left, hright.2.trans h.right⟩

/-- The id of an own row is no other's. -/
theorem id_ne_of_own {x r : Credential} (hx : x ∈ ownRows s userId) (hr : r ∈ otherRows s userId) :
    r.id ≠ x.id := by
  intro hid
  have hsame := Sql.Table.eq_of_id (mem_otherRows.1 hr).1 (mem_ownRows.1 hx).1 hid
  exact (mem_otherRows.1 hr).2 (hsame ▸ (mem_ownRows.1 hx).2)

theorem same_softDeleteCredential (h : Apart userId s₀ t₀ s t) {x : Credential}
    (hx : x ∈ ownRows s userId) : SameFor userId s₀ t₀ s t (.softDeleteCredential x.id) := by
  intro ch _
  have hx' : x ∈ ownRows t userId := h.own ▸ hx
  refine same_query h (apart_mapped h (f := fun r => if r.id == x.id then r.deleted ch.now else r)
    rfl rfl ?_ ?_ ?_)
  · intro r hr
    split
    · exact (mem_ownRows.1 hr).2
    · exact (mem_ownRows.1 hr).2
  · intro r hr
    simp [id_ne_of_own hx hr]
  · intro r hr
    simp [id_ne_of_own hx' hr]

theorem same_saveCredential (h : Apart userId s₀ t₀ s t) {x record : Credential}
    (hx : x ∈ ownRows s userId) (hid : x.id = record.id) (huser : record.keycloakUserId = userId) :
    SameFor userId s₀ t₀ s t (.saveCredential record) := by
  intro ch _
  have hx' : x ∈ ownRows t userId := h.own ▸ hx
  simp only [perform, saveCredential?]
  by_cases hfits : ({ record with updatedAt := ch.now } : Credential).fits = true
  · rw [if_pos hfits, if_pos hfits]
    let saved : Credential := { record with updatedAt := ch.now }
    have hsome : ∀ {t : Store}, x ∈ ownRows t userId → ∃ t', t.credentials.save? saved = some t' ∧
        t'.rows = t.credentials.rows.map fun r => if r.id = saved.id then saved else r := by
      intro t hx
      have hmem := (mem_ownRows.1 hx).1
      rcases Sql.Table.exists_save? (r := saved) hmem hid hid with ⟨t', ht'⟩
      exact ⟨t', ht', Sql.Table.rows_save? ht' ⟨x, hmem, hid⟩⟩
    have hother : ∀ {t : Store}, x ∈ ownRows t userId → ∀ r ∈ otherRows t userId,
        (if r.id = saved.id then saved else r) = r := by
      intro t hx r hr
      rw [if_neg]
      exact fun heq => id_ne_of_own hx hr (heq.trans hid.symm)
    rcases hsome hx with ⟨s', hs', hrows⟩
    rcases hsome hx' with ⟨t', ht', hrows'⟩
    rw [hs', ht', Option.map_some, Option.map_some]
    refine same_query h (apart_mapped h hrows hrows' ?_ (hother hx) (hother hx'))
    intro r hr
    split
    · exact huser
    · exact (mem_ownRows.1 hr).2
  · rw [if_neg hfits, if_neg hfits]
    exact ⟨rfl, h⟩

/-- An operation that looks at no row. -/
theorem same_blind {op : Op} (h : Apart userId s₀ t₀ s t) (hread : op.isRead = true)
    (hblind : ∀ ch, (perform op ch t).1 = (perform op ch s).1) : SameFor userId s₀ t₀ s t op := by
  intro ch _
  refine ⟨hblind ch, ?_⟩
  change Apart userId s₀ t₀ (perform op ch s).2 (perform op ch t).2
  rw [perform_read hread, perform_read hread]
  exact h

theorem request_fst (ch : Choice) : (request ch t).1 = (request ch s).1 := by
  unfold request
  split
  · rfl
  · rfl

end Performing

/-! ## The methods -/

section Methods

variable {userId : String} {s₀ t₀ s t : Store}

/-- A part of a request that sees and changes nothing of the rows of others. -/
abbrev OwnPart {α : Type} (userId : String) (s₀ t₀ s t : Store) (p : Prog α) : Prop :=
  SameRuns backend (NewInBoth userId s₀ t₀) (Apart userId s₀ t₀) s t p

theorem own_settled_bind {α β : Type} {r : Except HttpError α} {f : α → Prog β}
    (h : Apart userId s₀ t₀ s t) (hok : ∀ a, r = .ok a → OwnPart userId s₀ t₀ s t (f a)) :
    OwnPart userId s₀ t₀ s t (settled r >>= f) := by
  cases r with
  | error e => exact h
  | ok a => exact hok a rfl

theorem own_findByKeycloakUserId (h : Apart userId s₀ t₀ s t) :
    OwnPart userId s₀ t₀ s t (CredentialService.findByKeycloakUserId userId) := by
  unfold CredentialService.findByKeycloakUserId
  refine same_call_bind (same_findCredential h) fun ch found s' t' h' _ _ => ?_
  cases (found : Option Credential) with
  | none => exact h'
  | some record => exact h'

theorem own_verifyMpin (scrypt : Scrypt) (mpin : String) (h : Apart userId s₀ t₀ s t) :
    OwnPart userId s₀ t₀ s t (CredentialService.verifyMpin scrypt userId mpin) := by
  unfold CredentialService.verifyMpin
  refine same_call_bind (same_findCredential h) fun ch found s' t' h' _ _ => ?_
  cases (found : Option Credential) with
  | none => exact h'
  | some record => exact same_settled.2 h'

/-- What a read leaves is where it was made. -/
theorem read_state {op : Op} {ch : Choice} {res : Except HttpError op.Res} {s s' : Store}
    (hread : op.isRead = true) (h : perform op ch s = (res, s')) : s' = s :=
  (congrArg Prod.snd h).symm.trans (perform_read hread ch s)

theorem own_softDelete (h : Apart userId s₀ t₀ s t) :
    OwnPart userId s₀ t₀ s t (CredentialService.softDeleteByKeycloakUserId userId) := by
  unfold CredentialService.softDeleteByKeycloakUserId
  refine same_call_bind (same_findCredential h) fun ch found s' t' h' hs _ => ?_
  cases (found : Option Credential) with
  | none => exact h'
  | some record =>
      have hrow := findCredential_some hs
      have hstate : s' = s := @read_state (.findCredential userId) _ _ _ _ rfl hs
      have hown : record ∈ ownRows s' userId := by
        rw [hstate]
        exact mem_ownRows.2 ⟨hrow.1, hrow.2.1⟩
      exact same_call_bind (same_softDeleteCredential h' hown) fun _ _ _ _ h'' _ _ => h''

theorem own_updatePassword (dto : SetCredentialDto) (h : Apart userId s₀ t₀ s t) :
    OwnPart userId s₀ t₀ s t (CredentialService.updatePassword dto) := by
  unfold CredentialService.updatePassword
  cases dto.password with
  | none => exact h
  | some password =>
      dsimp only
      split
      · unfold CredentialService.resetUserPassword
        rw [bind_assoc]
        refine same_call_bind (same_blind h rfl request_fst) fun _ _ s₁ t₁ h₁ _ _ => ?_
        exact same_call_bind (same_blind h₁ rfl request_fst) fun _ _ s₂ t₂ h₂ _ _ => h₂
      · exact h

theorem own_writeMpin (scrypt : Scrypt) (mpin : Json) (h : Apart userId s₀ t₀ s t) :
    OwnPart userId s₀ t₀ s t (CredentialService.writeMpin scrypt userId mpin) := by
  unfold CredentialService.writeMpin
  refine same_call_bind (same_findCredential h) fun ch found s₁ t₁ h₁ hs₁ _ => ?_
  refine same_call_bind (same_blind h₁ rfl fun _ => rfl) fun _ random s₂ t₂ h₂ hs₂ _ => ?_
  refine own_settled_bind h₂ fun hashed _ => ?_
  refine same_call_bind (same_blind h₂ rfl fun _ => rfl) fun _ now s₃ t₃ h₃ hs₃ _ => ?_
  cases (found : Option Credential) with
  | none => exact same_call (same_insertCredential h₃ rfl)
  | some record =>
      have hrow := findCredential_some hs₁
      -- The row that was found is still there.
      have hstate : s₃ = s :=
        calc s₃ = s₂ := @read_state .now _ _ _ _ rfl hs₃
          _ = s₁ := @read_state (.randomBytes 16) _ _ _ _ rfl hs₂
          _ = s := @read_state (.findCredential userId) _ _ _ _ rfl hs₁
      have hown : record ∈ ownRows s₃ userId := by
        rw [hstate]
        exact mem_ownRows.2 ⟨hrow.1, hrow.2.1⟩
      exact same_call (same_saveCredential h₃ hown rfl hrow.2.1)

theorem own_create (scrypt : Scrypt) {dto : SetCredentialDto} (huser : dto.userId = userId)
    (h : Apart userId s₀ t₀ s t) : OwnPart userId s₀ t₀ s t (CredentialService.create scrypt dto) := by
  unfold CredentialService.create
  split
  · exact h
  · refine (own_updatePassword dto h).bind fun s₁ t₁ passwordUpdated h₁ => ?_
    have hstore : OwnPart userId s₀ t₀ s₁ t₁ (CredentialService.storeMpin scrypt dto) := by
      unfold CredentialService.storeMpin
      cases dto.mpin with
      | none => exact h₁
      | some mpin =>
          dsimp only
          split
          · rw [huser]
            exact (own_writeMpin scrypt mpin h₁).bind fun _ _ _ h₂ => h₂
          · exact h₁
    exact hstore.bind fun _ _ _ h₂ => h₂

end Methods

/-! ## The routes -/

section Routes

variable {userId : String} {s₀ t₀ s t : Store} {user : Actor} {body : Json} {uuid : String → Bool}

/-- The body names nobody, or the caller. -/
def NamesOnly (userId : String) (body : Json) : Prop :=
  ∀ target, body.property "userId" = some target → target.truthy = false ∨ target = .string userId

theorem own_guarded {handler : Prog Reply} (hsub : user.sub = some userId)
    (hplain : IdorGuard.isElevated user = false) (h : Apart userId s₀ t₀ s t)
    (hhandler : NamesOnly userId body → OwnPart userId s₀ t₀ s t handler) :
    OwnPart userId s₀ t₀ s t (idorGuarded user body handler) := by
  unfold idorGuarded
  refine own_settled_bind h fun allowed hallowed => ?_
  cases allowed with
  | false => exact h
  | true =>
      rcases (IdorGuard.canActivate_ok hplain).1 hallowed with ⟨sub, hsub', _, hnames⟩
      cases hsub.symm.trans hsub'
      exact hhandler hnames

/-- A field that is left out, or passes the check, names the caller. -/
theorem text?_own (hempty : uuid "" = false) (hnames : NamesOnly userId body)
    (hvalid : isOptional (isUuid uuid "userId") (body.property "userId") = []) :
    text? (body.property "userId") = none ∨ text? (body.property "userId") = some userId := by
  cases htarget : body.property "userId" with
  | none => exact .inl rfl
  | some target =>
      rcases hnames target htarget with hfalsy | rfl
      · rw [htarget] at hvalid
        cases target with
        | string text =>
            have htext : text = "" := by simpa [Json.truthy] using hfalsy
            simp [isOptional, isUuid, check, htext, hempty] at hvalid
        | _ => exact .inl rfl
      · exact .inr rfl

theorem getDto_own {dto : GetCredentialDto} (hempty : uuid "" = false)
    (hnames : NamesOnly userId body) (hdto : GetCredentialDto.validate uuid body = .ok dto) :
    dto.userId = none ∨ dto.userId = some userId := by
  rcases validated_ok.1 hdto with ⟨hvalid, hsome⟩
  cases hsome
  exact text?_own hempty hnames hvalid

theorem verifyDto_own {dto : VerifyCredentialDto} (hempty : uuid "" = false)
    (hnames : NamesOnly userId body) (hdto : VerifyCredentialDto.validate uuid body = .ok dto) :
    dto.userId = none ∨ dto.userId = some userId := by
  rcases validated_ok.1 hdto with ⟨hvalid, hsome⟩
  rcases Option.map_eq_some_iff.1 hsome with ⟨mpin, _, rfl⟩
  simp only [List.append_eq_nil_iff] at hvalid
  exact text?_own hempty hnames hvalid.1.1.1.1

theorem setDto_own {dto : SetCredentialDto} (hnames : NamesOnly userId body)
    (hdto : SetCredentialDto.validate uuid body = .ok dto) : dto.userId = userId := by
  rcases validated_ok.1 hdto with ⟨hvalid, hsome⟩
  rcases Option.map_eq_some_iff.1 hsome with ⟨text, htext, rfl⟩
  simp only [List.append_eq_nil_iff] at hvalid
  have hnotEmpty := hvalid.1.1.2
  cases htarget : body.property "userId" with
  | none =>
      rw [htarget] at htext
      cases htext
  | some target =>
      rw [htarget] at htext hnotEmpty
      rcases hnames target htarget with hfalsy | rfl
      · cases target with
        | string text' =>
            have hblank : text' = "" := by simpa [Json.truthy] using hfalsy
            simp [isNotEmpty, check, hblank, Json.isString] at hnotEmpty
        | _ => cases htext
      · exact (Option.some.inj htext).symm

theorem getD_own {field : Option String} (h : field = none ∨ field = some userId) :
    field.getD userId = userId := by
  rcases h with rfl | rfl
  · rfl
  · rfl

/-- A route behind the guard keeps to the caller's rows. -/
theorem own_route (scrypt : Scrypt) (hempty : uuid "" = false) (hsub : user.sub = some userId)
    (hplain : IdorGuard.isElevated user = false) {r : Route}
    (hroute : r ≠ .list) (h : Apart userId s₀ t₀ s t) :
    OwnPart userId s₀ t₀ s t (route scrypt uuid user body r) := by
  cases r with
  | list => exact absurd rfl hroute
  | get =>
      refine own_guarded hsub hplain h fun hnames => own_settled_bind h fun dto hdto => ?_
      -- The guard has seen the id that the handler takes, so it is the user's own.
      have hown : (dto.userId <|> user.sub) = some userId := by
        rcases getDto_own hempty hnames hdto with hnone | hnamed
        · simp [hnone, hsub]
        · simp [hnamed]
      unfold CredentialController.get CredentialService.resolveGet
      rw [hown]
      split
      · exact h
      · exact h
      · rename_i hmatch
        cases hmatch
        exact own_findByKeycloakUserId h
  | create =>
      refine own_guarded hsub hplain h fun hnames => own_settled_bind h fun dto hdto => ?_
      exact own_create scrypt (setDto_own hnames hdto) h
  | verify =>
      refine own_guarded hsub hplain h fun hnames => own_settled_bind h fun dto hdto => ?_
      unfold CredentialController.verify
      rw [hsub, Option.getD_some, getD_own (verifyDto_own hempty hnames hdto)]
      exact (own_verifyMpin scrypt dto.mpin h).bind fun _ _ _ h' => h'
  | delete =>
      refine own_guarded hsub hplain h fun hnames => own_settled_bind h fun dto hdto => ?_
      unfold CredentialController.delete
      rw [hsub, Option.getD_some, getD_own (getDto_own hempty hnames hdto)]
      exact own_softDelete h

end Routes

/-! ## Sequences of requests -/

section Sequences

variable (scrypt : Scrypt) (uuid : String → Bool) (user : Actor) (userId : String)

/-- Two stores with the same rows of the user, where generated ids are new: all requests are answered
alike, and no row of another user changes. -/
def KeepsToOwn (calls : List (Call (controller scrypt uuid user))) : Prop :=
  ∀ s t, ownRows t userId = ownRows s userId →
    (∀ c ∈ calls, ∀ n < 6, NewInBoth userId s t (c.choices n)) →
      (controller scrypt uuid user).answers t calls = (controller scrypt uuid user).answers s calls ∧
        otherRows ((controller scrypt uuid user).serve s calls) userId = otherRows s userId ∧
          otherRows ((controller scrypt uuid user).serve t calls) userId = otherRows t userId

/-- The request lists the credentials, and the database answers. -/
def Lists (c : Call (controller scrypt uuid user)) : Prop :=
  c.request.route = .list ∧ (c.choices 0).fails = false

end Sequences

/-! Each request makes six calls at most: two for the password, and four for the MPIN. -/

theorem atMost_updatePassword (dto : SetCredentialDto) :
    (CredentialService.updatePassword dto).AtMost 2 := by
  unfold CredentialService.updatePassword
  cases dto.password with
  | none => exact atMost_resolve _
  | some password =>
      dsimp only
      split
      · unfold CredentialService.resetUserPassword
        rw [bind_assoc]
        exact atMost_call_bind fun _ => atMost_call_bind fun _ => atMost_resolve _
      · exact atMost_resolve _

theorem atMost_storeMpin (scrypt : Scrypt) (dto : SetCredentialDto) :
    (CredentialService.storeMpin scrypt dto).AtMost 4 := by
  unfold CredentialService.storeMpin
  cases dto.mpin with
  | none => exact atMost_resolve _
  | some mpin =>
      dsimp only
      split
      · unfold CredentialService.writeMpin
        rw [bind_assoc]
        refine atMost_call_bind fun found => ?_
        rw [bind_assoc]
        refine atMost_call_bind fun random => ?_
        rw [bind_assoc]
        refine atMost_settled_bind fun hashed => ?_
        rw [bind_assoc]
        refine atMost_call_bind fun now => ?_
        cases (found : Option Credential) with
        | none => exact atMost_call_bind fun _ => atMost_resolve _
        | some record => exact atMost_call_bind fun _ => atMost_resolve _
      · exact atMost_resolve _

theorem atMost_route (scrypt : Scrypt) (uuid : String → Bool) (user : Actor) (body : Json)
    (r : Route) : (route scrypt uuid user body r).AtMost 6 := by
  -- The guard makes no call.
  have hguarded : ∀ handler : Prog Reply, handler.AtMost 6 →
      (idorGuarded user body handler).AtMost 6 := by
    intro handler hhandler
    refine atMost_settled_bind fun allowed => ?_
    cases allowed with
    | false => exact atMost_reject _
    | true => exact hhandler
  cases r with
  | list => exact atMost_call_bind fun _ => atMost_resolve _
  | get =>
      refine hguarded _ (atMost_settled_bind fun dto => ?_)
      unfold CredentialController.get CredentialService.resolveGet
      split
      · exact atMost_reject _
      · exact atMost_reject _
      · refine atMost_call_bind fun found => ?_
        cases (found : Option Credential) with
        | none => exact atMost_reject _
        | some record => exact atMost_resolve _
  | create =>
      refine hguarded _ (atMost_settled_bind fun dto => ?_)
      unfold CredentialController.create CredentialService.create
      split
      · exact atMost_reject _
      · -- Two calls for the password and four for the MPIN.
        refine Program.AtMost.bind (m := 2) (n := 4) (atMost_updatePassword dto) fun _ => ?_
        exact Program.AtMost.bind (m := 4) (n := 0) (atMost_storeMpin scrypt dto) fun _ =>
          atMost_resolve _
  | verify =>
      refine hguarded _ (atMost_settled_bind fun dto => ?_)
      unfold CredentialController.verify CredentialService.verifyMpin
      rw [bind_assoc]
      refine atMost_call_bind fun found => ?_
      cases (found : Option Credential) with
      | none => exact atMost_resolve _
      | some record => exact atMost_settled_bind fun _ => atMost_resolve _
  | delete =>
      refine hguarded _ (atMost_settled_bind fun dto => ?_)
      unfold CredentialController.delete CredentialService.softDeleteByKeycloakUserId
      refine atMost_call_bind fun found => ?_
      cases (found : Option Credential) with
      | none => exact atMost_reject _
      | some record => exact atMost_call_bind fun _ => atMost_resolve _

section Whole

variable {scrypt : Scrypt} {uuid : String → Bool} {user : Actor} {userId : String} {s₀ t₀ s t : Store}

theorem answer_list (c : Call (controller scrypt uuid user)) (hlist : c.request.route = .list) :
    ((controller scrypt uuid user).answer s c).state = s ∧
      ((controller scrypt uuid user).answer s c).result =
        if (c.choices 0).fails then .error (.queryFailed (c.choices 0).message)
        else .ok (.credentials ((s.credentials.find Credential.isLive).map toPublicView)) := by
  rcases c with ⟨⟨r, body⟩, choices⟩
  cases hlist
  simp only [Service.answer, route, CredentialController.list, CredentialService.findAll]
  rw [call_bind, exec_await]
  cases hfails : (choices 0).fails with
  | true => simp [perform, query, Sql.commit, hfails]
  | false => simp [perform, query, Sql.commit, hfails]

/-- One request, of a caller who is not elevated. -/
theorem answer_apart (hempty : uuid "" = false) (hsub : user.sub = some userId)
    (hplain : IdorGuard.isElevated user = false) (c : Call (controller scrypt uuid user))
    (hnew : ∀ n < 6, NewInBoth userId s₀ t₀ (c.choices n)) (h : Apart userId s₀ t₀ s t) :
    Apart userId s₀ t₀ ((controller scrypt uuid user).answer s c).state
        ((controller scrypt uuid user).answer t c).state ∧
      (¬ Lists scrypt uuid user c → ((controller scrypt uuid user).answer t c).result =
        ((controller scrypt uuid user).answer s c).result) := by
  by_cases hlist : c.request.route = .list
  · rcases answer_list (s := s) c hlist with ⟨hs, hresult⟩
    rcases answer_list (s := t) c hlist with ⟨ht, hresult'⟩
    rw [hs, ht]
    refine ⟨h, fun hnot => ?_⟩
    have hfails : (c.choices 0).fails = true := by
      by_contra hanswered
      exact hnot ⟨hlist, by simpa using hanswered⟩
    rw [hresult, hresult', if_pos hfails, if_pos hfails]
  · have hroute : OwnPart userId s₀ t₀ s t
        (route scrypt uuid user c.request.body c.request.route) :=
      own_route scrypt hempty hsub hplain hlist h
    have hend := hroute.exec (atMost_route scrypt uuid user c.request.body c.request.route) hnew
    exact ⟨hend.2, fun _ => hend.1⟩

theorem serve_apart (hempty : uuid "" = false) (hsub : user.sub = some userId)
    (hplain : IdorGuard.isElevated user = false) {calls : List (Call (controller scrypt uuid user))}
    (hnew : ∀ c ∈ calls, ∀ n < 6, NewInBoth userId s₀ t₀ (c.choices n))
    (h : Apart userId s₀ t₀ s t) : Apart userId s₀ t₀ ((controller scrypt uuid user).serve s calls)
      ((controller scrypt uuid user).serve t calls) :=
  Service.serve_related h fun c hc _ _ h' => (answer_apart hempty hsub hplain c (hnew c hc) h').1

/-- An answered list shows the row of a stranger, if there is one. -/
theorem list_tells {c : Call (controller scrypt uuid user)} (hlists : Lists scrypt uuid user c)
    {x : Credential} (hx : x ∈ otherRows t userId) (hlive : x.isLive = true)
    (hnone : otherRows s userId = []) :
    ((controller scrypt uuid user).answer t c).result ≠
      ((controller scrypt uuid user).answer s c).result := by
  intro heq
  rw [(answer_list c hlists.1).2, (answer_list c hlists.1).2, if_neg (by simp [hlists.2]),
    if_neg (by simp [hlists.2])] at heq
  have hviews := Reply.credentials.inj (Except.ok.inj heq)
  have hshown : toPublicView x ∈ (t.credentials.find Credential.isLive).map toPublicView :=
    List.mem_map_of_mem (Sql.Table.mem_find.2 ⟨(mem_otherRows.1 hx).1, hlive⟩)
  rw [hviews] at hshown
  rcases List.mem_map.1 hshown with ⟨r, hr, hview⟩
  have huser : r.keycloakUserId = x.keycloakUserId := congrArg CredentialView.keycloakUserId hview
  have hother : r ∈ otherRows s userId :=
    mem_otherRows.2 ⟨(Sql.Table.mem_find.1 hr).1, huser ▸ (mem_otherRows.1 hx).2⟩
  rw [hnone] at hother
  cases hother

/-- Requests that are answered alike from both stores list nothing, if one store has a live row of a
stranger and the other does not. -/
theorem not_lists_of_answers (hempty : uuid "" = false) (hsub : user.sub = some userId)
    (hplain : IdorGuard.isElevated user = false) {calls : List (Call (controller scrypt uuid user))}
    (hnew : ∀ c ∈ calls, ∀ n < 6, NewInBoth userId s t (c.choices n))
    (hown : ownRows t userId = ownRows s userId) {x : Credential} (hx : x ∈ otherRows t userId)
    (hlive : x.isLive = true) (hnone : otherRows s userId = [])
    (hanswers : (controller scrypt uuid user).answers t calls =
      (controller scrypt uuid user).answers s calls) : ∀ c ∈ calls, ¬ Lists scrypt uuid user c := by
  intro c hc hlists
  rcases List.append_of_mem hc with ⟨before, after, rfl⟩
  have hnewBefore : ∀ c ∈ before, ∀ n < 6, NewInBoth userId s t (c.choices n) :=
    fun c hc => hnew c (List.mem_append_left _ hc)
  have hbefore := serve_apart hempty hsub hplain hnewBefore ⟨hown, rfl, rfl⟩
  rw [Service.answers_append, Service.answers_append] at hanswers
  have hlen : ((controller scrypt uuid user).answers t before).length =
      ((controller scrypt uuid user).answers s before).length := by
    rw [Service.length_answers, Service.length_answers]
  have htail := (List.append_inj hanswers hlen).2
  exact list_tells hlists (hbefore.right ▸ hx) hlive (hbefore.left.trans hnone)
    (List.cons_eq_cons.1 htail).1

end Whole

/-- Finitely many ids leave others. -/
theorem exists_new_id (ids : List String) : ∃ id, id ∉ ids := by
  rcases Infinite.exists_notMem_finset (ids.map String.length).toFinset with ⟨n, hn⟩
  refine ⟨String.ofList (List.replicate n 'x'), fun hmem => hn ?_⟩
  rw [List.mem_toFinset, List.mem_map]
  exact ⟨_, hmem, by simp⟩

/-- A caller who is not elevated sees and changes nothing but own rows, whatever the bodies are,
exactly if no list of the credentials is answered. -/
theorem keeps_to_own_iff (scrypt : Scrypt) (uuid : String → Bool) (user : Actor) (userId : String)
    (hempty : uuid "" = false) (hsub : user.sub = some userId)
    (hplain : IdorGuard.isElevated user = false)
    (calls : List (Call (controller scrypt uuid user))) :
    KeepsToOwn scrypt uuid user userId calls ↔ ∀ c ∈ calls, ¬ Lists scrypt uuid user c := by
  constructor
  · intro h
    -- A store without rows, and one with a row of somebody else, whose id is never generated.
    rcases exists_new_id (calls.flatMap fun c => (List.range 6).map fun n => (c.choices n).freshId) with
      ⟨id, hid⟩
    let x : Credential := ⟨id, userId ++ "?", "", none, 0, 0, none⟩
    have hstranger : x.keycloakUserId ≠ userId := by
      intro heq
      have hlen := congrArg String.length heq
      simp [x] at hlen
    let s : Store := ⟨.empty⟩
    let t : Store := ⟨⟨[x], List.nodup_singleton _, List.nodup_singleton _⟩⟩
    have hother : otherRows t userId = [x] := by
      simpa [otherRows, Sql.Table.find, t] using hstranger
    have hown : ownRows t userId = ownRows s userId := by
      simpa [ownRows, Sql.Table.find, t, s, Sql.Table.empty] using hstranger
    have hnew : ∀ c ∈ calls, ∀ n < 6, NewInBoth userId s t (c.choices n) := by
      intro c hc n hn
      refine ⟨fun r hr => absurd hr List.not_mem_nil, fun r hr heq => hid ?_⟩
      rw [hother, List.mem_singleton] at hr
      refine List.mem_flatMap.2 ⟨c, hc, List.mem_map.2 ⟨n, List.mem_range.2 hn, ?_⟩⟩
      rw [← heq, hr]
    exact not_lists_of_answers hempty hsub hplain hnew hown (hother ▸ List.mem_singleton_self x) rfl
      rfl (h s t hown hnew).1
  · intro h s t hown hnew
    have hstart : Apart userId s t s t := ⟨hown, rfl, rfl⟩
    have hend := serve_apart hempty hsub hplain hnew hstart
    refine ⟨Service.same_answers hstart fun c hc s' t' h' => ?_, hend.left, hend.right⟩
    have hone := answer_apart hempty hsub hplain c (hnew c hc) h'
    exact ⟨hone.2 (h c hc), hone.1⟩

/-! ## A customer -/

def customerId : String := "334b032c-7468-47fa-82a3-8204b80913a2"

def customer : Actor := ⟨some customerId, some ["RETAIL_CUSTOMER"], none⟩

/-- A pattern for samples. -/
def sampleUuid (text : String) : Bool := text.length == 36

def fresh (id : String) : Choice where
  fails := false
  message := ""
  pick := 0
  freshId := id
  now := 1000
  random := fun _ => 0

def customerCall (r : Route) (members : List (String × Json)) :
    Call (controller plainScrypt sampleUuid customer) :=
  ⟨⟨r, .object members⟩, fun _ => fresh "row-1"⟩

theorem keeps_to_own_mpin :
    KeepsToOwn plainScrypt sampleUuid customer customerId
        [customerCall .create [("userId", .string customerId), ("mpin", .string "1234")],
          customerCall .get []] ↔
      ∀ c ∈ [customerCall .create [("userId", .string customerId), ("mpin", .string "1234")],
        customerCall .get []], ¬ Lists plainScrypt sampleUuid customer c :=
  keeps_to_own_iff plainScrypt sampleUuid customer customerId (by decide) rfl (by decide) _

/-- Somebody else's row. -/
def strangersStore : Store :=
  ⟨.ofRows _ _ [⟨"row-9", "8204b809-7468-47fa-82a3-334b032c13a2", "scrypt:00:00", none, 0, 0, none⟩]⟩

/-- A customer lists the credentials of all. -/
theorem list_shows_strangers :
    ¬ KeepsToOwn plainScrypt sampleUuid customer customerId [customerCall .list []] := by
  intro h
  have hnew : NewInBoth customerId ⟨.empty⟩ strangersStore (fresh "row-1") := by decide
  have hanswers := (h ⟨.empty⟩ strangersStore (by decide) (by simpa [customerCall] using fun _ _ => hnew)).1
  have hshown := congrArg (List.map fun r : Except HttpError Reply => r.toOption) hanswers
  revert hshown
  decide

end Credentials
end IdentityBillpay
