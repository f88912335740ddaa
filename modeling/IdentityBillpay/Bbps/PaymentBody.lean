import IdentityBillpay.Async.Lift
import IdentityBillpay.Bbps.PaymentService
import IdentityBillpay.Common.ClassValidator
import IdentityBillpay.Js.Map
import IdentityBillpay.Js.Text

/-!
# PaymentBody — the body of `POST /bill-payment/payment`

The DTO types every field as text, but a field that is not validated holds any JSON value.

* `IdempotencyKeyInterceptor.intercept`, `CreatePaymentDto.messages`, `accept` — from the request to
  the fields that the handler sees;
* `PaymentBody.create` — `create` on such fields: a lookup by anything but text is an operation of
  its own;
* `create_of_texts` — on texts it is `create`;
* `accepted_usable_iff` — which accepted bodies the service can use.
-/

namespace IdentityBillpay
namespace Bbps

open Async Async.Program Common Js
open Keycloak (HttpError)

/-! ## From the request to the handler -/

/-- `if (field)`. -/
def isTruthy (field : Option Json) : Bool :=
  field.any Json.truthy

/-- The fields as they are handed on. -/
structure PaymentBody where
  billNumber : Option Json
  billerCode : Option Json
  consumerNumber : Option Json
  amount : Option Json
  idempotencyKey : String

/-- The fields of a body. -/
def PaymentBody.ofJson (idempotencyKey : String) (body : Json) : PaymentBody where
  billNumber := body.property "billNumber"
  billerCode := body.property "billerCode"
  consumerNumber := body.property "consumerNumber"
  amount := body.property "amount"
  idempotencyKey := idempotencyKey

namespace IdempotencyKeyInterceptor

def trimmed (text : String) : String :=
  String.ofList (trim text.toList)

/-- The members of `{ ...body }`, for a body that is an object or an array. -/
def spread : Json → List (String × Json)
  | .object members => members
  | .array items => items.zipIdx.map fun (item, i) => (toString i, item)
  | _ => []

/-- The header wins over the field of the body. -/
def key (header : Option String) (body : Json) : String :=
  match header.map trimmed with
  | none | some "" =>
      match body.property "idempotencyKey" with
      | some (.string text) => trimmed text
      | _ => ""
  | some text => text

/-- `{ ...body, idempotencyKey }`. -/
def intercept (header : Option String) (body : Json) : Except HttpError Json :=
  if key header body = "" then
    .error (.badRequest "Missing idempotency key — send the idempotency-key header")
  else
    .ok (.object (Map.put "idempotencyKey" (.string (key header body)) (spread body)))

end IdempotencyKeyInterceptor

/-- `@IsNotEmpty() @IsString()`. -/
def nonEmptyText (name : String) : Check := fun value =>
  isString name value ++ isNotEmpty name value

/-- A field is left alone where its condition is not met. -/
def CreatePaymentDto.messages (body : Json) : List String :=
  let billNumber := body.property "billNumber"
  let billerCode := body.property "billerCode"
  let consumerNumber := body.property "consumerNumber"
  (if isTruthy billerCode || isTruthy consumerNumber then []
    else nonEmptyText "billNumber" billNumber) ++
  (if isTruthy billNumber then []
    else nonEmptyText "billerCode" billerCode ++ nonEmptyText "consumerNumber" consumerNumber ++
      nonEmptyText "amount" (body.property "amount")) ++
  isOptional (fun value => isNotEmpty "idempotencyKey" value ++ isString "idempotencyKey" value)
    (body.property "idempotencyKey")

/-- What the handler is called with: the interceptor runs before the validators. -/
def accept (header : Option String) (body : Json) : Except HttpError PaymentBody := do
  let intercepted ← IdempotencyKeyInterceptor.intercept header body
  validated (CreatePaymentDto.messages intercepted)
    (some (.ofJson (IdempotencyKeyInterceptor.key header body) intercepted))

/-! ## The handler -/

/-- A `where` clause over fields of a body. -/
inductive BodyWhere
  | billNumber (billNumber : Json)
  | pair (billerCode consumerNumber : Option Json)

/-- The clause, if it compares columns with texts. -/
def BodyWhere.text? : BodyWhere → Option BillWhere
  | .billNumber (.string text) => some (.billNumber text)
  | .pair (some (.string code)) (some (.string number)) => some (.pair code number)
  | _ => none

/-- The lookups by something else than text. -/
inductive UntypedOp
  | findMockBill (query : BodyWhere)
  | findDemo (query : BodyWhere)

abbrev UntypedOp.Res : UntypedOp → Type
  | .findMockBill _ => Option MockBill
  | .findDemo _ => Option DemoBbpsData

abbrev untyped : Signature := ⟨UntypedOp, UntypedOp.Res⟩

abbrev BodyProg (α : Type) := Program (sig.sum untyped) ServiceError α

/-- `await` of a lookup by something else than text. -/
abbrev untypedCall (op : UntypedOp) : BodyProg op.Res :=
  @Program.call (sig.sum untyped) ServiceError (.inr op)

namespace PaymentBody

def resolveUntyped (query : BodyWhere) : BodyProg (Option BillingRecord) := do
  let mock : Option MockBill ← untypedCall (.findMockBill query)
  match mock with
  | some record => return some (.mock record)
  | none =>
      let demo : Option DemoBbpsData ← untypedCall (.findDemo query)
      match demo with
      | some record => return some (.demo record)
      | none => return none

/-- The mock bill that matches, else the demo row that matches. -/
def resolve (query : BodyWhere) : BodyProg (Option BillingRecord) :=
  match query.text? with
  | some query => lift untyped (resolveRecord query)
  | none => resolveUntyped query

section Handler

variable (Number : Json → JsNumber) (dto : PaymentBody)

def billWhere : BodyWhere :=
  match dto.billNumber with
  | some billNumber =>
      if billNumber.truthy then .billNumber billNumber else .pair dto.billerCode dto.consumerNumber
  | none => .pair dto.billerCode dto.consumerNumber

def incomplete : Bool :=
  !isTruthy dto.billNumber &&
    (!isTruthy dto.billerCode || !isTruthy dto.consumerNumber || !isTruthy dto.amount)

/-- `Number(value)` of a field. What it makes of a value that is not text is left open. -/
def numberOf : Option Json → JsNumber
  | none => .nan
  | some (.string text) => Js.Number text
  | some value => Number value

def isSamePaymentRequest (existingPayment : BillPayment) : BodyProg Bool := do
  if isTruthy dto.billNumber then do
    let found ← resolve dto.billWhere
    match found with
    | none => return false
    | some found =>
        return existingPayment.billerCode == found.bill.billerCode &&
          existingPayment.consumerNumber == found.bill.consumerNumber &&
          existingPayment.amount.toNumber.strictEq found.bill.amount.toNumber
  else
    return dto.billerCode.any (Json.isString existingPayment.billerCode) &&
      dto.consumerNumber.any (Json.isString existingPayment.consumerNumber) &&
      existingPayment.amount.toNumber.strictEq (numberOf Number dto.amount)

/-- The amount asked for: the body's when it gives one, else the bill's. -/
def requestedAmount (billAmount : JsNumber) : JsNumber :=
  match dto.amount with
  | none | some .null | some (.string "") => billAmount
  | some amount => numberOf Number (some amount)

/-- Steps 2 and 3 of `create`: the bill's status and the requested amount. -/
def checkPayable (bill : Bill) : Except ServiceError Unit :=
  let billAmount := bill.amount.toNumber
  let requestedAmount := dto.requestedAmount Number billAmount
  if bill.status != "UNPAID" then
    .error (.badRequest "BILL_NOT_PAYABLE" "Bill is already paid or not payable")
  else if requestedAmount.isNaN || !requestedAmount.strictEq billAmount then
    .error (.badRequest "AMOUNT_MISMATCH" "Payment amount does not match bill amount")
  else .ok ()

/-- Steps 4 to 7 read nothing of the body but its key. -/
def keyOnly : CreatePaymentDto := ⟨none, none, none, none, dto.idempotencyKey⟩

def create (actor : Actor) : BodyProg PaymentResult := do
  let keycloakUserId ← settled (requireActorSub actor)
  if dto.incomplete then
    throw (.badRequest "INVALID_PAYMENT_REQUEST"
      "Provide billNumber from fetch, or billerCode + consumerNumber + amount together")
  else do
    let existingPayment : Option BillPayment ←
      lift untyped (call (.findPaymentByKey dto.idempotencyKey))
    match existingPayment with
    | some existingPayment => do
        settled (assertIdempotentPaymentOwnedByActor existingPayment actor)
        let sameRequest ← dto.isSamePaymentRequest Number existingPayment
        if !sameRequest then
          throw (.badRequest "IDEMPOTENCY_KEY_REUSED"
            "Idempotency key is already used for a different payment")
        else return replayed existingPayment
    | none => do
        let found ← resolve dto.billWhere
        match found with
        | none => throw (.notFound "BILL_NOT_FOUND" "Bill not found")
        | some found => do
            settled (dto.checkPayable Number found.bill)
            lift untyped (dispatch dto.keyOnly keycloakUserId found)

end Handler

/-! ## On texts -/

/-- The fields of a typed DTO. -/
def ofDto (dto : CreatePaymentDto) : PaymentBody where
  billNumber := dto.billNumber.map .string
  billerCode := dto.billerCode.map .string
  consumerNumber := dto.consumerNumber.map .string
  amount := dto.amount.map .string
  idempotencyKey := dto.idempotencyKey

@[simp] theorem isTruthy_text (field : Option String) :
    isTruthy (field.map Json.string) = truthy field := by
  cases field with
  | none => rfl
  | some text => rfl

@[simp] theorem ofDto_billNumber (dto : CreatePaymentDto) :
    (ofDto dto).billNumber = dto.billNumber.map .string := rfl

theorem incomplete_ofDto (dto : CreatePaymentDto) : (ofDto dto).incomplete = dto.incomplete := by
  simp [incomplete, CreatePaymentDto.incomplete, ofDto]

/-- A complete body on texts has a clause on texts, that of the typed DTO. -/
theorem text?_ofDto {dto : CreatePaymentDto} (h : dto.incomplete = false) :
    (ofDto dto).billWhere.text? = some dto.billWhere := by
  rcases dto with ⟨billNumber, billerCode, consumerNumber, amount, key⟩
  by_cases hnumber : truthy billNumber = true
  · cases billNumber with
    | none => cases hnumber
    | some text =>
        have htext : Json.truthy (.string text) = true := hnumber
        simp [ofDto, billWhere, htext, BodyWhere.text?, CreatePaymentDto.billWhere, hnumber]
  · simp only [CreatePaymentDto.incomplete, hnumber, Bool.not_false, Bool.true_and,
      Bool.or_eq_false_iff, Bool.not_eq_false'] at h
    rcases h with ⟨⟨hcode, hconsumer⟩, _⟩
    cases billerCode with
    | none => cases hcode
    | some code =>
        cases consumerNumber with
        | none => cases hconsumer
        | some number =>
            cases billNumber with
            | none => rfl
            | some text =>
                have htruthy : truthy (some text) = false := by simpa using hnumber
                have htext : Json.truthy (.string text) = false := htruthy
                simp [ofDto, billWhere, htext, BodyWhere.text?, CreatePaymentDto.billWhere, hnumber]

theorem any_isString (field : Option String) (text : String) :
    (field.map Json.string).any (Json.isString text) = (some text == field) := by
  cases field with
  | none => rfl
  | some value =>
      rw [Bool.eq_iff_iff]
      simp only [Option.map_some, Option.any_some, Json.isString_iff, Json.string.injEq,
        beq_iff_eq, Option.some.injEq]
      exact eq_comm

theorem numberOf_text (Number : Json → JsNumber) (field : Option String) :
    numberOf Number (field.map .string) = Bbps.numberOf field := by
  cases field with
  | none => rfl
  | some text => rfl

theorem checkPayable_ofDto (Number : Json → JsNumber) (dto : CreatePaymentDto) (bill : Bill) :
    (ofDto dto).checkPayable Number bill = Bbps.checkPayable dto bill := by
  have hamount : (ofDto dto).requestedAmount Number bill.amount.toNumber =
      dto.requestedAmount bill.amount.toNumber := by
    cases hfield : dto.amount with
    | none => simp [requestedAmount, CreatePaymentDto.requestedAmount, ofDto, hfield]
    | some text =>
        by_cases htext : text = ""
        · simp [requestedAmount, CreatePaymentDto.requestedAmount, ofDto, hfield, htext]
        · simp [requestedAmount, CreatePaymentDto.requestedAmount, ofDto, hfield, htext,
            numberOf, Bbps.numberOf]
  simp [checkPayable, Bbps.checkPayable, hamount]

/-- On texts the handler is the typed one. -/
theorem create_ofDto (Number : Json → JsNumber) (dto : CreatePaymentDto) (actor : Actor) :
    (ofDto dto).create Number actor = lift untyped (Bbps.create dto actor) := by
  unfold create Bbps.create
  rw [lift_bind, lift_settled, incomplete_ofDto]
  congr 1
  funext sub
  cases hincomplete : dto.incomplete with
  | true => rfl
  | false =>
      -- The text of a typed body is what both models look the bill up by.
      have hresolve : resolve (ofDto dto).billWhere = lift untyped (resolveRecord dto.billWhere) := by
        simp [resolve, text?_ofDto hincomplete]
      simp only [Bool.false_eq_true, if_false, lift_bind]
      congr 1
      funext existing
      -- First the branch of a new key, and then the replay.
      cases existing with
      | none =>
          simp only [hresolve, findBill_eq, lift_bind]
          congr 1
          funext found
          cases found with
          | none => rfl
          | some found =>
              simp only [checkPayable_ofDto, lift_bind, lift_settled]
              rfl
      | some existing =>
          have hsame : isSamePaymentRequest Number (ofDto dto) existing =
              lift untyped (Bbps.isSamePaymentRequest dto existing) := by
            unfold isSamePaymentRequest Bbps.isSamePaymentRequest
            cases hnumber : truthy dto.billNumber with
            | true =>
                have hquery : findBillingRecordByBillNumber (dto.billNumber.getD "") =
                    resolveRecord dto.billWhere := by
                  simp [findBillingRecordByBillNumber, CreatePaymentDto.billWhere, hnumber]
                simp only [ofDto_billNumber, isTruthy_text, hnumber, if_true, hresolve, hquery,
                  lift_bind]
                congr 1
                funext found
                cases found with
                | none => rfl
                | some found => rfl
            | false =>
                simp [ofDto, hnumber, any_isString, numberOf_text]
          simp only [hsame, lift_bind, lift_settled]
          congr 1
          funext _
          congr 1
          funext same
          cases same with
          | true => rfl
          | false => rfl

end PaymentBody

/-! ## Which bodies the service can use -/

def IsNonEmptyText (field : Option Json) : Prop :=
  ∃ text, field = some (.string text) ∧ text ≠ ""

def IsAbsentOrEmpty (field : Option Json) : Prop :=
  field = none ∨ field = some .null ∨ field = some (.string "")

/-- A bill number, or none and all of biller, consumer and amount. -/
def PaymentBody.Usable (dto : PaymentBody) : Prop :=
  IsNonEmptyText dto.billNumber ∨
    IsAbsentOrEmpty dto.billNumber ∧ IsNonEmptyText dto.billerCode ∧
      IsNonEmptyText dto.consumerNumber ∧ IsNonEmptyText dto.amount

/-- The bill number is text, if it is sent at all. -/
def PaymentBody.BillNumberIsText (dto : PaymentBody) : Prop :=
  ∀ value, dto.billNumber = some value → value = .null ∨ ∃ text, value = .string text

/-- No run of the handler looks a bill up by something else than text, whatever the calls answer. -/
def PaymentBody.LooksUpTexts (dto : PaymentBody) : Prop :=
  ∀ (Number : Json → JsNumber) (actor : Actor) (B : Backend (sig.sum untyped) ServiceError) choices s,
    ∀ a ∈ ((dto.create Number actor).exec B choices s).awaited,
      Sum.isLeft (α := sig.Op) (β := untyped.Op) a.op = true

/-- What the validators ask of the four fields. -/
theorem accepted_fields {key : String} {body : Json} (h : CreatePaymentDto.messages body = []) :
    let dto := PaymentBody.ofJson key body
    (isTruthy dto.billerCode = false → isTruthy dto.consumerNumber = false →
      IsNonEmptyText dto.billNumber) ∧
    (isTruthy dto.billNumber = false → IsNonEmptyText dto.billerCode ∧
      IsNonEmptyText dto.consumerNumber ∧ IsNonEmptyText dto.amount) := by
  rcases List.append_eq_nil_iff.1 h with ⟨hfields, _⟩
  rcases List.append_eq_nil_iff.1 hfields with ⟨hnumber, hothers⟩
  refine ⟨fun hcode hconsumer => ?_, fun hfalsy => ?_⟩
  · have hcode' : isTruthy (body.property "billerCode") = false := hcode
    have hconsumer' : isTruthy (body.property "consumerNumber") = false := hconsumer
    simp only [hcode', hconsumer', Bool.or_false, Bool.false_eq_true, if_false] at hnumber
    exact nonEmptyText_eq_nil.1 hnumber
  · have hfalsy' : isTruthy (body.property "billNumber") = false := hfalsy
    simp only [hfalsy', Bool.false_eq_true, if_false, List.append_eq_nil_iff] at hothers
    exact ⟨nonEmptyText_eq_nil.1 hothers.1.1, nonEmptyText_eq_nil.1 hothers.1.2,
      nonEmptyText_eq_nil.1 hothers.2⟩

theorem usable_iff {key : String} {body : Json} (h : CreatePaymentDto.messages body = []) :
    (PaymentBody.ofJson key body).Usable ↔ (PaymentBody.ofJson key body).BillNumberIsText := by
  have hothers := (@accepted_fields key body h).2
  generalize PaymentBody.ofJson key body = dto at hothers ⊢
  constructor
  · rintro (⟨text, htext, _⟩ | ⟨habsent | hnull | hempty, _⟩) value hvalue
    · cases htext.symm.trans hvalue
      exact .inr ⟨text, rfl⟩
    · cases habsent.symm.trans hvalue
    · cases hnull.symm.trans hvalue
      exact .inl rfl
    · cases hempty.symm.trans hvalue
      exact .inr ⟨"", rfl⟩
  · intro htext
    cases hnumber : dto.billNumber with
    | none =>
        have hfalsy : isTruthy dto.billNumber = false := by rw [hnumber]; rfl
        exact .inr ⟨.inl hnumber, hothers hfalsy⟩
    | some value =>
        rcases htext value hnumber with rfl | ⟨text, rfl⟩
        · have hfalsy : isTruthy dto.billNumber = false := by rw [hnumber]; rfl
          exact .inr ⟨.inr (.inl hnumber), hothers hfalsy⟩
        · by_cases hempty : text = ""
          · subst hempty
            have hfalsy : isTruthy dto.billNumber = false := by rw [hnumber]; rfl
            exact .inr ⟨.inr (.inr hnumber), hothers hfalsy⟩
          · exact .inl ⟨text, hnumber, hempty⟩

/-- The lookups of a usable body are by text. -/
theorem PaymentBody.Usable.text? {dto : PaymentBody} (h : dto.Usable) :
    ∃ query, dto.billWhere.text? = some query := by
  rcases h with ⟨text, hnumber, hne⟩ | ⟨habsent, ⟨code, hcode, _⟩, ⟨number, hconsumer, _⟩, _⟩
  · have htruthy : Json.truthy (.string text) = true := by simpa [Json.truthy] using hne
    exact ⟨.billNumber text, by simp [billWhere, hnumber, htruthy, BodyWhere.text?]⟩
  · refine ⟨.pair code number, ?_⟩
    rcases habsent with hnone | hnull | hempty
    · simp [billWhere, hnone, hcode, hconsumer, BodyWhere.text?]
    · simp [billWhere, hnull, hcode, hconsumer, BodyWhere.text?, Json.truthy]
    · simp [billWhere, hempty, hcode, hconsumer, BodyWhere.text?, Json.truthy]

/-- Where the clause is on texts, no other lookup is awaited. -/
theorem PaymentBody.follows_create {dto : PaymentBody} {query : BillWhere}
    (h : dto.billWhere.text? = some query) (Number : Json → JsNumber) (actor : Actor) :
    Follows (fun _ (op : sig.Op ⊕ untyped.Op) => op.isLeft = true) (fun _ _ => True) []
      (dto.create Number actor) := by
  -- The typed calls are the left ones.
  have hresolve : ∀ own, Follows (fun _ (op : sig.Op ⊕ untyped.Op) => op.isLeft = true)
      (fun _ _ => True) own (resolve dto.billWhere) := by
    intro own
    simp only [resolve, h]
    exact follows_lift own _
  refine follows_settled_bind (fun _ _ => trivial) fun sub _ => ?_
  split
  · trivial
  · refine (follows_lift _ _).bind (fun own existing _ => ?_) fun _ _ _ => trivial
    cases existing with
    | some existing =>
        refine follows_settled_bind (fun _ _ => trivial) fun _ _ => ?_
        have hsame : Follows (fun _ (op : sig.Op ⊕ untyped.Op) => op.isLeft = true)
            (fun _ _ => True) own (dto.isSamePaymentRequest Number existing) := by
          unfold isSamePaymentRequest
          split
          · refine (hresolve own).bind (fun _ found _ => ?_) fun _ _ _ => trivial
            cases found with
            | none => trivial
            | some found => trivial
          · trivial
        refine hsame.bind (fun _ same _ => ?_) fun _ _ _ => trivial
        split
        · trivial
        · trivial
    | none =>
        refine (hresolve own).bind (fun own found _ => ?_) fun _ _ _ => trivial
        cases found with
        | none => trivial
        | some found =>
            refine follows_settled_bind (fun _ _ => trivial) fun _ _ => ?_
            exact follows_lift own _

/-- An accepted body is usable, and the handler looks up by texts only, just when its bill number is
text if it is sent. -/
theorem accepted_usable_iff (body : Json) :
    (∀ key, CreatePaymentDto.messages body = [] →
      ((PaymentBody.ofJson key body).Usable ↔ (PaymentBody.ofJson key body).BillNumberIsText)) ∧
    ∀ header dto, accept header body = .ok dto →
      (dto.Usable ∧ dto.LooksUpTexts ↔ dto.BillNumberIsText) := by
  refine ⟨fun key h => usable_iff h, fun header dto haccept => ?_⟩
  have hdto : ∃ intercepted, CreatePaymentDto.messages intercepted = [] ∧
      dto = .ofJson (IdempotencyKeyInterceptor.key header body) intercepted := by
    unfold accept at haccept
    cases hintercept : IdempotencyKeyInterceptor.intercept header body with
    | error e =>
        rw [hintercept] at haccept
        cases haccept
    | ok intercepted =>
        rw [hintercept] at haccept
        rcases validated_ok.1 haccept with ⟨hmessages, hsome⟩
        exact ⟨intercepted, hmessages, (Option.some.inj hsome).symm⟩
  rcases hdto with ⟨intercepted, hmessages, rfl⟩
  rw [← usable_iff hmessages]
  refine ⟨And.left, fun husable => ⟨husable, ?_⟩⟩
  rcases husable.text? with ⟨query, hquery⟩
  intro Number actor B choices s a ha
  rcases (PaymentBody.follows_create hquery Number actor).exec_allowed choices s ha with
    ⟨before, after, _, hallowed⟩
  exact hallowed

/-! ## A body that is checked nowhere -/

/-- The biller code exempts the bill number from its checks, and the other way round. -/
def uncheckedBody : Json :=
  .object [("billNumber", .object []), ("billerCode", .string "BBPS-GAS")]

def checkedBody : Json :=
  .object [("billNumber", .string "BBPS-GAS-001")]

/-- No payment and no bill is found. -/
def emptyBackend : Backend (sig.sum untyped) ServiceError where
  State := Unit
  Choice := Unit
  perform
    | .inl (.findPaymentByKey _), _, s => (.ok none, s)
    | .inl _, _, s => (.error .queryFailed, s)
    | .inr (.findMockBill _), _, s => (.ok none, s)
    | .inr (.findDemo _), _, s => (.ok none, s)

def payer : Actor := ⟨some "customer", none, none⟩

theorem accepted_usable_sample :
    (PaymentBody.ofJson "key" checkedBody).Usable ∧
      (PaymentBody.ofJson "key" checkedBody).LooksUpTexts := by
  have haccept : accept (some "key") checkedBody = .ok (.ofJson "key" checkedBody) := by rfl
  refine ((accepted_usable_iff checkedBody).2 (some "key") _ haccept).2 fun value hvalue => ?_
  cases hvalue
  exact .inr ⟨_, rfl⟩

theorem object_looked_up :
    accept (some "key") uncheckedBody = .ok (.ofJson "key" uncheckedBody) ∧
      ¬(PaymentBody.ofJson "key" uncheckedBody).Usable ∧
      ¬(PaymentBody.ofJson "key" uncheckedBody).LooksUpTexts := by
  refine ⟨by rfl, ?_, fun hlooks => ?_⟩
  · rintro (⟨text, htext, _⟩ | ⟨habsent | hnull | hempty, _⟩)
    · cases htext
    · cases habsent
    · cases hnull
    · cases hempty
  · have hleft := hlooks (fun _ => .nan) payer emptyBackend (fun _ => ()) ()
      ⟨.inr (.findMockBill (.billNumber (.object []))), .ok none⟩
      (List.mem_cons_of_mem _ List.mem_cons_self)
    cases hleft

end Bbps
end IdentityBillpay
