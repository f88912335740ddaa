import Mathlib.Data.Rat.Defs
import Mathlib.Algebra.Order.Field.Rat
import IdentityBillpay.Js.Map
import IdentityBillpay.Js.StringToNumber

/-!
# ReportingService — the reports of the admin module

* `ReportTransaction`, `ReportQueryDto` — a transaction and the filters of a report;
* `getFilteredTransactions` — the filters, one after the other;
* `dailySummary`, `failedTransactions`, `branchWise`, `channelWise` — the reports.

Amounts are exact. What an engine reads a date as, and its table of lower-case letters, are the
parameters `newDate` and `toLowerCase` of `Engine`.
-/

namespace IdentityBillpay

/-- `a < n` for an exact `a`; false for `NaN`. -/
def JsNumber.above (a : ℚ) : JsNumber → Bool
  | .nan => false
  | .infinity negative => !negative
  | .finite mantissa exponent => decide (a < (mantissa : ℚ) * 2 ^ exponent)

/-- `a > n` for an exact `a`; false for `NaN`. -/
def JsNumber.below (a : ℚ) : JsNumber → Bool
  | .nan => false
  | .infinity negative => negative
  | .finite mantissa exponent => decide ((mantissa : ℚ) * 2 ^ exponent < a)

namespace Admin

open Js (Map Number)

/-! ## Data -/

inductive TransactionStatus
  | SUCCESS
  | FAILED
  | PENDING
  deriving DecidableEq, Repr

def TransactionStatus.text : TransactionStatus → String
  | .SUCCESS => "SUCCESS"
  | .FAILED => "FAILED"
  | .PENDING => "PENDING"

inductive TransactionType
  | CREDIT
  | DEBIT
  deriving DecidableEq, Repr

def TransactionType.text : TransactionType → String
  | .CREDIT => "CREDIT"
  | .DEBIT => "DEBIT"

structure ReportTransaction where
  txn_id : String
  utr : String
  channel : String
  payment_mode : String
  sender_cif : String
  sender_name : String
  sender_account : String
  receiver_name : String
  receiver_account : String
  receiver_bank : String
  amount : ℚ
  status : TransactionStatus
  transaction_type : TransactionType
  branch : String
  created_at : String
  switch_response_code : String
  risk_score : ℚ
  deriving DecidableEq

/-- All fields are optional texts. -/
structure ReportQueryDto where
  fromDate : Option String
  toDate : Option String
  cif : Option String
  branch : Option String
  status : Option String
  transactionType : Option String
  channel : Option String
  minAmount : Option String
  maxAmount : Option String
  deriving DecidableEq

/-- The parts of the engine's library that a report goes through. A date that cannot be read has
no time value. -/
structure Engine where
  newDate : String → Option Int
  toLowerCase : String → String

/-! ## Filters -/

/-- `x < y` on dates; false when one of them is invalid. -/
def earlier : Option Int → Option Int → Bool
  | some x, some y => decide (x < y)
  | _, _ => false

/-- A filter that is left out or empty rejects nothing. -/
def rejectedBy (field : Option String) (test : String → Bool) : Bool :=
  match field with
  | none => false
  | some text => text != "" && test text

variable (engine : Engine)

def differs (x y : String) : Bool :=
  engine.toLowerCase x != engine.toLowerCase y

/-- The callback of the filter. -/
def passes (filters : ReportQueryDto) (transaction : ReportTransaction) : Bool :=
  let createdAt := engine.newDate transaction.created_at
  -- An invalid date compares as neither earlier nor later, and rejects nothing.
  if rejectedBy filters.fromDate fun text => earlier createdAt (engine.newDate text) then false
  else if rejectedBy filters.toDate fun text => earlier (engine.newDate text) createdAt then false
  else if rejectedBy filters.cif (differs engine transaction.sender_cif) then false
  else if rejectedBy filters.branch (differs engine transaction.branch) then false
  else if rejectedBy filters.status (differs engine transaction.status.text) then false
  else if rejectedBy filters.transactionType (differs engine transaction.transaction_type.text)
    then false
  else if rejectedBy filters.channel (differs engine transaction.channel) then false
  else if rejectedBy filters.minAmount fun text => (Number text).above transaction.amount then false
  else if rejectedBy filters.maxAmount fun text => (Number text).below transaction.amount then false
  else true

/-- `transactions` is what the provider returns. -/
def getFilteredTransactions (transactions : List ReportTransaction) (filters : ReportQueryDto) :
    List ReportTransaction :=
  transactions.filter (passes engine filters)

/-! ## Reports -/

/-- `reduce((sum, transaction) => sum + transaction.amount, 0)`. -/
def totalAmount (transactions : List ReportTransaction) : ℚ :=
  transactions.foldl (fun sum transaction => sum + transaction.amount) 0

structure DailySummary where
  report : String
  filters : ReportQueryDto
  totalTransaction : Nat
  successfulTransaction : Nat
  failedTransaction : Nat
  pendingTransaction : Nat
  totalCreditAmount : ℚ
  totalDebitAmount : ℚ

def dailySummary (transactions : List ReportTransaction) (filters : ReportQueryDto) :
    DailySummary :=
  let transactions := getFilteredTransactions engine transactions filters
  let successfulTransactions := transactions.filter fun t => t.status = .SUCCESS
  let failedTransactions := transactions.filter fun t => t.status = .FAILED
  let pendingTransactions := transactions.filter fun t => t.status = .PENDING
  { report := "Daily Transaction Summary"
    filters
    totalTransaction := transactions.length
    successfulTransaction := successfulTransactions.length
    failedTransaction := failedTransactions.length
    pendingTransaction := pendingTransactions.length
    totalCreditAmount := totalAmount (transactions.filter fun t => t.transaction_type = .CREDIT)
    totalDebitAmount := totalAmount (transactions.filter fun t => t.transaction_type = .DEBIT) }

structure FailedTransactions where
  report : String
  filters : ReportQueryDto
  total : Nat
  data : List ReportTransaction

def failedTransactions (transactions : List ReportTransaction) (filters : ReportQueryDto) :
    FailedTransactions :=
  let transactions := getFilteredTransactions engine transactions filters
  let data := transactions.filter fun t => t.status = .FAILED
  { report := "Failed Transaction Report", filters, total := data.length, data }

/-- What a report keeps for a branch or a channel. -/
@[ext] structure Summary where
  transactionCount : Nat
  totalAmount : ℚ
  deriving DecidableEq

/-- One turn of the loop. The summary that is there already is changed in place. -/
def addTransaction (key : ReportTransaction → String) (map : Map String Summary)
    (transaction : ReportTransaction) : Map String Summary :=
  match map.get (key transaction) with
  | some existing =>
      map.set (key transaction)
        { transactionCount := existing.transactionCount + 1
          totalAmount := existing.totalAmount + transaction.amount }
  | none =>
      map.set (key transaction) { transactionCount := 1, totalAmount := transaction.amount }

/-- The loop that `branchWise` and `channelWise` share. -/
def summarise (key : ReportTransaction → String) (transactions : List ReportTransaction) :
    Map String Summary :=
  transactions.foldl (addTransaction key) Map.empty

structure BranchRow extends Summary where
  branch : String
  deriving DecidableEq

structure BranchWise where
  report : String
  filters : ReportQueryDto
  totalBranches : Nat
  data : List BranchRow

def branchWise (transactions : List ReportTransaction) (filters : ReportQueryDto) : BranchWise :=
  let transactions := getFilteredTransactions engine transactions filters
  let branchMap := summarise ReportTransaction.branch transactions
  let data := branchMap.entries.map fun ⟨branch, summary⟩ => { summary with branch }
  { report := "Branch-wise Transaction Report", filters, totalBranches := data.length, data }

structure ChannelRow extends Summary where
  channel : String
  deriving DecidableEq

structure ChannelWise where
  report : String
  filters : ReportQueryDto
  totalChannels : Nat
  data : List ChannelRow

def channelWise (transactions : List ReportTransaction) (filters : ReportQueryDto) : ChannelWise :=
  let transactions := getFilteredTransactions engine transactions filters
  let channelMap := summarise ReportTransaction.channel transactions
  let data := channelMap.entries.map fun ⟨channel, summary⟩ => { summary with channel }
  { report := "Channel-wise Transaction Report", filters, totalChannels := data.length, data }

end Admin
end IdentityBillpay
