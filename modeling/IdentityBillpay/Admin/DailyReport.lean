import IdentityBillpay.Admin.Reconciliation
import IdentityBillpay.Js.DateParse

/-!
# DailyReport — the days that a daily summary covers

A filter of a report that is a calendar date stands for the first millisecond of that day. As
`fromDate` it keeps the whole day, as `toDate` it drops all of the day but that millisecond.

* `betweenDays`, `InDays` — the filters, and the transactions they are meant to keep;
* `Counts` — a summary counts exactly the transactions of a list;
* `dailySummary_counts_days_iff` — when the summary of some days counts exactly those of the days.
-/

namespace IdentityBillpay
namespace Admin

open Js (CalendarDate Runtime msPerDay)

/-- The engine's own reading of dates. -/
def Engine.of (runtime : Runtime) (toLowerCase : String → String) : Engine :=
  ⟨Js.Date.parse runtime, toLowerCase⟩

/-- Two dates, and no other filter. -/
def betweenDays (fromDate toDate : CalendarDate) : ReportQueryDto where
  fromDate := some fromDate.text
  toDate := some toDate.text
  cif := none
  branch := none
  status := none
  transactionType := none
  channel := none
  minAmount := none
  maxAmount := none

/-- The UTC date of the time lies between the two dates. -/
def InDays (fromDate toDate : CalendarDate) (time : Int) : Prop :=
  fromDate.number ≤ time / msPerDay ∧ time / msPerDay ≤ toDate.number

instance (fromDate toDate : CalendarDate) (time : Int) : Decidable (InDays fromDate toDate time) :=
  inferInstanceAs (Decidable (_ ∧ _))

/-- The transactions that were created on one of the days. -/
def ofDays (runtime : Runtime) (fromDate toDate : CalendarDate)
    (transactions : List ReportTransaction) : List ReportTransaction :=
  transactions.filter fun t =>
    (Js.Date.parse runtime t.created_at).any fun time => InDays fromDate toDate time

/-- The summary counts the transactions of the list, each once, and no others. -/
structure Counts (summary : DailySummary) (transactions : List ReportTransaction) : Prop where
  total : summary.totalTransaction = transactions.length
  successful : summary.successfulTransaction =
    transactions.countP fun t => t.status = .SUCCESS
  failed : summary.failedTransaction = transactions.countP fun t => t.status = .FAILED
  pending : summary.pendingTransaction = transactions.countP fun t => t.status = .PENDING
  credit : summary.totalCreditAmount =
    sumOfAmounts (transactions.filter fun t => t.transaction_type = .CREDIT)
  debit : summary.totalDebitAmount =
    sumOfAmounts (transactions.filter fun t => t.transaction_type = .DEBIT)

section Days

variable {runtime : Runtime} {toLowerCase : String → String} {fromDate toDate : CalendarDate}
  {transactions : List ReportTransaction}

theorem counts_filtered (engine : Engine) (transactions : List ReportTransaction)
    (filters : ReportQueryDto) :
    Counts (dailySummary engine transactions filters)
      (getFilteredTransactions engine transactions filters) where
  total := rfl
  successful := (List.countP_eq_length_filter).symm
  failed := (List.countP_eq_length_filter).symm
  pending := (List.countP_eq_length_filter).symm
  credit := totalAmount_eq _
  debit := totalAmount_eq _

theorem text_ne_empty (date : CalendarDate) : date.text ≠ "" := by
  intro h
  have hchars : date.chars = [] := by
    simpa [CalendarDate.text] using congrArg String.toList h
  rw [CalendarDate.chars, Js.digits_succ, List.cons_append] at hchars
  cases hchars

/-- The two tests that the filters come down to. -/
theorem passes_betweenDays {t : ReportTransaction} {time : Int}
    (htime : Js.Date.parse runtime t.created_at = some time) :
    passes (Engine.of runtime toLowerCase) (betweenDays fromDate toDate) t = true ↔
      fromDate.number * msPerDay ≤ time ∧ time ≤ toDate.number * msPerDay := by
  have hfrom := CalendarDate.parse_text runtime fromDate
  have hto := CalendarDate.parse_text runtime toDate
  simp only [passes, betweenDays, rejectedBy, Engine.of, htime, hfrom, hto, earlier]
  simp [text_ne_empty]

theorem mem_ofDays {t : ReportTransaction} {time : Int}
    (htime : Js.Date.parse runtime t.created_at = some time) :
    t ∈ ofDays runtime fromDate toDate transactions ↔
      t ∈ transactions ∧ InDays fromDate toDate time := by
  simp [ofDays, htime]

/-- The filters keep what was created on the days, short of the last day after its midnight. -/
theorem passes_iff {t : ReportTransaction} {time : Int} (hle : fromDate.number ≤ toDate.number)
    (htime : Js.Date.parse runtime t.created_at = some time) :
    passes (Engine.of runtime toLowerCase) (betweenDays fromDate toDate) t = true ↔
      InDays fromDate toDate time ∧
        (time / msPerDay = toDate.number → time = toDate.number * msPerDay) := by
  rw [passes_betweenDays htime]
  unfold InDays msPerDay
  omega

/-- What the filters keep is part of what they are meant to keep. -/
theorem filtered_sublist (hvalid : ∀ t ∈ transactions, (Js.Date.parse runtime t.created_at).isSome)
    (hle : fromDate.number ≤ toDate.number) :
    (getFilteredTransactions (Engine.of runtime toLowerCase) transactions
      (betweenDays fromDate toDate)).Sublist (ofDays runtime fromDate toDate transactions) := by
  have htwice : getFilteredTransactions (Engine.of runtime toLowerCase) transactions
      (betweenDays fromDate toDate) =
        (ofDays runtime fromDate toDate transactions).filter
          (passes (Engine.of runtime toLowerCase) (betweenDays fromDate toDate)) := by
    unfold getFilteredTransactions ofDays
    rw [List.filter_filter]
    refine List.filter_congr fun t ht => ?_
    rcases Option.isSome_iff_exists.1 (hvalid t ht) with ⟨time, htime⟩
    have hpasses := @passes_iff runtime toLowerCase fromDate toDate t time hle htime
    rw [htime, Option.any_some, Bool.eq_iff_iff, Bool.and_eq_true, hpasses, decide_eq_true_eq]
    tauto
  rw [htwice]
  exact List.filter_sublist

end Days

/-- For every list of transactions whose times can be read: the summary from one date to another
counts exactly the transactions of those days, if and only if none of them was created on the last
day after midnight. -/
theorem dailySummary_counts_days_iff (runtime : Runtime) (toLowerCase : String → String)
    (transactions : List ReportTransaction)
    (hvalid : ∀ t ∈ transactions, (Js.Date.parse runtime t.created_at).isSome)
    {fromDate toDate : CalendarDate} (hle : fromDate.number ≤ toDate.number) :
    Counts
        (dailySummary (Engine.of runtime toLowerCase) transactions (betweenDays fromDate toDate))
        (ofDays runtime fromDate toDate transactions) ↔
      ∀ t ∈ transactions, ∀ time, Js.Date.parse runtime t.created_at = some time →
        time / msPerDay = toDate.number → time = toDate.number * msPerDay := by
  have hsub := @filtered_sublist runtime toLowerCase fromDate toDate transactions hvalid hle
  have hcounts := counts_filtered (Engine.of runtime toLowerCase) transactions
    (betweenDays fromDate toDate)
  have hmem : ∀ t, t ∈ getFilteredTransactions (Engine.of runtime toLowerCase) transactions
      (betweenDays fromDate toDate) ↔ t ∈ transactions ∧
        passes (Engine.of runtime toLowerCase) (betweenDays fromDate toDate) t = true :=
    fun t => List.mem_filter
  constructor
  · intro h t ht time htime hlast
    -- As many transactions as the days have, so no transaction of the days is missing.
    have hsame := hsub.eq_of_length (hcounts.total.symm.trans h.total)
    have hday : t ∈ ofDays runtime fromDate toDate transactions := by
      refine (mem_ofDays htime).2 ⟨ht, ?_⟩
      unfold InDays
      omega
    rw [← hsame] at hday
    exact ((passes_iff hle htime).1 ((hmem t).1 hday).2).2 hlast
  · intro h
    have hsame : getFilteredTransactions (Engine.of runtime toLowerCase) transactions
        (betweenDays fromDate toDate) = ofDays runtime fromDate toDate transactions := by
      refine List.filter_congr fun t ht => ?_
      rcases Option.isSome_iff_exists.1 (hvalid t ht) with ⟨time, htime⟩
      have hpasses := @passes_iff runtime toLowerCase fromDate toDate t time hle htime
      have hlast := h t ht time htime
      rw [htime, Option.any_some, Bool.eq_iff_iff, hpasses, decide_eq_true_eq]
      exact and_iff_left hlast
    rw [← hsame]
    exact hcounts

/-- 7 September 2026. -/
def september7 : CalendarDate :=
  ⟨2026, 9, 7, by decide, by decide⟩

def september8 : CalendarDate :=
  ⟨2026, 9, 8, by decide, by decide⟩

/-- The first transaction of the provider. -/
def morningTransfer : ReportTransaction where
  txn_id := "TXN-20260907-001"
  utr := "UTR-IMPS-001"
  channel := "MOBILE_APP"
  payment_mode := "IMPS"
  sender_cif := "CIF100001"
  sender_name := "Arjun Mehta"
  sender_account := "101000000012"
  receiver_name := "Sneha Mehta"
  receiver_account := "99182390129182"
  receiver_bank := "Bharat Co-operative Bank"
  amount := 5000
  status := .SUCCESS
  transaction_type := .DEBIT
  branch := "MUMBAI_MAIN"
  created_at := "2026-09-07T06:15:00Z"
  switch_response_code := "00"
  risk_score := 12

theorem dailySummary_counts_days_iff_twoDays :
    Counts (dailySummary (Engine.of Js.utc id) [morningTransfer] (betweenDays september7 september8))
        (ofDays Js.utc september7 september8 [morningTransfer]) ↔
      ∀ t ∈ [morningTransfer], ∀ time, Js.Date.parse Js.utc t.created_at = some time →
        time / msPerDay = september8.number → time = september8.number * msPerDay :=
  dailySummary_counts_days_iff Js.utc id [morningTransfer] (by decide +kernel) (by decide)

/-- The summary of a single day does not count a transaction of that day. -/
theorem dayOfTransfer_missed :
    ofDays Js.utc september7 september7 [morningTransfer] = [morningTransfer] ∧
      (dailySummary (Engine.of Js.utc id) [morningTransfer]
        (betweenDays september7 september7)).totalTransaction = 0 ∧
      ¬ Counts
        (dailySummary (Engine.of Js.utc id) [morningTransfer] (betweenDays september7 september7))
        (ofDays Js.utc september7 september7 [morningTransfer]) := by
  have hday : ofDays Js.utc september7 september7 [morningTransfer] = [morningTransfer] := by
    decide +kernel
  have hnone : (dailySummary (Engine.of Js.utc id) [morningTransfer]
      (betweenDays september7 september7)).totalTransaction = 0 := by
    decide +kernel
  refine ⟨hday, hnone, fun h => ?_⟩
  have htotal := h.total
  rw [hday, hnone] at htotal
  cases htotal

end Admin
end IdentityBillpay
