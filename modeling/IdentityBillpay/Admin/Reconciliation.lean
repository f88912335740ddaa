import Mathlib.Algebra.BigOperators.Group.List.Lemmas
import Mathlib.Tactic.Ring
import IdentityBillpay.Admin.ReportingService

/-!
# Reconciliation — the reports show the same transactions in different ways

The grouping loop keeps, for the transactions it has seen, one summary a key and the sums over all
summaries. Every figure of the reports is then a figure of the filtered list.

* `Summarised` — what the loop keeps, `Summarised.step` and `summarise_summarised`;
* `Groups` — a report lists every key once, with the figures of its transactions;
* `reports_reconcile` — the four reports agree, in whatever order the transactions come.
-/

namespace IdentityBillpay
namespace Admin

open Js (Map)

/-- The exact sum of the amounts. -/
def sumOfAmounts (transactions : List ReportTransaction) : ℚ :=
  (transactions.map ReportTransaction.amount).sum

@[simp] theorem sumOfAmounts_nil : sumOfAmounts [] = 0 := rfl

@[simp] theorem sumOfAmounts_cons (t : ReportTransaction) (ts : List ReportTransaction) :
    sumOfAmounts (t :: ts) = t.amount + sumOfAmounts ts := by
  simp [sumOfAmounts]

@[simp] theorem sumOfAmounts_append (ts us : List ReportTransaction) :
    sumOfAmounts (ts ++ us) = sumOfAmounts ts + sumOfAmounts us := by
  simp [sumOfAmounts]

theorem totalAmount_eq (transactions : List ReportTransaction) :
    totalAmount transactions = sumOfAmounts transactions := by
  have hfold : ∀ (ts : List ReportTransaction) (start : ℚ),
      ts.foldl (fun sum t => sum + t.amount) start = start + sumOfAmounts ts := by
    intro ts
    induction ts with
    | nil => simp
    | cons t ts ih =>
        intro start
        simp only [List.foldl_cons, ih, sumOfAmounts_cons, add_assoc]
  calc
    totalAmount transactions = 0 + sumOfAmounts transactions := hfold transactions 0
    _ = sumOfAmounts transactions := zero_add _

/-! ## The grouping loop -/

def groupOf (key : ReportTransaction → String) (transactions : List ReportTransaction)
    (k : String) : List ReportTransaction :=
  transactions.filter fun t => key t = k

theorem groupOf_append_of_eq {key : ReportTransaction → String} {ts : List ReportTransaction}
    {t : ReportTransaction} : groupOf key (ts ++ [t]) (key t) = groupOf key ts (key t) ++ [t] := by
  simp [groupOf]

theorem groupOf_append_of_ne {key : ReportTransaction → String} {ts : List ReportTransaction}
    {t : ReportTransaction} {k : String} (h : key t ≠ k) :
    groupOf key (ts ++ [t]) k = groupOf key ts k := by
  simp [groupOf, h]

/-- The summary of a group; an empty group has none. -/
def summaryOf (group : List ReportTransaction) : Option Summary :=
  if group = [] then none else some ⟨group.length, sumOfAmounts group⟩

/-- The loop has seen `seen`: every key has the summary of its group, and the summaries add up to
the count and the sum of all. -/
structure Summarised (key : ReportTransaction → String) (seen : List ReportTransaction)
    (map : Map String Summary) : Prop where
  group : ∀ k, map.get k = summaryOf (groupOf key seen k)
  count : map.sumOf Summary.transactionCount = seen.length
  amount : map.sumOf Summary.totalAmount = sumOfAmounts seen

variable {key : ReportTransaction → String} {seen : List ReportTransaction}
  {map : Map String Summary}

/-- What one turn writes. -/
theorem addTransaction_eq (h : Summarised key seen map) (t : ReportTransaction) :
    ∃ summary, addTransaction key map t = map.set (key t) summary ∧
      summaryOf (groupOf key seen (key t) ++ [t]) = some summary := by
  have hget := h.group (key t)
  by_cases hnil : groupOf key seen (key t) = []
  · have hnone : map.get (key t) = none := by simpa [summaryOf, hnil] using hget
    refine ⟨⟨1, t.amount⟩, ?_, ?_⟩
    · simp only [addTransaction, hnone]
    · simp [summaryOf, hnil]
  · have hsome : map.get (key t) =
        some ⟨(groupOf key seen (key t)).length, sumOfAmounts (groupOf key seen (key t))⟩ := by
      simpa [summaryOf, hnil] using hget
    refine ⟨⟨(groupOf key seen (key t)).length + 1,
      sumOfAmounts (groupOf key seen (key t)) + t.amount⟩, ?_, ?_⟩
    · simp only [addTransaction, hsome]
    · simp [summaryOf]

/-- A sum over the summaries grows by the share of the new transaction. -/
theorem sumOf_addTransaction {β : Type} [AddCancelCommMonoid β]
    (key : ReportTransaction → String) (f : Summary → β) (g : ReportTransaction → β)
    (hnew : ∀ t, f ⟨1, t.amount⟩ = g t)
    (hold : ∀ s t, f ⟨s.transactionCount + 1, s.totalAmount + t.amount⟩ = f s + g t)
    (map : Map String Summary) (t : ReportTransaction) :
    (addTransaction key map t).sumOf f = map.sumOf f + g t := by
  cases hget : map.get (key t) with
  | none =>
      simp only [addTransaction, hget]
      rw [Map.sumOf_set_of_none f hget, hnew]
  | some existing =>
      simp only [addTransaction, hget]
      have hset := Map.sumOf_set_of_some f (a := ⟨existing.transactionCount + 1,
        existing.totalAmount + t.amount⟩) hget
      -- The old summary leaves the sum, the new one is the old one and the share.
      rw [hold, add_comm (f existing), ← add_assoc] at hset
      exact add_right_cancel hset

theorem Summarised.step (h : Summarised key seen map) (t : ReportTransaction) :
    Summarised key (seen ++ [t]) (addTransaction key map t) := by
  refine ⟨?_, ?_, ?_⟩
  · intro k
    rcases addTransaction_eq h t with ⟨summary, hset, hsummary⟩
    rw [hset, Map.get_set]
    by_cases hk : key t = k
    · subst hk
      rw [if_pos rfl, groupOf_append_of_eq, hsummary]
    · rw [if_neg hk, groupOf_append_of_ne hk, h.group k]
  · have hcount := sumOf_addTransaction key Summary.transactionCount (fun _ => 1)
      (fun _ => rfl) (fun _ _ => rfl) map t
    rw [hcount, h.count]
    simp
  · have hsum := sumOf_addTransaction key Summary.totalAmount ReportTransaction.amount
      (fun _ => rfl) (fun _ _ => rfl) map t
    rw [hsum, h.amount]
    simp

theorem Summarised.foldl (h : Summarised key seen map) (ts : List ReportTransaction) :
    Summarised key (seen ++ ts) (ts.foldl (addTransaction key) map) := by
  induction ts generalizing seen map with
  | nil => simpa using h
  | cons t ts ih => simpa using ih (h.step t)

theorem summarise_summarised (key : ReportTransaction → String) (ts : List ReportTransaction) :
    Summarised key ts (summarise key ts) := by
  have hempty : Summarised key [] Map.empty := ⟨fun _ => rfl, rfl, rfl⟩
  simpa [summarise] using hempty.foldl ts

/-! ## The reports -/

/-- The rows of a report that groups by `key`: each key once, and its figures. -/
structure Groups {ρ : Type} (key : ReportTransaction → String) (name : ρ → String)
    (summary : ρ → Summary) (transactions : List ReportTransaction) (data : List ρ) : Prop where
  once : (data.map name).Nodup
  listed : ∀ k, k ∈ data.map name ↔ ∃ t ∈ transactions, key t = k
  counted : ∀ row ∈ data,
    (summary row).transactionCount = (groupOf key transactions (name row)).length
  summed : ∀ row ∈ data,
    (summary row).totalAmount = sumOfAmounts (groupOf key transactions (name row))

theorem summaryOf_eq_some {group : List ReportTransaction} {summary : Summary} :
    summaryOf group = some summary ↔
      group ≠ [] ∧ summary.transactionCount = group.length ∧
        summary.totalAmount = sumOfAmounts group := by
  by_cases hnil : group = []
  · simp [summaryOf, hnil]
  · constructor
    · intro h
      have hsummary : ⟨group.length, sumOfAmounts group⟩ = summary := by
        simpa [summaryOf, hnil] using h
      subst hsummary
      exact ⟨hnil, rfl, rfl⟩
    · intro h
      rcases h with ⟨-, hcount, hsum⟩
      simp [summaryOf, hnil, ← hcount, ← hsum]

theorem groupOf_ne_nil {k : String} {ts : List ReportTransaction} :
    groupOf key ts k ≠ [] ↔ ∃ t ∈ ts, key t = k := by
  simp [groupOf]

/-- The entries of the map, as the rows of the report. -/
theorem groups_summarise {ρ : Type} (key : ReportTransaction → String)
    (row : String → Summary → ρ) (name : ρ → String) (summary : ρ → Summary)
    (hname : ∀ k s, name (row k s) = k) (hsummary : ∀ k s, summary (row k s) = s)
    (ts : List ReportTransaction) :
    Groups key name summary ts
      ((summarise key ts).entries.map fun entry => row entry.1 entry.2) := by
  have hts := summarise_summarised key ts
  have hnames : ((summarise key ts).entries.map fun entry => row entry.1 entry.2).map name =
      (summarise key ts).keys := by
    simp [Map.keys, Function.comp_def, hname]
  have hfigures : ∀ r ∈ (summarise key ts).entries.map (fun entry => row entry.1 entry.2),
      summaryOf (groupOf key ts (name r)) = some (summary r) := by
    intro r hr
    rcases List.mem_map.1 hr with ⟨⟨k, s⟩, hentry, rfl⟩
    rw [hname, hsummary, ← hts.group k]
    exact (Map.mem_entries _).1 hentry
  refine ⟨?_, ?_, ?_, ?_⟩
  · rw [hnames]
    exact (summarise key ts).nodup
  · intro k
    rw [hnames, Map.mem_keys, ← groupOf_ne_nil]
    simp only [hts.group k, summaryOf_eq_some, exists_and_left]
    exact and_iff_left ⟨⟨_, _⟩, rfl, rfl⟩
  · intro r hr
    exact (summaryOf_eq_some.1 (hfigures r hr)).2.1
  · intro r hr
    exact (summaryOf_eq_some.1 (hfigures r hr)).2.2

/-- A row depends on its group only, whatever the order in it. -/
theorem Groups.mem_of_perm {ρ : Type} {name : ρ → String} {summary : ρ → Summary}
    (hrow : ∀ r r', name r = name r' → summary r = summary r' → r = r')
    {ts us : List ReportTransaction} {data data' : List ρ} (h : Groups key name summary ts data)
    (h' : Groups key name summary us data') (hperm : us.Perm ts) (r : ρ) (hr : r ∈ data) :
    r ∈ data' := by
  have hgroup : ∀ k, (groupOf key us k).Perm (groupOf key ts k) := fun k => hperm.filter _
  have hlisted : name r ∈ data'.map name := by
    rcases (h.listed (name r)).1 (List.mem_map_of_mem hr) with ⟨t, ht, hk⟩
    exact (h'.listed (name r)).2 ⟨t, hperm.mem_iff.2 ht, hk⟩
  rcases List.mem_map.1 hlisted with ⟨r', hr', hname⟩
  have hcount : (summary r').transactionCount = (summary r).transactionCount := by
    rw [h'.counted r' hr', h.counted r hr, hname]
    exact (hgroup _).length_eq
  have hsum : (summary r').totalAmount = (summary r).totalAmount := by
    rw [h'.summed r' hr', h.summed r hr, hname]
    exact ((hgroup _).map _).sum_eq
  have hsummary : summary r' = summary r := Summary.ext hcount hsum
  exact hrow r' r hname hsummary ▸ hr'

theorem status_counts (ts : List ReportTransaction) :
    ts.length = (ts.filter fun t => t.status = .SUCCESS).length +
      (ts.filter fun t => t.status = .FAILED).length +
      (ts.filter fun t => t.status = .PENDING).length := by
  induction ts with
  | nil => rfl
  | cons t ts ih =>
      cases hstatus : t.status with
      | SUCCESS => simp [hstatus, ih]; omega
      | FAILED => simp [hstatus, ih]; omega
      | PENDING => simp [hstatus, ih]; omega

theorem type_amounts (ts : List ReportTransaction) :
    sumOfAmounts ts = sumOfAmounts (ts.filter fun t => t.transaction_type = .CREDIT) +
      sumOfAmounts (ts.filter fun t => t.transaction_type = .DEBIT) := by
  induction ts with
  | nil => simp
  | cons t ts ih =>
      cases htype : t.transaction_type with
      | CREDIT => simp [htype, ih, add_assoc]
      | DEBIT =>
          simp only [sumOfAmounts_cons, ih, htype, List.filter_cons]
          simp [add_left_comm]

/-- The four reports over one list of transactions and one set of filters agree. -/
structure Reconciles (engine : Engine) (transactions : List ReportTransaction)
    (filters : ReportQueryDto) : Prop where
  branches : Groups ReportTransaction.branch BranchRow.branch BranchRow.toSummary
    (getFilteredTransactions engine transactions filters)
    (branchWise engine transactions filters).data
  channels : Groups ReportTransaction.channel ChannelRow.channel ChannelRow.toSummary
    (getFilteredTransactions engine transactions filters)
    (channelWise engine transactions filters).data
  statuses : (dailySummary engine transactions filters).totalTransaction =
    (dailySummary engine transactions filters).successfulTransaction +
      (dailySummary engine transactions filters).failedTransaction +
      (dailySummary engine transactions filters).pendingTransaction
  branchCounts : ((branchWise engine transactions filters).data.map fun row =>
    row.transactionCount).sum = (dailySummary engine transactions filters).totalTransaction
  channelCounts : ((channelWise engine transactions filters).data.map fun row =>
    row.transactionCount).sum = (dailySummary engine transactions filters).totalTransaction
  branchAmounts : ((branchWise engine transactions filters).data.map fun row =>
    row.totalAmount).sum = (dailySummary engine transactions filters).totalCreditAmount +
      (dailySummary engine transactions filters).totalDebitAmount
  channelAmounts : ((channelWise engine transactions filters).data.map fun row =>
    row.totalAmount).sum = (dailySummary engine transactions filters).totalCreditAmount +
      (dailySummary engine transactions filters).totalDebitAmount
  failed : (failedTransactions engine transactions filters).total =
    (dailySummary engine transactions filters).failedTransaction

/-- The reports over two orders of the same transactions show the same figures. -/
structure SameFigures (engine : Engine) (transactions other : List ReportTransaction)
    (filters : ReportQueryDto) : Prop where
  summary : dailySummary engine other filters = dailySummary engine transactions filters
  failed : (failedTransactions engine other filters).total =
    (failedTransactions engine transactions filters).total
  branches : ∀ row, row ∈ (branchWise engine other filters).data ↔
    row ∈ (branchWise engine transactions filters).data
  channels : ∀ row, row ∈ (channelWise engine other filters).data ↔
    row ∈ (channelWise engine transactions filters).data

section Reports

variable (engine : Engine) (transactions : List ReportTransaction) (filters : ReportQueryDto)

theorem groups_branchWise : Groups ReportTransaction.branch BranchRow.branch BranchRow.toSummary
    (getFilteredTransactions engine transactions filters)
    (branchWise engine transactions filters).data :=
  groups_summarise _ (fun branch summary => BranchRow.mk summary branch) _ _ (fun _ _ => rfl)
    (fun _ _ => rfl) _

theorem groups_channelWise : Groups ReportTransaction.channel ChannelRow.channel
    ChannelRow.toSummary (getFilteredTransactions engine transactions filters)
    (channelWise engine transactions filters).data :=
  groups_summarise _ (fun channel summary => ChannelRow.mk summary channel) _ _ (fun _ _ => rfl)
    (fun _ _ => rfl) _

theorem total_amounts : (dailySummary engine transactions filters).totalCreditAmount +
    (dailySummary engine transactions filters).totalDebitAmount =
      sumOfAmounts (getFilteredTransactions engine transactions filters) := by
  simp only [dailySummary, totalAmount_eq]
  exact (type_amounts _).symm

theorem reconciles : Reconciles engine transactions filters := by
  have hbranch := summarise_summarised ReportTransaction.branch
    (getFilteredTransactions engine transactions filters)
  have hchannel := summarise_summarised ReportTransaction.channel
    (getFilteredTransactions engine transactions filters)
  refine ⟨groups_branchWise _ _ _, groups_channelWise _ _ _, status_counts _, ?_, ?_, ?_, ?_, rfl⟩
  · simpa [branchWise, dailySummary, Map.sumOf, Function.comp_def] using hbranch.count
  · simpa [channelWise, dailySummary, Map.sumOf, Function.comp_def] using hchannel.count
  · rw [total_amounts]
    simpa [branchWise, Map.sumOf, Function.comp_def] using hbranch.amount
  · rw [total_amounts]
    simpa [channelWise, Map.sumOf, Function.comp_def] using hchannel.amount

end Reports

theorem sameFigures {transactions other : List ReportTransaction}
    (engine : Engine) (filters : ReportQueryDto) (hperm : other.Perm transactions) :
    SameFigures engine transactions other filters := by
  have hfiltered : (getFilteredTransactions engine other filters).Perm
      (getFilteredTransactions engine transactions filters) := hperm.filter _
  have hcount : ∀ p : ReportTransaction → Bool,
      ((getFilteredTransactions engine other filters).filter p).length =
        ((getFilteredTransactions engine transactions filters).filter p).length :=
    fun p => (hfiltered.filter p).length_eq
  have hamount : ∀ p : ReportTransaction → Bool,
      totalAmount ((getFilteredTransactions engine other filters).filter p) =
        totalAmount ((getFilteredTransactions engine transactions filters).filter p) := by
    intro p
    simp only [totalAmount_eq, sumOfAmounts]
    exact ((hfiltered.filter p).map _).sum_eq
  have hbranch : ∀ r r' : BranchRow, r.branch = r'.branch → r.toSummary = r'.toSummary → r = r' := by
    rintro ⟨s, b⟩ ⟨s', b'⟩ rfl rfl
    rfl
  have hchannel : ∀ r r' : ChannelRow, r.channel = r'.channel → r.toSummary = r'.toSummary →
      r = r' := by
    rintro ⟨s, c⟩ ⟨s', c'⟩ rfl rfl
    rfl
  refine ⟨?_, hcount _, ?_, ?_⟩
  · simp only [dailySummary, hcount, hamount, hfiltered.length_eq]
  · intro row
    exact ⟨Groups.mem_of_perm hbranch (groups_branchWise _ _ _) (groups_branchWise _ _ _)
      hfiltered.symm row, Groups.mem_of_perm hbranch (groups_branchWise _ _ _)
        (groups_branchWise _ _ _) hfiltered row⟩
  · intro row
    exact ⟨Groups.mem_of_perm hchannel (groups_channelWise _ _ _) (groups_channelWise _ _ _)
      hfiltered.symm row, Groups.mem_of_perm hchannel (groups_channelWise _ _ _)
        (groups_channelWise _ _ _) hfiltered row⟩

/-- The reports reconcile, and the order of the transactions changes none of their figures. -/
theorem reports_reconcile (engine : Engine) (transactions : List ReportTransaction)
    (filters : ReportQueryDto) :
    Reconciles engine transactions filters ∧
      ∀ other, other.Perm transactions → SameFigures engine transactions other filters :=
  ⟨reconciles engine transactions filters, fun _ hperm => sameFigures engine filters hperm⟩

end Admin
end IdentityBillpay
