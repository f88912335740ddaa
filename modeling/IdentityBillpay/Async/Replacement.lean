import Mathlib.Data.Set.BooleanAlgebra
import Mathlib.Data.Set.Disjoint
import Mathlib.Order.CompletePartialOrder
import Mathlib.Order.Disjoint
import IdentityBillpay.Async.Protocol

/-!
# Replacement — requests that replace a set by a deletion and an insertion

Some requests replace the elements of one set: the first write takes all elements out, the second
puts those in that the request wants. Other requests may write in between.

* `Did` — a request has performed an operation of a kind, and it was answered;
* `Replacing` — what a service and its protocol have to do with the set;
* `InsertsAlone` — an insertion finds the set empty, unless it will be refused;
* `run_replaced` — the set is in the end what one of the requests wanted.
-/

namespace IdentityBillpay
namespace Async

open Program

variable {σ : Signature} {ε X : Type}

/-- Among the events is an answered operation of the kind. -/
def Did (kind : σ.Op → Prop) (own : List (Awaited σ ε)) : Prop :=
  ∃ a ∈ own, kind a.op ∧ a.res.isOk = true

theorem did_append {kind : σ.Op → Prop} {own more : List (Awaited σ ε)} :
    Did kind (own ++ more) ↔ Did kind own ∨ Did kind more := by
  simp only [Did, List.mem_append, or_and_right, exists_or]

theorem did_singleton {kind : σ.Op → Prop} {a : Awaited σ ε} :
    Did kind [a] ↔ kind a.op ∧ a.res.isOk = true := by
  simp [Did]

/-- How a service replaces the elements of a set: `contents` is the set in a state, and a request
that replaces it has a set `wanted`. -/
structure Replacing (V : Service σ ε) (P : V.Request → List (Awaited σ ε) → σ.Op → Prop)
    (Q : V.Request → List (Awaited σ ε) → Except ε V.Reply → Prop) where
  contents : V.State → Set X
  wanted : V.Request → Option (Set X)
  clears : σ.Op → Prop
  puts : σ.Op → Set X → Prop
  apart : ∀ op w, clears op → ¬ puts op w
  /-- The elements are taken out first, and put in second. -/
  clear_first : ∀ (h : History V) i r op, h.Answered → h.requests[i]? = some r → P r (h.own i) op →
    clears op → (wanted r).isSome = true ∧ ¬ Did (fun op => ∃ w, puts op w) (h.own i)
  put_second : ∀ (h : History V) i r op w, h.Answered → h.requests[i]? = some r → P r (h.own i) op →
    puts op w → wanted r = some w
  clear : ∀ op ch s a s', clears op → V.perform op ch s = (.ok a, s') → contents s' = ∅
  put : ∀ op ch s a s' w, puts op w → V.perform op ch s = (.ok a, s') →
    contents s' = contents s ∪ w ∧ Disjoint (contents s) w
  refused : ∀ op ch s e s', V.perform op ch s = (.error e, s') → contents s' = contents s
  quiet : ∀ (h : History V) i r op ch a s', h.Answered → h.requests[i]? = some r →
    P r (h.own i) op → ¬ clears op → (∀ w, ¬ puts op w) → V.perform op ch h.state = (.ok a, s') →
      contents s' = contents h.state
  /-- A request that has replied has done both, if there was something to put in. -/
  ends : ∀ (h : History V) i r a w, h.Answered → h.requests[i]? = some r → wanted r = some w →
    Q r (h.own i) (.ok a) →
      Did clears (h.own i) ∧ (Did (fun op => ∃ w, puts op w) (h.own i) ∨ w = ∅)

namespace Replacing

variable {V : Service σ ε} {P : V.Request → List (Awaited σ ε) → σ.Op → Prop}
  {Q : V.Request → List (Awaited σ ε) → Except ε V.Reply → Prop} (R : Replacing (X := X) V P Q)

/-- The operation puts elements in. -/
def Fills (op : σ.Op) : Prop := ∃ w, R.puts op w

/-- Elements are put into an empty set, unless one of them is there. -/
def InsertsAlone (h : History V) (e : Event σ ε) : Prop :=
  ∀ w, R.puts e.op w → R.contents h.state = ∅ ∨ ¬ Disjoint (R.contents h.state) w

/-- Nobody has taken elements out; or the set is empty, and somebody has yet to put in; or the set
is what one request wanted. -/
inductive Settled (h : History V) : Prop
  | untouched (hnone : ∀ i, ¬ Did R.clears (h.own i))
  | empty (hempty : R.contents h.state = ∅) {i : Nat} {r : V.Request} (hr : h.requests[i]? = some r)
      (hwants : (R.wanted r).isSome = true) (hcleared : Did R.clears (h.own i))
      (hpending : ¬ Did R.Fills (h.own i))
  | replaced {i : Nat} {r : V.Request} {w : Set X} (hr : h.requests[i]? = some r)
      (hwants : R.wanted r = some w) (hcontents : R.contents h.state = w)

variable {R}

/-- What is neither a deletion nor an insertion leaves no mark on the events. -/
theorem did_perform {h : History V} {i j : Nat} {op : σ.Op} {ch : V.Choice} {kind : σ.Op → Prop}
    (hkind : kind op → ∃ e, (V.perform op ch h.state).1 = .error e) :
    Did kind ((h.perform i op ch).own j) ↔ Did kind (h.own j) := by
  by_cases hji : j = i
  · subst hji
    rw [History.perform_own_self, did_append, did_singleton]
    refine or_iff_left fun hdid => ?_
    rcases hkind hdid.1 with ⟨e, he⟩
    have hok := hdid.2
    rw [he] at hok
    cases hok
  · rw [History.perform_own_ne h op ch hji]

/-- The set and the marks stay. -/
theorem Settled.same {h : History V} {i : Nat} {op : σ.Op} {ch : V.Choice} (hI : R.Settled h)
    (hcontents : R.contents (V.perform op ch h.state).2 = R.contents h.state)
    (hclears : R.clears op → ∃ e, (V.perform op ch h.state).1 = .error e)
    (hfills : R.Fills op → ∃ e, (V.perform op ch h.state).1 = .error e) :
    R.Settled (h.perform i op ch) := by
  cases hI with
  | untouched hnone => exact .untouched fun j hdid => hnone j ((did_perform hclears).1 hdid)
  | empty hempty hr hwants hcleared hpending =>
      exact .empty (hcontents.trans hempty) hr hwants ((did_perform hclears).2 hcleared)
        fun hdid => hpending ((did_perform hfills).1 hdid)
  | replaced hr hwants hold => exact .replaced hr hwants (hcontents.trans hold)

theorem Settled.start {h : History V} (hI : R.Settled h) (r : V.Request) : R.Settled (h.start r) := by
  cases hI with
  | untouched hnone => exact .untouched hnone
  | empty hempty hr hwants hcleared hpending =>
      exact .empty hempty (History.start_requests_some hr) hwants hcleared hpending
  | replaced hr hwants hold => exact .replaced (History.start_requests_some hr) hwants hold

/-- One operation keeps the set settled. -/
theorem Settled.perform {h : History V} {i : Nat} {r : V.Request} {op : σ.Op} {ch : V.Choice}
    (hI : R.Settled h) (hanswered : h.Answered) (hr : h.requests[i]? = some r)
    (hallowed : P r (h.own i) op)
    (halone : R.InsertsAlone h ⟨⟨op, (V.perform op ch h.state).1⟩, i⟩) :
    R.Settled (h.perform i op ch) := by
  cases hresult : V.perform op ch h.state with
  | mk res s' =>
      have hstate : (V.perform op ch h.state).2 = s' := congrArg Prod.snd hresult
      have hres : (V.perform op ch h.state).1 = res := congrArg Prod.fst hresult
      cases res with
      | error e =>
          refine hI.same ?_ (fun _ => ⟨e, hres⟩) fun _ => ⟨e, hres⟩
          rw [hstate]
          exact R.refused op ch h.state e s' hresult
      | ok a =>
          have hmark : ∀ kind : σ.Op → Prop, kind op → Did kind ((h.perform i op ch).own i) := by
            intro kind hkind
            rw [History.perform_own_self, did_append, did_singleton, hres]
            exact .inr ⟨hkind, rfl⟩
          by_cases hclears : R.clears op
          · -- The set is empty now, and the request has not put anything in.
            rcases R.clear_first h i r op hanswered hr hallowed hclears with ⟨hwants, hpending⟩
            refine .empty (i := i) (r := r) ?_ hr hwants (hmark _ hclears) fun hdid => ?_
            · rw [History.perform_state, hstate]
              exact R.clear op ch h.state a s' hclears hresult
            · refine hpending ((did_perform fun hfills => ?_).1 hdid)
              rcases hfills with ⟨w, hputs⟩
              exact absurd hputs (R.apart op w hclears)
          · by_cases hfills : R.Fills op
            · rcases hfills with ⟨w, hputs⟩
              rcases R.put op ch h.state a s' w hputs hresult with ⟨hunion, hdisjoint⟩
              refine .replaced (i := i) hr (R.put_second h i r op w hanswered hr hallowed hputs) ?_
              -- What shares an element with the set has been refused.
              rcases halone w hputs with hempty | hclash
              · rw [History.perform_state, hstate, hunion, hempty, Set.empty_union]
              · exact absurd hdisjoint hclash
            · refine hI.same ?_ (fun h => absurd h hclears) fun h => absurd h hfills
              rw [hstate]
              exact R.quiet h i r op ch a s' hanswered hr hallowed hclears
                (fun w hputs => hfills ⟨w, hputs⟩) hresult

/-- When insertions find the set empty, and all requests that replace it have replied, the set is
what one of them wanted. -/
theorem run_replaced (hP : ∀ r, Follows (P r) (Q r) [] (V.program r)) {s : V.State}
    {as : List (Action V)} (halone : Config.Meets R.InsertsAlone (Config.initial V s) as)
    (hsome : ∃ (i : Nat) (r : V.Request), ((Config.initial V s).run as).requests[i]? = some r ∧
      (R.wanted r).isSome = true)
    (hreplied : ∀ (i : Nat) (r : V.Request), ((Config.initial V s).run as).requests[i]? = some r →
      (R.wanted r).isSome = true →
        ∃ reply, ((Config.initial V s).run as).pool[i]? = some (.resolve reply)) :
    ∃ (i : Nat) (r : V.Request), ((Config.initial V s).run as).requests[i]? = some r ∧
      R.wanted r = some (R.contents ((Config.initial V s).run as).state) := by
  have hI : R.Settled ((Config.initial V s).run as).toHistory ∧
      ((Config.initial V s).run as).toHistory.Answered := by
    refine Config.run_induction (I := fun h => R.Settled h ∧ h.Answered) hP ?_ ?_ ?_ as halone
    · exact fun h r _ hI => ⟨hI.1.start r, hI.2⟩
    · exact fun h i r op ch _ hI hr hallowed hcond =>
        ⟨hI.1.perform hI.2 hr hallowed hcond, hI.2.perform i op ch⟩
    · refine ⟨.untouched fun i hdid => ?_, fun e he => ?_⟩
      · rcases hdid with ⟨a, ha, _⟩
        simp [Config.initial, History.own] at ha
      · simp [Config.initial] at he
  have hpool := (Config.run_follows hP s as).1
  generalize (Config.initial V s).run as = c at hI hpool hsome hreplied ⊢
  have hends : ∀ (i : Nat) (r : V.Request) (w : Set X), c.requests[i]? = some r →
      R.wanted r = some w → Did R.clears (c.own i) ∧ (Did R.Fills (c.own i) ∨ w = ∅) := by
    intro i r w hr hw
    rcases hreplied i r hr (by simp [hw]) with ⟨reply, hreply⟩
    exact R.ends c.toHistory i r reply w hI.2 hr hw (hpool.2 i r _ hr hreply)
  -- Every replied request has cleared the set, so it has not stayed untouched.
  cases hI.1 with
  | untouched hnone =>
      rcases hsome with ⟨i, r, hr, hwants⟩
      rcases Option.isSome_iff_exists.1 hwants with ⟨w, hw⟩
      exact absurd (hends i r w hr hw).1 (hnone i)
  | @empty hempty i r hr hwants _ hpending =>
      rcases Option.isSome_iff_exists.1 hwants with ⟨w, hw⟩
      have hnothing := (hends i r w hr hw).2.resolve_left hpending
      exact ⟨i, r, hr, by rw [hw, hempty, hnothing]⟩
  | replaced hr hwants hold => exact ⟨_, _, hr, by rw [hold]; exact hwants⟩

end Replacing

end Async
end IdentityBillpay
