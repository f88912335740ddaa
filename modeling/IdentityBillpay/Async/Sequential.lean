import IdentityBillpay.Async.Protocol

/-!
# Sequential — requests that do not overlap

In a sequential run a request performs an operation only while no later request has performed one.
Each request then runs alone: from its first event to its last, the state changes by its own
operations and by nothing else.

* `InOrder` — the condition on one event;
* `History.RunsAlone` — a request's own events lead from some state to the present one;
* `Config.run_induction_sequential` — the induction rule, with `RunsAlone` at hand in each step.
-/

namespace IdentityBillpay
namespace Async

open Program (Performed)

variable {σ : Signature} {ε : Type} {V : Service σ ε}

/-- No request that started later has performed anything yet. -/
def InOrder (h : History V) (e : Event σ ε) : Prop :=
  ∀ j < h.requests.length, e.who < j → h.own j = []

instance (h : History V) (e : Event σ ε) : Decidable (InOrder h e) :=
  inferInstanceAs (Decidable (∀ j < h.requests.length, e.who < j → h.own j = []))

namespace History

/-- Since request `i` performed its first operation, it alone has been at work. -/
def RunsAlone (h : History V) (i : Nat) : Prop :=
  h.own i ≠ [] → ∃ choices s, Performed V.toBackend choices s (h.own i) h.state

/-- Every request that may still go on has run alone so far. -/
def Sequential (h : History V) : Prop :=
  ∀ i, (∀ j, i < j → h.own j = []) → h.RunsAlone i

theorem RunsAlone.perform {h : History V} {i : Nat} (hi : h.RunsAlone i) (op : σ.Op)
    (ch : V.Choice) : (h.perform i op ch).RunsAlone i := by
  intro _
  rw [perform_own_self, perform_state]
  by_cases hown : h.own i = []
  · rw [hown]
    exact ⟨fun _ => ch, h.state, .cons (.nil _ _)⟩
  · rcases hi hown with ⟨choices, s, hperformed⟩
    rcases hperformed.concat op ch with ⟨choices', hperformed'⟩
    exact ⟨choices', s, hperformed'⟩

/-- An operation in order: the requests before it can no longer go on, those after it have yet to
begin. -/
theorem Sequential.perform {h : History V} (hs : h.Sequential) (ha : h.Attributed) {i : Nat}
    {op : σ.Op} {ch : V.Choice}
    (horder : InOrder h ⟨⟨op, (V.perform op ch h.state).1⟩, i⟩) :
    (h.perform i op ch).Sequential := by
  have hlater : ∀ j, i < j → h.own j = [] := by
    intro j hij
    by_cases hj : j < h.requests.length
    · exact horder j hj hij
    · exact ha.own_eq_nil (Nat.le_of_not_lt hj)
  intro k hk
  rcases Nat.lt_trichotomy k i with hki | rfl | hik
  · have hnil := hk i hki
    simp at hnil
  · exact (hs k hlater).perform op ch
  · intro hown
    rw [perform_own_ne h op ch (Nat.ne_of_gt hik)] at hown
    exact absurd (hlater k hik) hown

/-- A request that performs an operation in order has run alone until then. -/
theorem Sequential.runsAlone {h : History V} (hs : h.Sequential) (ha : h.Attributed)
    {e : Event σ ε} (horder : InOrder h e) : h.RunsAlone e.who := by
  refine hs e.who fun j hj => ?_
  by_cases hlt : j < h.requests.length
  · exact horder j hlt hj
  · exact ha.own_eq_nil (Nat.le_of_not_lt hlt)

/-- What a request at work alone has seen is still so, if none of its operations changes it. -/
theorem RunsAlone.seen {γ : Type} {h : History V} {i : Nat} (hi : h.RunsAlone i)
    {a : Awaited σ ε} (ha : a ∈ h.own i) (view : V.State → γ)
    (hkeep : ∀ b ∈ h.own i, ∀ ch m, view (V.perform b.op ch m).2 = view m) :
    ∃ ch m, a.res = (V.perform a.op ch m).1 ∧ view m = view h.state := by
  rcases hi (List.ne_nil_of_mem ha) with ⟨choices, s, hperformed⟩
  rcases hperformed.outcome ha with ⟨before, after, m, hown, hbefore, hres⟩
  refine ⟨_, m, hres, ?_⟩
  have hthen : view m = view s := hbefore.kept view fun b hb => hkeep b (by simp [hown, hb])
  exact hthen.trans (hperformed.kept view hkeep).symm

/-- What it has seen with its last operation is so now, if that operation changes nothing. -/
theorem RunsAlone.last {h : History V} {i : Nat} (hi : h.RunsAlone i)
    {before : List (Awaited σ ε)} {a : Awaited σ ε} (hown : h.own i = before ++ [a])
    (hread : ∀ ch m, (V.perform a.op ch m).2 = m) : ∃ ch, a.res = (V.perform a.op ch h.state).1 := by
  rcases hi (by simp [hown]) with ⟨choices, s, hperformed⟩
  rw [hown] at hperformed
  rcases Program.performed_append.1 hperformed with ⟨m, _, hlast⟩
  rcases a with ⟨op, r⟩
  rcases Program.performed_cons.1 hlast with ⟨hres, hend⟩
  rw [Program.performed_nil, hread] at hend
  exact ⟨_, hend ▸ hres⟩

end History

namespace Config

variable {C : History V → Event σ ε → Prop} {I : History V → Prop}
  {P : V.Request → List (Awaited σ ε) → σ.Op → Prop}
  {Q : V.Request → List (Awaited σ ε) → Except ε V.Reply → Prop}

/-- Induction over sequential runs. As in `run_induction`, and the request that performs an
operation may be taken to have run alone since its first one. -/
theorem run_induction_sequential
    (hP : ∀ r, Program.Follows (P r) (Q r) [] (V.program r))
    (hstart : ∀ h r, h.Attributed → I h → I (h.start r))
    (hperform : ∀ h i r op ch, h.Attributed → I h → h.requests[i]? = some r → P r (h.own i) op →
      h.RunsAlone i → C h ⟨⟨op, (V.perform op ch h.state).1⟩, i⟩ → I (h.perform i op ch))
    {s : V.State} (hinit : I (initial V s).toHistory) (as : List (Action V))
    (hC : Meets (fun h e => InOrder h e ∧ C h e) (initial V s) as) :
    I ((initial V s).run as).toHistory := by
  have hrun : I ((initial V s).run as).toHistory ∧
      ((initial V s).run as).toHistory.Sequential := by
    refine run_induction (I := fun h => I h ∧ h.Sequential) hP ?_ ?_ ⟨hinit, ?_⟩ as hC
    · intro h r hattr hI
      exact ⟨hstart h r hattr hI.1, hI.2⟩
    · intro h i r op ch hattr hI hr hop hCe
      have halone := hI.2.runsAlone hattr hCe.1
      exact ⟨hperform h i r op ch hattr hI.1 hr hop halone hCe.2, hI.2.perform hattr hCe.1⟩
    · intro i _ hown
      exact absurd rfl hown
  exact hrun.1

end Config

end Async
end IdentityBillpay
