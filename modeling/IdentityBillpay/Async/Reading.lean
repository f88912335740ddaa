import IdentityBillpay.Async.Hoare

/-!
# Reading — programs that only read

A program that only reads computes a value of the state. `Yields B limits s p r` says so: alone, in
the state `s` and within the limits, `p` settles with `r` and leaves `s` as it was.

* `yields_settled`, `yields_call`, `Yields.bind`, `Yields.bind_ok`, `Yields.mapM`,
  `Yields.mapM_forall₂` — `await` reads like `Except`;
* `Yields.exec` — what is read is what a run settles with;
* `mapM_ok_map`, `mapM_cases`, `mapM_forall₂` — loops over what is read;
* `forall₂_partner` — the partner of a member in two lists that go together.
-/

namespace IdentityBillpay
namespace Async

open Program

variable {σ : Signature} {ε α β : Type}

abbrev Yields (B : Backend σ ε) (limits : B.Choice → Prop) (s : B.State) (p : Program σ ε α)
    (r : Except ε α) : Prop :=
  Ensures (B.restrict limits) (fun _ => True) (fun s' r' => s' = s ∧ r' = r) s p

variable {B : Backend σ ε} {limits : B.Choice → Prop} {s : B.State}

theorem yields_settled (r : Except ε α) : Yields B limits s (settled r) r :=
  ensures_settled.2 ⟨rfl, rfl⟩

theorem yields_pure (a : α) : Yields B limits s (pure a) (.ok a) :=
  yields_settled (.ok a)

theorem yields_call {op : σ.Op} {r : Except ε (σ.Res op)}
    (h : ∀ ch, limits ch → B.perform op ch s = (r, s)) : Yields B limits s (call op) r := by
  refine ensures_call (fun _ => trivial) fun ch => ?_
  have hch := h ch.1 ch.2
  exact ⟨congrArg Prod.snd hch, congrArg Prod.fst hch⟩

theorem Yields.bind {p : Program σ ε α} {r : Except ε α} {f : α → Program σ ε β}
    {g : α → Except ε β} (hp : Yields B limits s p r)
    (hf : ∀ a, r = .ok a → Yields B limits s (f a) (g a)) :
    Yields B limits s (p >>= f) (r >>= g) := by
  refine Ensures.bind hp ?_ ?_
  · intro s' a ha
    rcases ha with ⟨rfl, rfl⟩
    exact hf a rfl
  · intro s' e he
    rcases he with ⟨rfl, rfl⟩
    exact ⟨rfl, rfl⟩

/-- A part that is sure to go through. -/
theorem Yields.bind_ok {p : Program σ ε α} {a : α} {f : α → Program σ ε β} {r : Except ε β}
    (hp : Yields B limits s p (.ok a)) (hf : Yields B limits s (f a) r) :
    Yields B limits s (p >>= f) r := by
  have hbind : Yields B limits s (p >>= f) (.ok a >>= fun _ => r) :=
    hp.bind fun b hb => by
      cases hb
      exact hf
  exact hbind

/-- A loop over a list, one member after the other. -/
theorem Yields.mapM {f : α → Program σ ε β} {g : α → Except ε β} {l : List α}
    (h : ∀ a ∈ l, Yields B limits s (f a) (g a)) : Yields B limits s (l.mapM f) (l.mapM g) := by
  induction l with
  | nil => exact yields_pure []
  | cons a l ih =>
      rw [List.mapM_cons, List.mapM_cons]
      refine (h a List.mem_cons_self).bind fun b _ => ?_
      refine (ih fun a' ha' => h a' (List.mem_cons_of_mem a ha')).bind fun bs _ => ?_
      exact yields_pure (b :: bs)

/-- A loop whose rounds all go through. -/
theorem Yields.mapM_forall₂ {f : α → Program σ ε β} {R : α → β → Prop} {l : List α}
    (h : ∀ a ∈ l, ∃ b, Yields B limits s (f a) (.ok b) ∧ R a b) :
    ∃ bs, Yields B limits s (l.mapM f) (.ok bs) ∧ List.Forall₂ R l bs := by
  induction l with
  | nil => exact ⟨[], yields_pure [], .nil⟩
  | cons a l ih =>
      rcases h a List.mem_cons_self with ⟨b, hb, hab⟩
      rcases ih fun a' ha' => h a' (List.mem_cons_of_mem a ha') with ⟨bs, hbs, hall⟩
      refine ⟨b :: bs, ?_, .cons hab hall⟩
      rw [List.mapM_cons]
      exact hb.bind_ok (hbs.bind_ok (yields_pure (b :: bs)))

theorem Yields.exec {p : Program σ ε α} {r : Except ε α} (h : Yields B limits s p r)
    {choices : Nat → B.Choice} (hlimits : ∀ n, limits (choices n)) :
    (p.exec B choices s).state = s ∧ (p.exec B choices s).result = r :=
  Ensures.exec_within h hlimits

/-! ## Loops that may fail -/

section Loops

variable {f : α → Except ε β} {l : List α}

/-- What a loop has collected shows what each member shows. -/
theorem mapM_ok_map {γ : Type} {show₁ : α → γ} {show₂ : β → γ} {bs : List β}
    (h : l.mapM f = .ok bs) (hf : ∀ a b, f a = .ok b → show₂ b = show₁ a) :
    bs.map show₂ = l.map show₁ := by
  induction l generalizing bs with
  | nil =>
      cases h
      rfl
  | cons a l ih =>
      rw [List.mapM_cons] at h
      cases hfirst : f a with
      | error e =>
          rw [hfirst] at h
          cases h
      | ok b =>
          cases hrest : l.mapM f with
          | error e =>
              rw [hfirst, hrest] at h
              cases h
          | ok rest =>
              rw [hfirst, hrest] at h
              cases h
              exact List.cons_eq_cons.2 ⟨hf a b hfirst, ih hrest⟩

/-- A loop whose rounds all go through. -/
theorem mapM_forall₂ {R : α → β → Prop} (h : ∀ a ∈ l, ∃ b, f a = .ok b ∧ R a b) :
    ∃ bs, l.mapM f = .ok bs ∧ List.Forall₂ R l bs := by
  induction l with
  | nil => exact ⟨[], rfl, .nil⟩
  | cons a l ih =>
      rcases h a List.mem_cons_self with ⟨b, hb, hab⟩
      rcases ih fun a' ha' => h a' (List.mem_cons_of_mem a ha') with ⟨bs, hbs, hall⟩
      refine ⟨b :: bs, ?_, .cons hab hall⟩
      rw [List.mapM_cons, hb, hbs]
      rfl

/-- A loop whose rounds can fail in one way only goes through, or fails in this way. -/
theorem mapM_cases {e : ε} (hone : ∀ a e', f a = .error e' → e' = e) (l : List α) :
    (∃ bs, l.mapM f = .ok bs ∧ ∀ a ∈ l, f a ≠ .error e) ∨
      (l.mapM f = .error e ∧ ∃ a ∈ l, f a = .error e) := by
  induction l with
  | nil => exact .inl ⟨[], rfl, fun a ha => absurd ha List.not_mem_nil⟩
  | cons a l ih =>
      rw [List.mapM_cons]
      cases hfirst : f a with
      | error e' =>
          cases hone a e' hfirst
          exact .inr ⟨rfl, a, List.mem_cons_self, hfirst⟩
      | ok b =>
          -- The first round goes through, so the others decide.
          rcases ih with ⟨bs, hbs, hgood⟩ | ⟨hfail, a', ha', hbad⟩
          · refine .inl ⟨b :: bs, by rw [hbs]; rfl, fun a' ha' => ?_⟩
            rcases List.mem_cons.1 ha' with rfl | ha'
            · simp [hfirst]
            · exact hgood a' ha'
          · refine .inr ⟨by rw [hfail]; rfl, a', List.mem_cons_of_mem a ha', hbad⟩

theorem forall₂_partner {R : α → β → Prop} {bs : List β} (h : List.Forall₂ R l bs) {a : α}
    (ha : a ∈ l) : ∃ b ∈ bs, R a b := by
  induction h with
  | nil => exact absurd ha List.not_mem_nil
  | @cons a₁ b₁ l bs hab _ ih =>
      rcases List.mem_cons.1 ha with rfl | ha
      · exact ⟨b₁, List.mem_cons_self, hab⟩
      · rcases ih ha with ⟨b, hb, hR⟩
        exact ⟨b, List.mem_cons_of_mem b₁ hb, hR⟩

end Loops

end Async
end IdentityBillpay
