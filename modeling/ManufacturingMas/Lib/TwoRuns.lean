import ManufacturingMas.Lib.Stateful

/-! Two runs side by side: programs that raise the same exceptions and otherwise
end in related results and related states. -/

namespace TwoRuns
open Stateful

section
variable {ε σ α β γ δ : Type}

/-- Two outcomes with one exception or related values. -/
def Related (R : α → β → Prop) : Except ε α → Except ε β → Prop
  | .ok a, .ok b => R a b
  | .error e, .error e' => e = e'
  | _, _ => False

def ResultsRelated (T : σ → σ → Prop) (R : α → β → Prop) :
    EStateM.Result ε σ α → EStateM.Result ε σ β → Prop
  | .ok a s, .ok b t => R a b ∧ T s t
  | .error e s, .error e' t => e = e' ∧ T s t
  | _, _ => False

/-- Started in states related by `S`, the programs end alike, in states related by `T`. -/
def Paired (S T : σ → σ → Prop) (R : α → β → Prop) (x : EStateM ε σ α) (y : EStateM ε σ β) :
    Prop := ∀ s t, S s t → ResultsRelated T R (x s) (y t)

variable {S T U : σ → σ → Prop} {R : α → β → Prop} {Q : γ → δ → Prop}

theorem Related.refl (x : Except ε α) : Related Eq x x := by
  cases x <;> rfl

theorem Related.bind {x : Except ε α} {y : Except ε β} {f : α → Except ε γ} {g : β → Except ε δ}
    (hx : Related R x y) (hf : ∀ a b, R a b → Related Q (f a) (g b)) :
    Related Q (x >>= f) (y >>= g) := by
  cases x with
  | ok a =>
    cases y with
    | ok b => exact hf a b hx
    | error e => exact hx.elim
  | error e =>
    cases y with
    | ok b => exact hx.elim
    | error e' => exact hx

/-- One program before two continuations. -/
theorem Related.bind_same {x : Except ε α} {f : α → Except ε γ} {g : α → Except ε δ}
    (hf : ∀ a, Related Q (f a) (g a)) : Related Q (x >>= f) (x >>= g) := by
  cases x with
  | ok a => exact hf a
  | error e => exact rfl

theorem Paired.refl (x : EStateM ε σ α) : Paired Eq Eq Eq x x := by
  intro s t heq
  subst heq
  cases h : x s <;> exact ⟨rfl,rfl⟩

theorem paired_pure {a : α} {b : β} (h : R a b) :
    Paired S S R (pure a : EStateM ε σ α) (pure b) := fun _ _ hs => ⟨h,hs⟩

theorem paired_modify {f g : σ → σ} (h : ∀ s t, S s t → T (f s) (g t)) :
    Paired S T Eq (modify f : EStateM ε σ PUnit) (modify g) := fun s t hs => ⟨rfl,h s t hs⟩

theorem paired_ofExcept {x : Except ε α} {y : Except ε β} (h : Related R x y) :
    Paired S S R (Stateful.ofExcept x) (Stateful.ofExcept y) := by
  intro s t hs
  cases x with
  | ok a =>
    cases y with
    | ok b => exact ⟨h,hs⟩
    | error e => exact h.elim
  | error e =>
    cases y with
    | ok b => exact h.elim
    | error e' => exact ⟨h,hs⟩

/-- Sequencing; where the first parts raise, their states must do for the end. -/
theorem Paired.bind {x : EStateM ε σ α} {y : EStateM ε σ β} {f : α → EStateM ε σ γ}
    {g : β → EStateM ε σ δ} (hx : Paired S T R x y)
    (hf : ∀ a b, R a b → Paired T U Q (f a) (g b)) (hU : ∀ s t, T s t → U s t) :
    Paired S U Q (x >>= f) (y >>= g) := by
  intro s t hs
  have hxs := hx s t hs
  rw [bind_apply, bind_apply]
  cases hr : x s with
  | ok a s' =>
    cases hr' : y t with
    | ok b t' =>
      rw [hr, hr'] at hxs
      exact hf a b hxs.1 s' t' hxs.2
    | error e t' =>
      rw [hr, hr'] at hxs
      exact hxs.elim
  | error e s' =>
    cases hr' : y t with
    | ok b t' =>
      rw [hr, hr'] at hxs
      exact hxs.elim
    | error e' t' =>
      rw [hr, hr'] at hxs
      exact ⟨hxs.1,hU _ _ hxs.2⟩

theorem Paired.bind_same {x : EStateM ε σ α} {f : α → EStateM ε σ γ} {g : α → EStateM ε σ δ}
    (hf : ∀ a, Paired Eq U Q (f a) (g a)) (hU : ∀ s, U s s) :
    Paired Eq U Q (x >>= f) (x >>= g) := by
  apply Paired.bind (Paired.refl x)
  · intro a b heq
    subst heq
    exact hf a
  · intro s t heq
    subst heq
    exact hU s

end

end TwoRuns
