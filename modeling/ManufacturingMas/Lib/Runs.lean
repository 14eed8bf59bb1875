import Mathlib.Tactic.TypeStar

/-! Runs of a deterministic machine on a list of inputs, with the rules that
carry a fact about one step to every state of a run. -/

namespace Runs

section
variable {σ ι : Type*} (step : σ → ι → σ)

/-- The state a list of inputs leads to. -/
def run : σ → List ι → σ
  | s, [] => s
  | s, e :: es => run (step s e) es

/-- What the inputs of a run put out, each in the state it is read in. -/
def outputs {β : Type*} (out : σ → ι → List β) : σ → List ι → List β
  | _, [] => []
  | s, e :: es => out s e ++ outputs out (step s e) es

/-- Every input of the run satisfies `P` in the state it is read in. -/
def Along (P : σ → ι → Prop) : σ → List ι → Prop
  | _, [] => True
  | s, e :: es => P s e ∧ Along P (step s e) es

/-- Every state of the run, the first and the last included, satisfies `Q`. -/
def Always (Q : σ → Prop) : σ → List ι → Prop
  | s, [] => Q s
  | s, e :: es => Q s ∧ Always Q (step s e) es

end

section
variable {σ ι : Type*} {step : σ → ι → σ} {P P' : σ → ι → Prop} {Q Inv : σ → Prop}
  {s : σ} {e : ι} {es : List ι}

@[simp] theorem run_nil : run step s [] = s := rfl
@[simp] theorem run_cons : run step s (e :: es) = run step (step s e) es := rfl
@[simp] theorem along_nil : Along step P s [] := trivial
@[simp] theorem along_cons :
    Along step P s (e :: es) ↔ P s e ∧ Along step P (step s e) es := Iff.rfl
@[simp] theorem always_nil : Always step Q s [] ↔ Q s := Iff.rfl
@[simp] theorem always_cons :
    Always step Q s (e :: es) ↔ Q s ∧ Always step Q (step s e) es := Iff.rfl

theorem run_append (es es' : List ι) :
    run step s (es ++ es') = run step (run step s es) es' := by
  induction es generalizing s with
  | nil => rfl
  | cons e es ih => exact ih

theorem Always.first (h : Always step Q s es) : Q s := by
  cases es with
  | nil => exact h
  | cons e es => exact h.1

theorem Always.last (h : Always step Q s es) : Q (run step s es) := by
  induction es generalizing s with
  | nil => exact h
  | cons e es ih => exact ih h.2

/-- An invariant that every step keeps, whatever its input. -/
theorem run_invariant (keep : ∀ s e, Inv s → Inv (step s e)) (hs : Inv s) :
    Inv (run step s es) := by
  induction es generalizing s with
  | nil => exact hs
  | cons e es ih => exact ih (keep s e hs)

theorem always_invariant (keep : ∀ s e, Inv s → Inv (step s e)) (hs : Inv s) :
    Always step Inv s es := by
  induction es generalizing s with
  | nil => exact hs
  | cons e es ih => exact ⟨hs,ih (keep s e hs)⟩

theorem outputs_append {β : Type*} {out : σ → ι → List β} (es es' : List ι) :
    outputs step out s (es ++ es') =
      outputs step out s es ++ outputs step out (run step s es) es' := by
  induction es generalizing s with
  | nil => rfl
  | cons e es ih =>
    change out s e ++ outputs step out (step s e) (es ++ es') = _
    rw [ih, ← List.append_assoc]
    rfl

/-- An invariant between the state and what the run has put out so far. -/
theorem outputs_invariant {β : Type*} {out : σ → ι → List β} {Inv : List β → σ → Prop}
    (keep : ∀ bs s e, Inv bs s → Inv (bs ++ out s e) (step s e)) {bs : List β} (hs : Inv bs s) :
    Inv (bs ++ outputs step out s es) (run step s es) := by
  induction es generalizing s bs with
  | nil => simpa [outputs] using hs
  | cons e es ih =>
    have hrest := ih (keep bs s e hs)
    rw [List.append_assoc] at hrest
    exact hrest

/-- The same from nothing put out yet. -/
theorem outputs_invariant_nil {β : Type*} {out : σ → ι → List β} {Inv : List β → σ → Prop}
    (keep : ∀ bs s e, Inv bs s → Inv (bs ++ out s e) (step s e)) (hs : Inv [] s) :
    Inv (outputs step out s es) (run step s es) := by
  have hrun : Inv ([] ++ outputs step out s es) (run step s es) := outputs_invariant keep hs
  rw [List.nil_append] at hrun
  exact hrun

/-- What no step can restore holds all along if it holds at the end. -/
theorem always_iff_last (keep : ∀ s e, Inv s → Inv (step s e))
    (back : ∀ s e, Inv s → Q (step s e) → Q s) (hi : Inv s) :
    Always step Q s es ↔ Q (run step s es) := by
  refine ⟨Always.last,fun h => ?_⟩
  induction es generalizing s with
  | nil => exact h
  | cons e es ih =>
    have hrest := ih (keep s e hi) h
    exact ⟨back s e hi hrest.first,hrest⟩

theorem always_imp {Q' : σ → Prop} (keep : ∀ s e, Inv s → Inv (step s e))
    (weaken : ∀ s, Inv s → Q s → Q' s) (hi : Inv s) (h : Always step Q s es) :
    Always step Q' s es := by
  induction es generalizing s with
  | nil => exact weaken s hi h
  | cons e es ih => exact ⟨weaken s hi h.1,ih (keep s e hi) h.2⟩

/-- The exactness rule: where, under an invariant, a step keeps `Q` exactly
when its input meets `P`, the runs that stay in `Q` are the runs along `P`. -/
theorem always_iff_along (Inv : σ → Prop) (keep : ∀ s e, Inv s → Inv (step s e))
    (exact : ∀ s e, Inv s → Q s → (Q (step s e) ↔ P s e))
    (hi : Inv s) (hs : Q s) : Always step Q s es ↔ Along step P s es := by
  induction es generalizing s with
  | nil => exact ⟨fun _ => trivial,fun _ => hs⟩
  | cons e es ih =>
    have hstep := exact s e hi hs
    constructor
    · intro h
      have hq : Q (step s e) := h.2.first
      exact ⟨hstep.mp hq,(ih (keep s e hi) hq).mp h.2⟩
    · intro h
      exact ⟨hs,(ih (keep s e hi) (hstep.mpr h.1)).mpr h.2⟩

/-- Two conditions that agree on every step under an invariant agree on runs. -/
theorem along_congr (Inv : σ → Prop) (keep : ∀ s e, Inv s → Inv (step s e))
    (agree : ∀ s e, Inv s → (P s e ↔ P' s e)) (hi : Inv s) :
    Along step P s es ↔ Along step P' s es := by
  induction es generalizing s with
  | nil => exact Iff.rfl
  | cons e es ih => exact and_congr (agree s e hi) (ih (keep s e hi))

theorem along_append (es es' : List ι) :
    Along step P s (es ++ es') ↔ Along step P s es ∧ Along step P (run step s es) es' := by
  induction es generalizing s with
  | nil => exact (and_iff_right trivial).symm
  | cons e es ih => rw [List.cons_append, along_cons, along_cons, run_cons, ih, and_assoc]

/-- What an invariant lets every step do holds along a run that stays in it. -/
theorem along_of_always (weaken : ∀ s e, Q s → P s e) (h : Always step Q s es) :
    Along step P s es := by
  induction es generalizing s with
  | nil => trivial
  | cons e es ih => exact ⟨weaken s e h.1,ih h.2⟩

theorem along_mono (weaken : ∀ s e, P s e → P' s e) (h : Along step P s es) :
    Along step P' s es := by
  induction es generalizing s with
  | nil => trivial
  | cons e es ih => exact ⟨weaken s e h.1,ih h.2⟩

end

end Runs
