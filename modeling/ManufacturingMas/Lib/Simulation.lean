import ManufacturingMas.Lib.Runs

/-! Simulation: every step of one machine is a run of another, or a step of it, with the same
outputs. -/

namespace Simulation
open Runs

variable {σ ι β τ κ : Type*} {step : σ → ι → σ} {out : σ → ι → List β}
  {r s t : σ} {bs cs : List β}

/-- Some inputs lead from one state to another and put out `bs`. -/
def Reaches (step : σ → ι → σ) (out : σ → ι → List β) (s : σ) (bs : List β) (t : σ) : Prop :=
  ∃ es, run step s es = t ∧ outputs step out s es = bs

theorem Reaches.refl (s : σ) : Reaches step out s [] s := ⟨[],rfl,rfl⟩

theorem Reaches.single (s : σ) (e : ι) : Reaches step out s (out s e) (step s e) :=
  ⟨[e],rfl,List.append_nil _⟩

theorem Reaches.trans (h : Reaches step out r bs s) (h' : Reaches step out s cs t) :
    Reaches step out r (bs ++ cs) t := by
  obtain ⟨es,rfl,rfl⟩ := h
  obtain ⟨es',rfl,rfl⟩ := h'
  exact ⟨es ++ es',run_append es es',outputs_append es es'⟩

/-- What puts nothing out can be done before anything else. -/
theorem Reaches.quiet_trans (h : Reaches step out r [] s) (h' : Reaches step out s cs t) :
    Reaches step out r cs t := h.trans h'

theorem Reaches.trans_quiet (h : Reaches step out r bs s) (h' : Reaches step out s [] t) :
    Reaches step out r bs t := by
  have hboth := h.trans h'
  rwa [List.append_nil] at hboth

/-- An invariant between outputs and states holds of whatever is reached. -/
theorem Reaches.invariant {Inv : List β → σ → Prop} (h : Reaches step out s bs t)
    (keep : ∀ bs s e, Inv bs s → Inv (bs ++ out s e) (step s e)) (hs : Inv [] s) : Inv bs t := by
  obtain ⟨es,rfl,rfl⟩ := h
  exact outputs_invariant_nil keep hs

theorem Reaches.keeps {Inv : σ → Prop} (h : Reaches step out s bs t)
    (keep : ∀ s e, Inv s → Inv (step s e)) (hs : Inv s) : Inv t := by
  obtain ⟨es,rfl,rfl⟩ := h
  exact run_invariant keep hs

/-- Changes that are made one after another, each of them quietly. -/
theorem reaches_foldl {α γ : Type*} (view : α → σ) (Inv : α → Prop) {change : α → γ → α}
    (keep : ∀ a g, Inv a → Inv (change a g))
    (quiet : ∀ a g, Inv a → Reaches step out (view a) [] (view (change a g)))
    {a : α} (ha : Inv a) (gs : List γ) :
    Reaches step out (view a) [] (view (gs.foldl change a)) := by
  induction gs generalizing a with
  | nil => exact .refl _
  | cons g gs ih => exact (quiet a g ha).quiet_trans (ih (keep a g ha))

/-- Where every step of a machine is matched by a run of the other, every run is. -/
theorem reaches_run {step' : τ → κ → τ} {out' : τ → κ → List β} (view : τ → σ) (Inv : τ → Prop)
    (keep : ∀ x k, Inv x → Inv (step' x k))
    (matched : ∀ x k, Inv x → Reaches step out (view x) (out' x k) (view (step' x k)))
    {x : τ} (hx : Inv x) (ks : List κ) :
    Reaches step out (view x) (outputs step' out' x ks) (view (run step' x ks)) := by
  induction ks generalizing x with
  | nil => exact .refl _
  | cons k ks ih => exact (matched x k hx).trans (ih (keep x k hx))

/-! ### In lock step -/

section
variable {step' : τ → κ → τ} {out' : τ → κ → List β} {R : σ → τ → Prop} {matching : σ → ι → κ}

/-- A run's inputs, each as the other machine gets it. -/
def translated (step : σ → ι → σ) (matching : σ → ι → κ) (s : σ) (es : List ι) : List κ :=
  outputs step (fun s e => [matching s e]) s es

/-- Two machines that keep a relation in each step, and put out the same, do so in every run. -/
theorem lockstep (keep : ∀ s x e, R s x →
      R (step s e) (step' x (matching s e)) ∧ out s e = out' x (matching s e))
    {x : τ} (h : R s x) (es : List ι) :
    R (run step s es) (run step' x (translated step matching s es)) ∧
      outputs step out s es = outputs step' out' x (translated step matching s es) := by
  induction es generalizing s x with
  | nil => exact ⟨h,rfl⟩
  | cons e es ih =>
    obtain ⟨hnext,hout⟩ := keep s x e h
    obtain ⟨hrest,houts⟩ := ih hnext
    refine ⟨hrest,?_⟩
    change out s e ++ _ = out' x (matching s e) ++ _
    rw [hout]
    exact congrArg (out' x (matching s e) ++ ·) houts

end

end Simulation
