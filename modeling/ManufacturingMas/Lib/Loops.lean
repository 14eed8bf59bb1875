import Mathlib.Tactic.TypeStar

/-! Loops over a list: what they build, and what they write into one part of a state without
reading it. -/

namespace Folds

variable {α β : Type*} {f : β → α → β} {b : β}

/-- An invariant between what a loop has read and what it has built. -/
theorem foldl_invariant {I : List α → β → Prop}
    (step : ∀ xs b x, I xs b → I (xs ++ [x]) (f b x)) (start : I [] b) (xs : List α) :
    I xs (xs.foldl f b) := by
  have hall : ∀ (ys xs : List α) (b : β), I ys b → I (ys ++ xs) (xs.foldl f b) := by
    intro ys xs
    induction xs generalizing ys with
    | nil =>
      intro b h
      simpa using h
    | cons x xs ih =>
      intro b h
      simpa using ih (ys ++ [x]) (f b x) (step ys b x h)
  exact hall [] xs b start

end Folds

namespace Writes

section
variable {σ δ ω ι κ : Type*} {put : δ → σ → σ} {write : δ → ω → δ} {ws vs : List ω}
  {f g : σ → σ} {s : σ}

/-- What `f` does to the part that `put` sets are the writes `ws`, whatever that part is;
nothing else that it does depends on it. -/
def WritesAs (put : δ → σ → σ) (write : δ → ω → δ) (ws : List ω) (f : σ → σ) (s : σ) : Prop :=
  ∀ d, f (put d s) = put (ws.foldl write d) (f s)

theorem WritesAs.nothing : WritesAs put write [] id s := fun _ => rfl

theorem WritesAs.comp (hf : WritesAs put write ws f s) (hg : WritesAs put write vs g (f s)) :
    WritesAs put write (ws ++ vs) (fun s => g (f s)) s := by
  intro d
  rw [List.foldl_append]
  change g (f (put d s)) = _
  rw [hf d, hg]

/-- A loop makes the writes of its rounds, one round after the other. -/
theorem loop {keyOf : ω → κ} {keys : ι → List κ} {step : σ → ι → σ}
    (hstep : ∀ s x, ∃ ws, ws.map keyOf = keys x ∧ WritesAs put write ws (fun s => step s x) s)
    (xs : List ι) (s : σ) :
    ∃ ws, ws.map keyOf = xs.flatMap keys ∧
      WritesAs put write ws (fun s => xs.foldl step s) s := by
  induction xs generalizing s with
  | nil => exact ⟨[],rfl,.nothing⟩
  | cons x xs ih =>
    obtain ⟨ws,hws,hfirst⟩ := hstep s x
    obtain ⟨vs,hvs,hrest⟩ := ih (step s x)
    refine ⟨ws ++ vs,?_,hfirst.comp hrest⟩
    rw [List.map_append, hws, hvs, List.flatMap_cons]

end

end Writes
