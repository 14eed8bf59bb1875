import ManufacturingMas.Proofs.PlanningHistory

/-! How far apart the rounds of the planning agent are. -/

namespace ManufacturingMas.Proofs.RoundSpacing
open Py Agents PlanningLoop PlanningHistory

variable {σ : Type}

/-- A round: the cycle of its snapshot and the alerts it was begun with. -/
abbrev BegunRound := Val × List Dict

/-- The rounds of a history, in order. -/
def rounds (history : List PaEvent) : List BegunRound :=
  history.filterMap fun e =>
    match e with
    | .began cycle alerts => some (cycle, alerts)
    | _ => none

/-- A round more than ten cycles after `last`, and more than thirty if nothing but
the effectiveness called for it. -/
def Apart (last cycle : ℤ) (alerts : List Dict) : Prop :=
  10 < cycle - last ∧ (Quiet alerts → 30 < cycle - last)

/-- Every round is apart from the one before it, the first one from `last`. -/
def SpacedFrom : ℤ → List BegunRound → Prop
  | _, [] => True
  | last, r :: rs => ∃ cycle, r.1 = .int cycle ∧ Apart last cycle r.2 ∧ SpacedFrom cycle rs

/-- The cycle of the last round, `last` if there is none. -/
def lastFrom : ℤ → List BegunRound → ℤ
  | last, [] => last
  | _, r :: rs => lastFrom (match r.1 with | .int cycle => cycle | _ => 0) rs

theorem SpacedFrom.append {last cycle : ℤ} {rs : List BegunRound} {alerts : List Dict}
    (h : SpacedFrom last rs) (hapart : Apart (lastFrom last rs) cycle alerts) :
    SpacedFrom last (rs ++ [(.int cycle, alerts)]) ∧
      lastFrom last (rs ++ [(.int cycle, alerts)]) = cycle := by
  induction rs generalizing last with
  | nil => exact ⟨⟨cycle,rfl,hapart,trivial⟩,rfl⟩
  | cons r rs ih =>
    obtain ⟨value,roundAlerts⟩ := r
    obtain ⟨c,rfl,hfirst,hrest⟩ := h
    obtain ⟨hspaced,hlast⟩ := ih hrest hapart
    exact ⟨⟨c,rfl,hfirst,hspaced⟩,hlast⟩

/-- The spacing is the agent's own guard, tested against the mark of the last round. -/
theorem trace_spaced {es : List PaEvent} {last : ℤ} {pending : List Dict}
    (h : Trace es last pending) : SpacedFrom 0 (rounds es) ∧ lastFrom 0 (rounds es) = last := by
  induction h with
  | start => exact ⟨trivial,rfl⟩
  | sense _ alerts ih =>
    rw [rounds, List.filterMap_append]
    simpa [rounds] using ih
  | reason _ _ _ ih =>
    rw [rounds, List.filterMap_append]
    simpa [rounds] using ih
  | @begin es last pending _ cycle avgOee hasks ih =>
    obtain ⟨hspaced,hlast⟩ := ih
    rw [rounds, List.filterMap_append]
    refine hspaced.append ?_
    rw [hlast]
    refine ⟨hasks.2,?_⟩
    intro hquiet
    rcases hasks.1 with hloud | hslow
    · exact absurd hquiet hloud
    · exact hslow.2

/-- The rounds begun up to a cycle. -/
def roundsUpTo (bound : ℤ) (rs : List BegunRound) : List BegunRound :=
  rs.filter fun r =>
    match r.1 with
    | .int cycle => cycle ≤ bound
    | _ => false

/-- Each round uses up eleven cycles. -/
theorem SpacedFrom.count {last : ℤ} {rs : List BegunRound} (h : SpacedFrom last rs) (bound : ℤ) :
    11 * ((roundsUpTo bound rs).length : ℤ) ≤ max 0 (bound - last) := by
  induction rs generalizing last with
  | nil => exact le_max_left _ _
  | cons r rs ih =>
    obtain ⟨value,alerts⟩ := r
    obtain ⟨cycle,rfl,hapart,hrest⟩ := h
    have hgap := hapart.1
    have htail := ih hrest
    unfold roundsUpTo at htail ⊢
    rw [List.filter_cons]
    dsimp only
    split
    · rename_i hle
      rw [decide_eq_true_eq] at hle
      rw [List.length_cons]
      push_cast
      omega
    · rename_i hgt
      rw [decide_eq_true_eq] at hgt
      omega

/-- In every run of the agent's loop, consecutive rounds are more than ten cycles
apart, those begun without a loud alert more than thirty, and up to cycle `bound`
there are at most `bound / 11` of them. -/
theorem rounds_spaced (rt : PaRuntime σ) (mail : Mail σ) (line : List Machines.WorkCenter)
    (ticks : List (PaTick σ)) :
    let rs := rounds (Runs.run (runPa rt) (.initial mail line) ticks).world.rest.history
    SpacedFrom 0 rs ∧ ∀ bound : ℕ, (roundsUpTo bound rs).length ≤ bound / 11 := by
  intro rs
  obtain ⟨last,_,htrace⟩ := run_traced rt mail line ticks
  have hspaced : SpacedFrom 0 rs := (trace_spaced htrace).1
  refine ⟨hspaced,?_⟩
  intro bound
  have hcount := hspaced.count bound
  omega

end ManufacturingMas.Proofs.RoundSpacing
