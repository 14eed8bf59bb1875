import ManufacturingMas.Lib.Runs
import ManufacturingMas.Proofs.FactoryCycle
import ManufacturingMas.Proofs.RoundEffects
import ManufacturingMas.Runtime.LineSpeed

/-! The speeds of the line under everything that writes them. -/

namespace ManufacturingMas.Proofs.SpeedSafety
open Py Machines Environment Agents PlanningLoop LineSpeed FactoryCycle RoundEffects

variable {σ : Type}

def Within (station : WorkCenter) : Prop := 40 ≤ station.speedPct ∧ station.speedPct ≤ 100

/-- Six stations, each at 40 to 100 percent. -/
def SafeLine (line : List WorkCenter) : Prop := line.length = 6 ∧ ∀ s ∈ line, Within s

/-! ### Production -/

theorem runCycle_speeds (f : Factory) (d : CycleDraws) :
    (f.runCycle d).1.line.map (·.speedPct) = f.line.map (·.speedPct) :=
  runCycle_nameplates f d (·.speedPct)

/-- A safe line is known by its speeds. -/
theorem safeLine_iff (line : List WorkCenter) :
    SafeLine line ↔ (line.map (·.speedPct)).length = 6 ∧
      ∀ speed ∈ line.map (·.speedPct), 40 ≤ speed ∧ speed ≤ 100 := by
  simp [SafeLine, Within]

theorem SafeLine.production {f : Factory} (h : SafeLine f.line) (d : CycleDraws) :
    SafeLine (f.runCycle d).1.line := by
  rw [safeLine_iff, runCycle_speeds, ← safeLine_iff]
  exact h

/-! ### Recovery -/

theorem Within.recover {s : WorkCenter} (h : Within s) (amount : RandInt 5 15) :
    Within (speedRecovery amount s) := by
  obtain ⟨hlow,hhigh⟩ := h
  have hamount := amount.lo_le
  unfold speedRecovery
  split
  · unfold Within WorkCenter.setSpeed
    dsimp only
    omega
  · exact ⟨hlow,hhigh⟩

theorem SafeLine.recover {line : List WorkCenter} (h : SafeLine line) (station : Nat)
    (amount : RandInt 5 15) : SafeLine (line.modify station (speedRecovery amount)) :=
  ⟨by rw [List.length_modify]; exact h.1,
    forall_modify (fun s hs => Within.recover (s := s) hs amount) station h.2⟩

/-! ### Rounds -/

/-- How a round in the state `s` ends. -/
def roundResult (rt : PaRuntime σ) (t : PaTick σ) (s : RuntimeState σ) :
    EStateM.Result PyErr (CnpWorld (Mail σ)) (Option Dict) :=
  initiateCnp t.env rt.llm (rt.agents.filter (·.agentId ≠ paId))
    (enrichSnapshotForAgents rt.adapter t.snapshot.dict) s.pa.world.rest.cnp

/-- After a round that gave a strategy every station has exactly its target speed;
after any other round the line is what it was. -/
def SetsAllOrNone (rt : PaRuntime σ) (t : PaTick σ) (s : RuntimeState σ) : Prop :=
  (∃ strategy cnp, ∃ speed : ℤ, roundResult rt t s = .ok (some strategy) cnp ∧
    Assoc.get strategy "target_speed_pct" = some (.int speed) ∧ 40 ≤ speed ∧ speed ≤ 100 ∧
    (cnpRound rt t s).factory.line = s.factory.line.map fun station =>
      { station with speedPct := speed }) ∨
  (∀ strategy cnp, roundResult rt t s ≠ .ok (some strategy) cnp) ∧
    (cnpRound rt t s).factory.line = s.factory.line

theorem initiateCnp_target {env : CnpEnv σ} {llm : Option Intelligence.LLMClient}
    {agents : List (Responder σ)} {snapshot strategy : Dict} {w w' : CnpWorld σ}
    (h : initiateCnp env llm agents snapshot w = .ok (some strategy) w') :
    ∃ speed : ℤ, Assoc.get strategy "target_speed_pct" = some (.int speed) ∧
      40 ≤ speed ∧ speed ≤ 100 := by
  rcases initiateCnp_ok h with ⟨hnone,_⟩ | ⟨round,settled,_,_,hsome,hopen,hsettle,_⟩
  · cases hnone
  · cases hsome
    exact settleRound_target (openRound_limits hopen) hsettle

/-- Within the limits of a round, `set_speed` sets what it is given. -/
theorem setSpeeds_of_target {strategy : Dict} {speed : ℤ}
    (h : Assoc.get strategy "target_speed_pct" = some (.int speed)) (hlow : 40 ≤ speed)
    (hhigh : speed ≤ 100) (line : List WorkCenter) :
    setSpeeds strategy line = line.map fun station => { station with speedPct := speed } := by
  have hread : getD strategy "target_speed_pct" (.int 100) = .int speed := by simp [getD, h]
  have hclamp : max 40 (min 110 speed) = speed := by omega
  unfold setSpeeds
  rw [hread]
  simp only [WorkCenter.setSpeed, hclamp]

theorem cnpRound_sets (rt : PaRuntime σ) (t : PaTick σ) (s : RuntimeState σ) :
    SetsAllOrNone rt t s := by
  have hround : (cnpRound rt t s).factory.line =
      (startRound rt t { s.pa with line := s.factory.line }).line := rfl
  unfold SetsAllOrNone
  rw [hround]
  unfold startRound
  dsimp only
  rw [← roundResult]
  cases hresult : roundResult rt t s with
  | error e cnp => exact .inr ⟨by simp,rfl⟩
  | ok result cnp =>
    cases result with
    | none => exact .inr ⟨by simp,rfl⟩
    | some strategy =>
      obtain ⟨speed,htarget,hlow,hhigh⟩ := initiateCnp_target hresult
      refine .inl ⟨strategy,cnp,speed,rfl,htarget,hlow,hhigh,?_⟩
      cases strategy with
      | nil => cases htarget
      | cons entry strategy => exact setSpeeds_of_target htarget hlow hhigh s.factory.line

theorem SafeLine.round {s : RuntimeState σ} (h : SafeLine s.factory.line) (rt : PaRuntime σ)
    (t : PaTick σ) : SafeLine (cnpRound rt t s).factory.line := by
  rcases cnpRound_sets rt t s with ⟨strategy,cnp,speed,_,_,hlow,hhigh,hline⟩ | ⟨_,hline⟩
  · rw [hline]
    refine ⟨by rw [List.length_map]; exact h.1,?_⟩
    intro station hstation
    obtain ⟨old,_,rfl⟩ := List.mem_map.mp hstation
    exact ⟨hlow,hhigh⟩
  · rw [hline]
    exact h

/-- An iteration of the agent loop changes the line by its round alone. -/
theorem SafeLine.planning {s : RuntimeState σ} (h : SafeLine s.factory.line) (rt : PaRuntime σ)
    (t : PaTick σ) : SafeLine (planningCycle rt t s).factory.line := by
  change SafeLine (runPa rt { s.pa with line := s.factory.line } t).line
  have hround : ∀ pa : PaState σ, pa.line = s.factory.line → SafeLine (startRound rt t pa).line := by
    intro pa hline
    have hbegan : SafeLine (RuntimeState.mk { s.factory with line := pa.line } pa).factory.line := by
      rw [hline]
      exact h
    exact hbegan.round rt t
  unfold runPa
  dsimp only
  split
  · exact h
  · split
    · exact hround _ rfl
    · exact h

/-! ### Any number of events -/

theorem apply_safe (s : RuntimeState σ) (e : LineEvent σ) (h : SafeLine s.factory.line) :
    SafeLine (e.apply s).factory.line := by
  cases e with
  | round rt t => exact h.round rt t
  | planning rt t => exact h.planning rt t
  | recovery station amount => exact h.recover station amount
  | production d => exact h.production d

theorem initial_safe (d : InitDraws) (mail : Mail σ) :
    SafeLine (RuntimeState.initial d mail).factory.line := by
  change SafeLine createProductionLine
  refine ⟨rfl,?_⟩
  intro station hstation
  simp only [createProductionLine, List.mem_cons, List.not_mem_nil, or_false] at hstation
  rcases hstation with rfl | rfl | rfl | rfl | rfl | rfl <;> exact ⟨by decide,by decide⟩

/-- In every reachable state, whatever the planning agent has been told by then, the six
stations run at 40 to 100 percent, and a round there gives all of them its strategy's speed, or
leaves them alone. -/
theorem line_speed_safe (d : InitDraws) (mail : Mail σ) (es : List (LineEvent σ)) :
    let s := Runs.run LineEvent.apply (.initial d mail) es
    SafeLine s.factory.line ∧ ∀ rt t, SetsAllOrNone rt t s := by
  intro s
  have hsafe : SafeLine s.factory.line :=
    Runs.run_invariant apply_safe (initial_safe d mail)
  exact ⟨hsafe,fun rt t => cnpRound_sets rt t s⟩

end ManufacturingMas.Proofs.SpeedSafety
