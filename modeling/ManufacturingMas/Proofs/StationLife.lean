import ManufacturingMas.Lib.Pointwise
import ManufacturingMas.Proofs.LineVisits
import ManufacturingMas.Runtime.FactoryLoop

/-! What can happen to a station under the runtime, and the life this leaves it: it runs,
breaks down, is repaired and warms up, in this order, and keeps books of it. -/

namespace ManufacturingMas.Proofs.StationLife
open Py Machines Environment ScenarioRuntime FactoryEvents FactoryLoop FactoryCycle LineVisits
  AgentRuntime

/-! ### What an event does to a station -/

/-- What becomes of a station when a product goes through the line. -/
inductive Passed (s : WorkCenter) : WorkCenter → Prop
  | left : Passed s s
  | worked {ctx : LineContext} {d : StationDraws} (hrun : ¬ Stopped s) : Passed s (visited ctx d s)

/-- What an event of the runtime can make of a station. -/
inductive Moved (s : WorkCenter) : WorkCenter → Prop
  | same : Moved s s
  | worked {ctx : LineContext} {d : StationDraws} {rec : DynamicsDraws} {i : Nat}
      (hrun : ¬ Stopped s) :
      Moved s (repairStation rec i (recoverSensors rec i (visited ctx d s)))
  | waited {rec : DynamicsDraws} {i : Nat} : Moved s (repairStation rec i (recoverSensors rec i s))
  | broke (hrun : s.state = .running) (repair : Uniform 300 1200) :
      Moved s (s.triggerBreakdown repair.val)
  | worn (spike : Uniform 50 200) :
      Moved s (StationEvent.apply (.toolWearSpike (truncate spike.val)) s)
  | drifted (sensor : Nat) (drift : Uniform (1/10) (1/2)) :
      Moved s (StationEvent.apply (.qualityDrift sensor drift.val) s)
  | sped (pct : Int) : Moved s (s.setSpeed pct)

theorem passage_each {ctx : LineContext} {d : Nat → StationDraws} {idx : Nat}
    {line line' : List WorkCenter} {st st' : LineState}
    (h : Passage ctx d idx line st line' st') : List.Forall₂ Passed line line' := by
  have hrest : ∀ rest : List WorkCenter, List.Forall₂ Passed rest rest :=
    fun rest => List.forall₂_same.mpr fun _ _ => .left
  induction h with
  | done => exact .nil
  | stopped _ => exact hrest _
  | rejected hrun _ => exact .cons (.worked hrun) (hrest _)
  | passed hrun _ _ ih => exact .cons (.worked hrun) ih

theorem tick_moves (s : LoopState) (d : TickDraws) :
    List.Forall₂ Moved s.factory.line (s.tick d).factory.line := by
  have hpassed : List.Forall₂ Passed s.factory.line (s.factory.runCycle d.cycle).1.line := by
    rw [runCycle_line]
    exact passage_each (passLine_passage s.factory d.cycle)
  refine Pointwise.forall₂_mapIdx hpassed fun i x y hxy => ?_
  cases hxy with
  | left => exact .waited
  | worked hrun => exact .worked hrun

theorem atStation_moves (s : LoopState) (i : Nat) {happens : WorkCenter → Bool}
    {change : WorkCenter → WorkCenter} (h : ∀ wc, happens wc = true → Moved wc (change wc)) :
    List.Forall₂ Moved s.factory.line (s.atStation i happens change).factory.line := by
  unfold LoopState.atStation
  split
  · rename_i hany
    refine Pointwise.forall₂_modify (fun _ => .same) fun wc hwc => h wc ?_
    rw [hwc] at hany
    exact hany
  · exact List.forall₂_same.mpr fun _ _ => .same

theorem apply_moves (s : LoopState) (e : LoopEvent) :
    List.Forall₂ Moved s.factory.line (e.apply s).factory.line := by
  have hsame : List.Forall₂ Moved s.factory.line s.factory.line :=
    List.forall₂_same.mpr fun _ _ => .same
  cases e with
  | tick d => exact tick_moves s d
  | breakdown i repair => exact atStation_moves s i fun wc h => .broke (of_decide_eq_true h) repair
  | toolWearSpike i spike => exact atStation_moves s i fun wc _ => .worn spike
  | qualityDrift i sensor drift => exact atStation_moves s i fun wc _ => .drifted sensor drift
  | speedRecovery i amount => exact atStation_moves s i fun wc _ => .sped _
  | setSpeed pct => exact Pointwise.forall₂_map fun wc _ => .sped pct
  | _ => exact hsame

/-! ### The books of a station -/

/-- A station is idle until its first cycle, and running exactly while it has cycles since its
last repair. Its failures are cycles apart, and each is five to twenty minutes of repair. -/
structure Service (s : WorkCenter) : Prop where
  noSetup : s.state ≠ .setup
  noMaintenance : s.state ≠ .maintenance
  idle : s.state = .idle ↔ s.totalCycles = 0
  running : s.state = .running ↔ 0 < s.uptimeSinceRepair
  uptime : 0 ≤ s.uptimeSinceRepair
  cycles : s.lastFailureCycle + s.uptimeSinceRepair = s.totalCycles
  failures : 0 ≤ s.failureCount ∧ s.failureCount ≤ s.lastFailureCycle
  noFailure : s.failureCount = 0 → s.lastFailureCycle = 0
  repair : 300 * (s.failureCount : ℚ) ≤ s.totalRepairSec ∧
    s.totalRepairSec ≤ 1200 * (s.failureCount : ℚ)
  downtime : s.downtimeSec = s.totalRepairSec
  setup : s.setupTimeSec = 0
  tool : s.totalCycles ≤ s.tool.currentLife

structure Life (s : WorkCenter) : Prop extends Service s where
  verdicts : LineVisits.Balanced s

theorem new_life (stationId name stationType : String) (cycleTimeSec : ℚ)
    (sensors : List (String × RealisticSensor)) (maxLife : Int) :
    Life (.new stationId name stationType cycleTimeSec sensors (.new maxLife)) := by
  refine ⟨⟨?_,?_,?_,?_,?_,?_,?_,?_,?_,?_,?_,?_⟩,?_⟩ <;>
    simp [WorkCenter.new, ToolWear.new, LineVisits.Balanced]

theorem Service.executeCycle {s : WorkCenter} (h : Service s) (shift ambient : ℚ)
    (d : StationDraws) : Service (s.executeCycle shift ambient d).1 := by
  unfold WorkCenter.executeCycle
  split
  · exact h
  · have hcycles := h.cycles
    have huptime := h.uptime
    have hfailures := h.failures
    refine ⟨by simp,by simp,?_,?_,?_,?_,h.failures,h.noFailure,h.repair,h.downtime,h.setup,?_⟩
    · change MachineState.running = .idle ↔ s.totalCycles + 1 = 0
      simp only [reduceCtorEq, false_iff]
      omega
    · change MachineState.running = .running ↔ 0 < s.uptimeSinceRepair + 1
      simp only [true_iff]
      omega
    · change 0 ≤ s.uptimeSinceRepair + 1
      omega
    · change s.lastFailureCycle + (s.uptimeSinceRepair + 1) = s.totalCycles + 1
      omega
    · change s.totalCycles + 1 ≤ s.tool.currentLife + 1
      have htool := h.tool
      omega

theorem Service.recordQuality {s : WorkCenter} (h : Service s) (isGood : Bool) :
    Service (s.recordQuality isGood) := by
  cases isGood <;>
    exact ⟨h.noSetup,h.noMaintenance,h.idle,h.running,h.uptime,h.cycles,h.failures,h.noFailure,
      h.repair,h.downtime,h.setup,h.tool⟩

theorem Life.visited {s : WorkCenter} (h : Life s) (hrun : ¬ Stopped s) (ctx : LineContext)
    (d : StationDraws) : Life (visited ctx d s) :=
  ⟨(h.toService.executeCycle _ _ d).recordQuality _,
    (visited_balanced_iff hrun h.verdicts d).mpr h.noSetup⟩

theorem Life.recoverSensors {s : WorkCenter} (h : Life s) (rec : DynamicsDraws) (i : Nat) :
    Life (recoverSensors rec i s) :=
  ⟨⟨h.noSetup,h.noMaintenance,h.idle,h.running,h.uptime,h.cycles,h.failures,h.noFailure,h.repair,
    h.downtime,h.setup,h.tool⟩,h.verdicts⟩

/-- A station that is broken down has no cycles since its repair, and some before. -/
theorem Life.completeRepair {s : WorkCenter} (h : Life s) (hstate : s.state = .breakdown) :
    Life s.completeRepair := by
  have hworked : s.totalCycles ≠ 0 := by
    intro hzero
    rw [h.idle.mpr hzero] at hstate
    cases hstate
  have hstopped : ¬ 0 < s.uptimeSinceRepair := by
    intro hpos
    rw [h.running.mpr hpos] at hstate
    cases hstate
  refine ⟨⟨?_,?_,?_,?_,h.uptime,h.cycles,h.failures,h.noFailure,h.repair,h.downtime,h.setup,
    h.tool⟩,h.verdicts⟩
  · simp [WorkCenter.completeRepair]
  · simp [WorkCenter.completeRepair]
  · exact iff_of_false (by simp [WorkCenter.completeRepair]) hworked
  · exact iff_of_false (by simp [WorkCenter.completeRepair]) hstopped

theorem Life.repairStation {s : WorkCenter} (h : Life s) (rec : DynamicsDraws) (i : Nat) :
    Life (repairStation rec i s) := by
  unfold AgentRuntime.repairStation
  split
  · rename_i hrepair
    exact h.completeRepair hrepair.1
  · exact h

theorem Life.triggerBreakdown {s : WorkCenter} (h : Life s) (hrun : s.state = .running)
    (repair : Uniform 300 1200) : Life (s.triggerBreakdown repair.val) := by
  have hup := h.running.mp hrun
  have hcycles := h.cycles
  obtain ⟨hnonneg,hfailures⟩ := h.failures
  obtain ⟨hlow,hhigh⟩ := h.repair
  have hmin := repair.lo_le
  have hmax := repair.le_hi
  refine ⟨⟨by simp [WorkCenter.triggerBreakdown],by simp [WorkCenter.triggerBreakdown],?_,?_,
    le_refl _,?_,?_,?_,?_,?_,h.setup,h.tool⟩,h.verdicts⟩
  · refine iff_of_false (by simp [WorkCenter.triggerBreakdown]) ?_
    change s.totalCycles ≠ 0
    omega
  · exact iff_of_false (by simp [WorkCenter.triggerBreakdown]) (lt_irrefl _)
  · change s.totalCycles + 0 = s.totalCycles
    omega
  · change 0 ≤ s.failureCount + 1 ∧ s.failureCount + 1 ≤ s.totalCycles
    omega
  · intro hzero
    change s.failureCount + 1 = 0 at hzero
    omega
  · change 300 * ((s.failureCount + 1 : Int) : ℚ) ≤ s.totalRepairSec + repair.val ∧
      s.totalRepairSec + repair.val ≤ 1200 * ((s.failureCount + 1 : Int) : ℚ)
    push_cast
    constructor <;> linarith
  · change s.downtimeSec + repair.val = s.totalRepairSec + repair.val
    rw [h.downtime]

theorem Life.worn {s : WorkCenter} (h : Life s) {cycles : Int} (hcycles : 0 ≤ cycles) :
    Life (StationEvent.apply (.toolWearSpike cycles) s) := by
  refine ⟨⟨h.noSetup,h.noMaintenance,h.idle,h.running,h.uptime,h.cycles,h.failures,h.noFailure,
    h.repair,h.downtime,h.setup,?_⟩,h.verdicts⟩
  have htool := h.tool
  change s.totalCycles ≤ s.tool.currentLife + cycles
  omega

theorem truncate_nonneg {q : ℚ} (h : 0 ≤ q) : 0 ≤ truncate q := by
  unfold truncate
  rw [if_pos h]
  exact Int.floor_nonneg.mpr h

theorem Moved.life {s s' : WorkCenter} (hmoved : Moved s s') (h : Life s) : Life s' := by
  cases hmoved with
  | same => exact h
  | worked hrun => exact ((h.visited hrun _ _).recoverSensors _ _).repairStation _ _
  | waited => exact (h.recoverSensors _ _).repairStation _ _
  | broke hrun repair => exact h.triggerBreakdown hrun repair
  | worn spike => exact h.worn (truncate_nonneg (le_trans (by norm_num) spike.lo_le))
  | drifted sensor drift =>
    exact ⟨⟨h.noSetup,h.noMaintenance,h.idle,h.running,h.uptime,h.cycles,h.failures,h.noFailure,
      h.repair,h.downtime,h.setup,h.tool⟩,h.verdicts⟩
  | sped pct =>
    exact ⟨⟨h.noSetup,h.noMaintenance,h.idle,h.running,h.uptime,h.cycles,h.failures,h.noFailure,
      h.repair,h.downtime,h.setup,h.tool⟩,h.verdicts⟩

/-! ### The turns of its state -/

/-- The changes of state that the runtime makes. -/
inductive Turn : MachineState → MachineState → Prop
  | starts : Turn .idle .running
  | fails : Turn .running .breakdown
  | repaired : Turn .breakdown .warmup
  | resumes : Turn .warmup .running

/-- The station keeps its state or makes one turn, and counts a failure where it fails. -/
structure Turned (s s' : WorkCenter) : Prop where
  state : s'.state = s.state ∨ Turn s.state s'.state
  failures : s'.failureCount =
    s.failureCount + if s.state = .running ∧ s'.state = .breakdown then 1 else 0

theorem Turned.kept {s s' : WorkCenter} (hstate : s'.state = s.state)
    (hfailures : s'.failureCount = s.failureCount) : Turned s s' := by
  refine ⟨.inl hstate,?_⟩
  rw [hfailures, hstate, if_neg, add_zero]
  rintro ⟨hrun,hbroken⟩
  rw [hrun] at hbroken
  cases hbroken

theorem repairStation_turned {s t : WorkCenter} {rec : DynamicsDraws} {i : Nat}
    (hstate : t.state = s.state) (hfailures : t.failureCount = s.failureCount) :
    Turned s (repairStation rec i t) := by
  unfold AgentRuntime.repairStation
  split
  · rename_i hrepair
    rw [hstate] at hrepair
    refine ⟨.inr ?_,?_⟩
    · rw [hrepair.1]
      exact .repaired
    · change t.failureCount = _
      simp [hfailures, WorkCenter.completeRepair]
  · exact .kept hstate hfailures

/-- A station that works runs afterwards, so that it is not repaired in the same tick. -/
theorem worked_turned {s : WorkCenter} (h : Life s) (hrun : ¬ Stopped s) (ctx : LineContext)
    (d : StationDraws) (rec : DynamicsDraws) (i : Nat) :
    Turned s (repairStation rec i (recoverSensors rec i (visited ctx d s))) := by
  have hruns : (recoverSensors rec i (visited ctx d s)).state = .running :=
    (visited_processed hrun h.noSetup d).2
  have hsame : (recoverSensors rec i (visited ctx d s)).failureCount = s.failureCount := by
    change ((s.executeCycle ctx.shiftFactor ctx.ambientTemp d).1.recordQuality
      (verdict ctx d s)).failureCount = s.failureCount
    unfold WorkCenter.executeCycle
    cases verdict ctx d s <;> split <;> rfl
  have hkept : repairStation rec i (recoverSensors rec i (visited ctx d s)) =
      recoverSensors rec i (visited ctx d s) := by
    unfold AgentRuntime.repairStation
    rw [if_neg (by simp [hruns])]
  rw [hkept]
  refine ⟨?_,by simp [hruns, hsame]⟩
  rw [hruns]
  cases hstate : s.state with
  | running => exact .inl rfl
  | idle => exact .inr .starts
  | warmup => exact .inr .resumes
  | setup => exact absurd hstate h.noSetup
  | breakdown => exact absurd (.inl hstate) hrun
  | maintenance => exact absurd (.inr hstate) hrun

theorem Moved.turned {s s' : WorkCenter} (hmoved : Moved s s') (h : Life s) : Turned s s' := by
  cases hmoved with
  | same => exact .kept rfl rfl
  | worked hrun => exact worked_turned h hrun _ _ _ _
  | waited => exact repairStation_turned rfl rfl
  | broke hrun repair =>
    refine ⟨.inr ?_,?_⟩
    · rw [hrun]
      exact .fails
    · rw [if_pos ⟨hrun,rfl⟩]
      rfl
  | _ => exact .kept rfl rfl

/-! ### Any number of events -/

def LineLife (s : LoopState) : Prop := ∀ wc ∈ s.factory.line, Life wc

theorem apply_life (s : LoopState) (e : LoopEvent) (h : LineLife s) : LineLife (e.apply s) :=
  Pointwise.forall_of_forall₂ (apply_moves s e) (fun _ _ hmoved => hmoved.life) h

theorem new_lineLife (d : InitDraws) : LineLife (.new d) := by
  intro wc hwc
  change wc ∈ createProductionLine at hwc
  simp only [createProductionLine, List.mem_cons, List.not_mem_nil, or_false] at hwc
  rcases hwc with rfl | rfl | rfl | rfl | rfl | rfl <;> exact new_life _ _ _ _ _ _

/-- At every event each station keeps its state or makes one turn. -/
def LineTurned (s : LoopState) (e : LoopEvent) : Prop :=
  List.Forall₂ Turned s.factory.line (e.apply s).factory.line

theorem apply_turned (s : LoopState) (e : LoopEvent) (h : LineLife s) : LineTurned s e := by
  have hmoves := apply_moves s e
  unfold LineTurned
  unfold LineLife at h
  generalize (e.apply s).factory.line = line' at hmoves ⊢
  generalize s.factory.line = line at hmoves h ⊢
  induction hmoves with
  | nil => exact .nil
  | cons hmoved _ ih =>
    obtain ⟨hs,hrest⟩ := List.forall_mem_cons.mp h
    exact .cons (hmoved.turned hs) (ih hrest)

/-- On every run of the runtime all stations keep the books of their life, and at every event
each of them keeps its state or makes one turn. -/
theorem station_life (d : InitDraws) (es : List LoopEvent) :
    Runs.Always LoopEvent.apply LineLife (.new d) es ∧
      Runs.Along LoopEvent.apply LineTurned (.new d) es := by
  have halways : Runs.Always LoopEvent.apply LineLife (LoopState.new d) es :=
    Runs.always_invariant apply_life (new_lineLife d)
  refine ⟨halways,?_⟩
  exact Runs.along_of_always apply_turned halways

end ManufacturingMas.Proofs.StationLife
