import ManufacturingMas.Domain.FactorySnapshot
import ManufacturingMas.Proofs.FirstPassYield
import ManufacturingMas.Proofs.OeeFactors
import ManufacturingMas.Proofs.StationLife

/-! The figures a station of the runtime's line reports. Its effectiveness is its yield: the
two factors of time are inverse to each other. -/

namespace ManufacturingMas.Proofs.StationFigures
open Py Machines Environment ScenarioRuntime FactoryLoop FactoryCycle OeeFactors StationLife

variable {s s' : WorkCenter}

/-- The books of a station with a cycle time: of its life, and of its time. -/
structure Booked (s : WorkCenter) : Prop where
  life : Life s
  time : Accounted s
  design : 0 < s.designCycleTime
  defects : 0 ≤ s.defectCount

/-! ### Every move keeps them -/

/-- What the books of the time are about, beside the design time. -/
def timeBooks (s : WorkCenter) : ℚ × Int × Int × Int × ℚ × ℚ :=
  (s.cycleTimeSec,s.speedPct,s.totalCycles,s.goodCount,s.plannedTimeSec,s.runTimeSec)

theorem accounted_kept (hbooks : timeBooks s' = timeBooks s)
    (hdesign : s'.designCycleTime = s.designCycleTime) (h : Accounted s) : Accounted s' := by
  unfold timeBooks at hbooks
  simp only [Prod.mk.injEq] at hbooks
  obtain ⟨hrate,hspeed,hcycles,hgood,hplanned,hrun⟩ := hbooks
  constructor
  · rw [hrate, hdesign]
    exact h.rate
  · rw [hspeed]
    exact h.speedLow
  · rw [hspeed]
    exact h.speedHigh
  · rw [hcycles]
    exact h.cycles
  · rw [hgood]
    exact h.good
  · rw [hplanned, hcycles, hdesign]
    exact h.planned
  · rw [hrun, hcycles, hdesign]
    exact h.run

/-- The dynamics leave what a station has counted. -/
theorem dynamics_kept (rec : DynamicsDraws) (i : Nat) (s : WorkCenter) :
    let t := AgentRuntime.repairStation rec i (AgentRuntime.recoverSensors rec i s)
    timeBooks t = timeBooks s ∧ t.designCycleTime = s.designCycleTime ∧
      t.defectCount = s.defectCount := by
  intro t
  unfold t AgentRuntime.repairStation
  split <;> exact ⟨rfl,rfl,rfl⟩

theorem visited_design (ctx : LineContext) (d : StationDraws) (s : WorkCenter) :
    (visited ctx d s).designCycleTime = s.designCycleTime := by
  unfold visited WorkCenter.executeCycle
  cases verdict ctx d s <;> split <;> rfl

theorem visited_defects (ctx : LineContext) (d : StationDraws) (h : 0 ≤ s.defectCount) :
    0 ≤ (visited ctx d s).defectCount := by
  rw [FirstPassYield.visited_defects]
  split <;> omega

theorem moved_booked (hmoved : Moved s s') (h : Booked s) : Booked s' := by
  have hlife := hmoved.life h.life
  cases hmoved with
  | same => exact h
  | @worked ctx d rec i hrun =>
    obtain ⟨hbooks,hdesign,hdefects⟩ := dynamics_kept rec i (visited ctx d s)
    have htime : Accounted (visited ctx d s) := (h.time.executeCycle _ _ d).recordQuality _
    have hsame := hdesign.trans (visited_design ctx d s)
    exact ⟨hlife,accounted_kept hbooks hdesign htime,hsame.symm ▸ h.design,
      (visited_defects ctx d h.defects).trans_eq hdefects.symm⟩
  | @waited rec i =>
    obtain ⟨hbooks,hdesign,hdefects⟩ := dynamics_kept rec i s
    exact ⟨hlife,accounted_kept hbooks hdesign h.time,hdesign.symm ▸ h.design,
      h.defects.trans_eq hdefects.symm⟩
  | broke hrun repair =>
    exact ⟨hlife,h.time.event (.triggerBreakdown repair.val),h.design,h.defects⟩
  | worn spike => exact ⟨hlife,h.time.event _,h.design,h.defects⟩
  | drifted sensor drift => exact ⟨hlife,h.time.event _,h.design,h.defects⟩
  | sped pct => exact ⟨hlife,h.time.event (.setSpeed pct),h.design,h.defects⟩

/-! ### What the books make of the figures -/

/-- The figures of a station. In floats the effectiveness may be shown one off in its last
place. -/
structure Reported (s : WorkCenter) : Prop where
  oee : s.oee.oee = roundTo 4 s.yieldRate
  inFloats : ∀ x, |x - (unrounded s).oee| ≤ 1/20000 →
    |roundTo 4 x - roundTo 4 s.yieldRate| ≤ 1/10000
  quality : s.oee.quality = roundTo 4 s.yieldRate
  availability : 909/1000 ≤ s.oee.availability
  performance : 2/5 ≤ s.oee.performance
  noFailure : s.failureCount = 0 → s.mtbf = none ∧ s.mttr = 0
  failures : s.failureCount ≠ 0 →
    (∃ m, s.mtbf = some m ∧ s.designCycleTime * (10/11) ≤ m) ∧ 300 ≤ s.mttr ∧ s.mttr ≤ 1200

/-- Verdicts are as many as cycles, so the yield is the quality before its cap. -/
theorem Booked.yieldRate (h : Booked s) :
    s.yieldRate = if 0 < s.totalCycles then (s.goodCount : ℚ) / s.totalCycles else 1 := by
  have hverdicts : s.goodCount + s.defectCount = s.totalCycles := h.life.verdicts
  unfold WorkCenter.yieldRate
  rw [hverdicts]

theorem Booked.yield_le (h : Booked s) : s.yieldRate ≤ 1 := by
  rw [h.yieldRate]
  split
  · rename_i hpos
    have hcast : (0 : ℚ) < s.totalCycles := by exact_mod_cast hpos
    have hverdicts : s.goodCount + s.defectCount = s.totalCycles := h.life.verdicts
    have hdefects := h.defects
    have hgood : (s.goodCount : ℚ) ≤ s.totalCycles := by exact_mod_cast (by omega)
    exact (div_le_one hcast).mpr hgood
  · exact le_refl _

/-- Something was planned exactly if there was a cycle. -/
theorem Booked.planned_pos (h : Booked s) : 0 < s.plannedTimeSec ↔ 0 < s.totalCycles := by
  rw [h.time.planned, mul_pos_iff_of_pos_right h.design]
  exact Int.cast_pos

/-- The capped factors before their rounding. -/
theorem Booked.factors (h : Booked s) :
    (unrounded s).oee = s.yieldRate ∧ (unrounded s).quality = s.yieldRate ∧
      10/11 ≤ (unrounded s).availability ∧ 2/5 ≤ (unrounded s).performance := by
  have hyield := h.yield_le
  have hquality : (unrounded s).quality = s.yieldRate := by
    rw [h.yieldRate] at hyield ⊢
    exact min_eq_right hyield
  by_cases hcycles : 0 < s.totalCycles
  · have hp := h.planned_pos.mpr hcycles
    obtain ⟨_,hrun,hplanned⟩ := h.time.quotients hp
    obtain ⟨k,hk,hmin,hmax⟩ := h.time.run
    have hcast : (0 : ℚ) < s.totalCycles := by exact_mod_cast hcycles
    have hdesign := h.design
    have hinverse : s.runTimeSec / s.plannedTimeSec * (s.plannedTimeSec / s.runTimeSec) = 1 := by
      rw [div_mul_div_comm, mul_comm, div_self (mul_pos hp hrun).ne']
    refine ⟨?_,hquality,?_,?_⟩
    · unfold unrounded
      simp only [if_pos hp, if_pos hrun, hplanned, hinverse, one_mul]
      rw [h.yieldRate] at hyield ⊢
      exact min_eq_right hyield
    · unfold unrounded
      simp only [if_pos hp]
      refine le_min (by norm_num) ?_
      rw [le_div_iff₀ hp, h.time.planned, hk]
      nlinarith only [hmin, hdesign]
    · unfold unrounded
      simp only [if_pos hrun]
      refine le_min (by norm_num) ?_
      rw [le_div_iff₀ hrun, hk]
      nlinarith only [hmax, hdesign]
  · have hp := mt h.planned_pos.mp hcycles
    have hrun : ¬ 0 < s.runTimeSec := not_lt.mpr (h.time.idle (not_lt.mp hp))
    have hone : s.yieldRate = 1 := by rw [h.yieldRate, if_neg hcycles]
    refine ⟨?_,hquality,?_,?_⟩
    · unfold unrounded
      simp [hp, hrun, hcycles, hone]
    · unfold unrounded
      norm_num [hp]
    · unfold unrounded
      norm_num [hrun]

theorem le_roundTo {n : ℤ} {digits : Nat} {q : ℚ} (h : (n : ℚ) / 10 ^ digits ≤ q) :
    (n : ℚ) / 10 ^ digits ≤ roundTo digits q := by
  have hpos : (0 : ℚ) < 10 ^ digits := by positivity
  have hround : n ≤ roundHalfEven (q * 10 ^ digits) := le_roundHalfEven ((div_le_iff₀ hpos).mp h)
  unfold roundTo
  rw [div_le_div_iff_of_pos_right hpos]
  exact_mod_cast hround

/-- Failures are at least one cycle apart, and each has its repair. -/
theorem Booked.failed (h : Booked s) (hfailed : s.failureCount ≠ 0) :
    (∃ m, s.mtbf = some m ∧ s.designCycleTime * (10/11) ≤ m) ∧ 300 ≤ s.mttr ∧ s.mttr ≤ 1200 := by
  obtain ⟨hnonneg,hfailures⟩ := h.life.failures
  have hcycles := h.life.cycles
  have huptime := h.life.uptime
  have hpos : (0 : ℚ) < s.failureCount := by exact_mod_cast (by omega : 0 < s.failureCount)
  have hfew : (s.failureCount : ℚ) ≤ s.totalCycles := by exact_mod_cast (by omega)
  obtain ⟨k,hk,hmin,_⟩ := h.time.run
  obtain ⟨hlow,hhigh⟩ := h.life.repair
  have hdesign := h.design
  refine ⟨⟨_,if_neg hfailed,?_⟩,?_⟩
  · rw [le_div_iff₀ hpos, hk]
    nlinarith only [hmin, hfew, hdesign]
  · unfold WorkCenter.mttr
    rw [if_neg hfailed, le_div_iff₀ hpos, div_le_iff₀ hpos]
    exact ⟨hlow,hhigh⟩

theorem Booked.reported (h : Booked s) : Reported s := by
  obtain ⟨hoee,hquality,havailability,hperformance⟩ := h.factors
  constructor
  · rw [oee_eq_rounded]
    exact congrArg (roundTo 4) hoee
  · intro x hx
    rw [hoee] at hx
    exact (abs_roundTo_sub_roundTo_le (hx.trans_eq (by norm_num))).trans_eq (by norm_num)
  · rw [oee_eq_rounded]
    exact congrArg (roundTo 4) hquality
  · rw [oee_eq_rounded]
    have hround : ((9090 : ℤ) : ℚ) / 10 ^ 4 ≤ roundTo 4 (unrounded s).availability :=
      le_roundTo (le_trans (by norm_num) havailability)
    exact le_trans (by norm_num) hround
  · rw [oee_eq_rounded]
    have hround : ((4000 : ℤ) : ℚ) / 10 ^ 4 ≤ roundTo 4 (unrounded s).performance :=
      le_roundTo (le_trans (by norm_num) hperformance)
    exact le_trans (by norm_num) hround
  · exact fun hzero => ⟨if_pos hzero,if_pos hzero⟩
  · exact h.failed

/-! ### Any number of events -/

def LineBooked (s : LoopState) : Prop := ∀ wc ∈ s.factory.line, Booked wc

theorem apply_booked (s : LoopState) (e : LoopEvent) (h : LineBooked s) : LineBooked (e.apply s) :=
  Pointwise.forall_of_forall₂ (apply_moves s e) (fun _ _ => moved_booked) h

theorem new_booked (stationId name stationType : String) {cycleTimeSec : ℚ}
    (hcycle : 0 < cycleTimeSec) (sensors : List (String × RealisticSensor)) (maxLife : Int) :
    Booked (.new stationId name stationType cycleTimeSec sensors (.new maxLife)) :=
  ⟨new_life _ _ _ _ _ _,new_accounted _ _ _ _ _ _,hcycle,le_refl 0⟩

theorem new_lineBooked (d : InitDraws) : LineBooked (.new d) := by
  intro wc hwc
  change wc ∈ createProductionLine at hwc
  simp only [createProductionLine, List.mem_cons, List.not_mem_nil, or_false] at hwc
  rcases hwc with rfl | rfl | rfl | rfl | rfl | rfl <;> exact new_booked _ _ _ (by norm_num) _ _

def LineReported (s : LoopState) : Prop := ∀ wc ∈ s.factory.line, Reported wc

/-- All along a run each station reports its yield as its effectiveness, whatever its speeds
and its breakdowns were; its availability is above nine tenths, and a repair is reported to
take five to twenty minutes. -/
theorem figures_reported (d : InitDraws) (es : List LoopEvent) :
    Runs.Always LoopEvent.apply LineReported (.new d) es := by
  have hbooked : Runs.Always LoopEvent.apply LineBooked (LoopState.new d) es :=
    Runs.always_invariant apply_booked (new_lineBooked d)
  exact Runs.always_imp apply_booked (fun _ h _ wc hwc => (h wc hwc).reported) (new_lineBooked d)
    hbooked

end ManufacturingMas.Proofs.StationFigures
