import ManufacturingMas.Lib.Runs
import ManufacturingMas.Runtime.FactoryEvents

/-! The effectiveness a work center reports: when it is the product of the factors
reported with it, and which parts of a history it depends on. -/

namespace ManufacturingMas.Proofs.OeeFactors
open Py Machines FactoryEvents Runs

/-- The reported numbers before their rounding. -/
def unrounded (wc : WorkCenter) : Oee :=
  let availability := if 0 < wc.plannedTimeSec then wc.runTimeSec / wc.plannedTimeSec else 1
  let performance :=
    if 0 < wc.runTimeSec then wc.totalCycles * wc.designCycleTime / wc.runTimeSec else 1
  let quality : ℚ := if 0 < wc.totalCycles then wc.goodCount / wc.totalCycles else 1
  { availability := min 1 availability
    performance := min 1 performance
    quality := min 1 quality
    oee := min 1 (availability * performance * quality) }

def rounded (o : Oee) : Oee :=
  { availability := roundTo 4 o.availability
    performance := roundTo 4 o.performance
    quality := roundTo 4 o.quality
    oee := roundTo 4 o.oee }

theorem oee_eq_rounded (wc : WorkCenter) : wc.oee = rounded (unrounded wc) := by
  unfold WorkCenter.oee rounded unrounded
  rfl

/-- The effectiveness is the product of the three factors. -/
def IsProduct (o : Oee) : Prop := o.oee = o.availability * o.performance * o.quality

instance (o : Oee) : Decidable (IsProduct o) := inferInstanceAs (Decidable (_ = _))

/-! ### What a history accumulates -/

/-- Every cycle plans the design time and runs for the design time at the speed of
its moment, which lies between 40 and 110 percent. -/
structure Accounted (wc : WorkCenter) : Prop where
  rate : wc.cycleTimeSec = wc.designCycleTime
  speedLow : 40 ≤ wc.speedPct
  speedHigh : wc.speedPct ≤ 110
  cycles : 0 ≤ wc.totalCycles
  good : 0 ≤ wc.goodCount
  planned : wc.plannedTimeSec = wc.totalCycles * wc.designCycleTime
  run : ∃ k : ℚ, wc.runTimeSec = k * wc.designCycleTime ∧
    wc.totalCycles * (10/11) ≤ k ∧ k ≤ wc.totalCycles * (5/2)

theorem new_accounted (stationId name stationType : String) (cycleTimeSec : ℚ)
    (sensors : List (String × RealisticSensor)) (tool : ToolWear) :
    Accounted (.new stationId name stationType cycleTimeSec sensors tool) := by
  refine ⟨rfl,?_,?_,le_refl 0,le_refl 0,?_,0,?_,?_,?_⟩ <;> simp [WorkCenter.new]

/-- A cycle at a speed between 40 and 110 percent takes 10/11 to 5/2 of its design time. -/
theorem cycle_share {speed : Int} (hlow : 40 ≤ speed) (hhigh : speed ≤ 110) :
    (10/11 : ℚ) ≤ 100 / (max 40 speed : Int) ∧ (100 / (max 40 speed : Int) : ℚ) ≤ 5/2 := by
  have hlow' : (40 : ℚ) ≤ speed := by exact_mod_cast hlow
  have hhigh' : (speed : ℚ) ≤ 110 := by exact_mod_cast hhigh
  have hpos : (0 : ℚ) < speed := by linarith
  rw [max_eq_right hlow]
  constructor
  · rw [le_div_iff₀ hpos]
    linarith
  · rw [div_le_iff₀ hpos]
    linarith

theorem Accounted.executeCycle {wc : WorkCenter} (h : Accounted wc) (shift ambient : ℚ)
    (d : StationDraws) : Accounted (wc.executeCycle shift ambient d).1 := by
  unfold WorkCenter.executeCycle
  split
  · exact h
  · obtain ⟨k,hk,hmin,hmax⟩ := h.run
    obtain ⟨hshort,hlong⟩ := cycle_share h.speedLow h.speedHigh
    have hcycles := h.cycles
    refine ⟨h.rate,h.speedLow,h.speedHigh,?_,h.good,?_,
      k + 100 / (max 40 wc.speedPct : Int),?_,?_,?_⟩
    · change 0 ≤ wc.totalCycles + 1
      omega
    · change wc.plannedTimeSec + wc.designCycleTime =
        (wc.totalCycles + 1 : Int) * wc.designCycleTime
      rw [h.planned]
      push_cast
      ring
    · change wc.runTimeSec + wc.cycleTimeSec * (100 / (max 40 wc.speedPct : Int)) =
        _ * wc.designCycleTime
      rw [hk, h.rate]
      ring
    · change ((wc.totalCycles + 1 : Int) : ℚ) * (10/11) ≤ _
      push_cast at hshort ⊢
      linarith
    · change _ ≤ ((wc.totalCycles + 1 : Int) : ℚ) * (5/2)
      push_cast at hlong ⊢
      linarith

theorem Accounted.recordQuality {wc : WorkCenter} (h : Accounted wc) (isGood : Bool) :
    Accounted (wc.recordQuality isGood) := by
  cases isGood with
  | true =>
    refine ⟨h.rate,h.speedLow,h.speedHigh,h.cycles,?_,h.planned,h.run⟩
    change 0 ≤ wc.goodCount + 1
    have hgood := h.good
    omega
  | false => exact ⟨h.rate,h.speedLow,h.speedHigh,h.cycles,h.good,h.planned,h.run⟩

theorem Accounted.event {wc : WorkCenter} (h : Accounted wc) (e : StationEvent) :
    Accounted (e.apply wc) := by
  obtain ⟨hrate,hlow,hhigh,hcycles,hgood,hplanned,hrun⟩ := h
  cases e with
  | setSpeed pct =>
    refine ⟨hrate,?_,?_,hcycles,hgood,hplanned,hrun⟩
    · change 40 ≤ max 40 (min 110 pct)
      omega
    · change max 40 (min 110 pct) ≤ 110
      omega
  | _ => exact ⟨hrate,hlow,hhigh,hcycles,hgood,hplanned,hrun⟩

theorem accounted_step (wc : WorkCenter) (op : StationOp) (h : Accounted wc) :
    Accounted (op.apply wc) := by
  cases op with
  | executeCycle shift ambient d => exact h.executeCycle shift ambient d
  | recordQuality isGood => exact h.recordQuality isGood
  | event e => exact h.event e

/-! ### The product of the factors -/

/-- Where something was planned, time was run and the uncapped availability and
performance are inverse to each other. -/
theorem Accounted.quotients {wc : WorkCenter} (h : Accounted wc) (hp : 0 < wc.plannedTimeSec) :
    0 < wc.totalCycles ∧ 0 < wc.runTimeSec ∧
      wc.totalCycles * wc.designCycleTime = wc.plannedTimeSec := by
  obtain ⟨k,hk,hmin,hmax⟩ := h.run
  have hplanned := h.planned
  have hcycles : 0 < wc.totalCycles := by
    rcases h.cycles.eq_or_lt with hzero | hlt
    · rw [hplanned, ← hzero] at hp
      simp at hp
    · exact hlt
  have hcast : (0 : ℚ) < wc.totalCycles := by exact_mod_cast hcycles
  have hdesign : 0 < wc.designCycleTime := by
    rw [hplanned] at hp
    exact (mul_pos_iff_of_pos_left hcast).mp hp
  have hpos : 0 < k := by linarith
  refine ⟨hcycles,?_,hplanned.symm⟩
  rw [hk]
  exact mul_pos hpos hdesign

/-- Nothing planned: nothing run either. -/
theorem Accounted.idle {wc : WorkCenter} (h : Accounted wc) (hp : wc.plannedTimeSec ≤ 0) :
    wc.runTimeSec ≤ 0 := by
  obtain ⟨k,hk,hmin,hmax⟩ := h.run
  have hcycles : (0 : ℚ) ≤ wc.totalCycles := by exact_mod_cast h.cycles
  have hkpos : 0 ≤ k := by linarith
  rw [hk]
  rw [h.planned] at hp
  rcases hcycles.eq_or_lt with hzero | hpos
  · have hk0 : k = 0 := by
      rw [← hzero] at hmax
      linarith
    simp [hk0]
  · have hdesign : wc.designCycleTime ≤ 0 := by
      by_contra hcontra
      have := mul_pos hpos (not_le.mp hcontra)
      linarith
    exact mul_nonpos_of_nonneg_of_nonpos hkpos hdesign

/-- A quotient and its inverse, both capped at one, have product one only at one. -/
theorem capped_inverse_eq_one {a : ℚ} (ha : 0 < a) : min 1 a * min 1 a⁻¹ = 1 ↔ a = 1 := by
  constructor
  · intro h
    rcases le_total a 1 with hle | hge
    · rw [min_eq_right hle, min_eq_left (one_le_inv₀ ha |>.mpr hle), mul_one] at h
      exact h
    · rw [min_eq_left hge, min_eq_right (inv_le_one_of_one_le₀ hge), one_mul] at h
      exact inv_eq_one.mp h
  · intro h
    rw [h]
    norm_num

theorem capped_quotient_eq_zero {n d : ℚ} (hd : d ≠ 0) : min 1 (n / d) = 0 ↔ n = 0 := by
  constructor
  · intro hmin
    rcases min_choice (1 : ℚ) (n / d) with hm | hm
    · rw [hm] at hmin
      exact absurd hmin one_ne_zero
    · rw [hm] at hmin
      exact (div_eq_zero_iff.mp hmin).resolve_right hd
  · intro hzero
    simp [hzero]

theorem isProduct_iff {wc : WorkCenter} (h : Accounted wc) :
    IsProduct (unrounded wc) ↔
      wc.plannedTimeSec ≤ 0 ∨ wc.runTimeSec = wc.plannedTimeSec ∨ wc.goodCount = 0 := by
  rcases le_or_gt wc.plannedTimeSec 0 with hp | hp
  · refine iff_of_true ?_ (Or.inl hp)
    unfold IsProduct unrounded
    simp [not_lt.mpr hp, not_lt.mpr (h.idle hp)]
  · obtain ⟨hcycles,hrun,hplanned⟩ := h.quotients hp
    have hcast : (wc.totalCycles : ℚ) ≠ 0 := by exact_mod_cast hcycles.ne'
    have ha : 0 < wc.runTimeSec / wc.plannedTimeSec := div_pos hrun hp
    have hinv : wc.plannedTimeSec / wc.runTimeSec = (wc.runTimeSec / wc.plannedTimeSec)⁻¹ :=
      (inv_div _ _).symm
    have hone : wc.runTimeSec / wc.plannedTimeSec = 1 ↔ wc.runTimeSec = wc.plannedTimeSec :=
      div_eq_one_iff_eq hp.ne'
    have hgood : min 1 ((wc.goodCount : ℚ) / wc.totalCycles) = 0 ↔ wc.goodCount = 0 :=
      (capped_quotient_eq_zero hcast).trans Int.cast_eq_zero
    unfold IsProduct unrounded
    simp only [if_pos hp, if_pos hrun, if_pos hcycles, hplanned, hinv, mul_inv_cancel₀ ha.ne',
      one_mul]
    rw [← hone, ← hgood, ← capped_inverse_eq_one ha]
    generalize min 1 ((wc.goodCount : ℚ) / wc.totalCycles) = q
    generalize min 1 (wc.runTimeSec / wc.plannedTimeSec) *
      min 1 (wc.runTimeSec / wc.plannedTimeSec)⁻¹ = ap
    rw [or_iff_right (not_le.mpr hp), eq_comm]
    exact mul_left_eq_self₀

/-! ### The reported numbers -/

/-- The three factors lie between zero and one. -/
structure Fractions (o : Oee) : Prop where
  availability : 0 ≤ o.availability ∧ o.availability ≤ 1
  performance : 0 ≤ o.performance ∧ o.performance ≤ 1
  quality : 0 ≤ o.quality ∧ o.quality ≤ 1

theorem Accounted.fractions {wc : WorkCenter} (h : Accounted wc) : Fractions (unrounded wc) := by
  have hgood : (0 : ℚ) ≤ wc.goodCount := by exact_mod_cast h.good
  have hcycles : (0 : ℚ) ≤ wc.totalCycles := by exact_mod_cast h.cycles
  refine ⟨⟨le_min zero_le_one ?_,min_le_left _ _⟩,⟨le_min zero_le_one ?_,min_le_left _ _⟩,
    ⟨le_min zero_le_one ?_,min_le_left _ _⟩⟩
  · split
    · rename_i hp
      exact (div_pos (h.quotients hp).2.1 hp).le
    · exact zero_le_one
  · split
    · rename_i hrun
      have hp : 0 < wc.plannedTimeSec := by
        by_contra hcontra
        exact absurd hrun (not_lt.mpr (h.idle (not_lt.mp hcontra)))
      rw [(h.quotients hp).2.2]
      exact (div_pos hp hrun).le
    · exact zero_le_one
  · split
    · exact div_nonneg hgood hcycles
    · exact zero_le_one

theorem Fractions.rounded {o : Oee} (h : Fractions o) : Fractions (rounded o) :=
  ⟨⟨roundTo_nonneg 4 h.availability.1,roundTo_le_one 4 h.availability.2⟩,
    ⟨roundTo_nonneg 4 h.performance.1,roundTo_le_one 4 h.performance.2⟩,
    ⟨roundTo_nonneg 4 h.quality.1,roundTo_le_one 4 h.quality.2⟩⟩

/-- Between zero and one, errors of factors add up at most. -/
theorem mul_error {x y u v : ℚ} (hy : 0 ≤ y ∧ y ≤ 1) (hu : 0 ≤ u ∧ u ≤ 1) :
    |x * u - y * v| ≤ |x - y| + |u - v| := by
  have hsplit : x * u - y * v = (x - y) * u + y * (u - v) := by ring
  have hleft : |x - y| * |u| ≤ |x - y| := by
    rw [abs_of_nonneg hu.1]
    exact mul_le_of_le_one_right (abs_nonneg _) hu.2
  have hright : |y| * |u - v| ≤ |u - v| := by
    rw [abs_of_nonneg hy.1]
    exact mul_le_of_le_one_left (abs_nonneg _) hy.2
  calc |x * u - y * v| = |(x - y) * u + y * (u - v)| := by rw [hsplit]
    _ ≤ |(x - y) * u| + |y * (u - v)| := abs_add_le _ _
    _ = |x - y| * |u| + |y| * |u - v| := by rw [abs_mul, abs_mul]
    _ ≤ |x - y| + |u - v| := add_le_add hleft hright

/-- What the rounding of four numbers to four decimals can take a product apart. -/
theorem rounded_product {o : Oee} (hf : Fractions o) (h : IsProduct o) :
    |(rounded o).oee - (rounded o).availability * (rounded o).performance * (rounded o).quality| ≤
      2 / 10 ^ 4 := by
  have hr := hf.rounded
  have hap := mul_error (x := o.availability) (v := (rounded o).performance) hr.availability
    hf.performance
  have hprod : 0 ≤ (rounded o).availability * (rounded o).performance ∧
      (rounded o).availability * (rounded o).performance ≤ 1 :=
    ⟨mul_nonneg hr.availability.1 hr.performance.1,
      mul_le_one₀ hr.availability.2 hr.performance.1 hr.performance.2⟩
  have hapq := mul_error (x := o.availability * o.performance) (v := (rounded o).quality) hprod
    hf.quality
  have ha := abs_roundTo_sub_le 4 o.availability
  have hp := abs_roundTo_sub_le 4 o.performance
  have hq := abs_roundTo_sub_le 4 o.quality
  have ho := abs_roundTo_sub_le 4 o.oee
  rw [abs_sub_comm] at ha hp hq
  unfold IsProduct at h
  have htri := abs_sub_le (roundTo 4 o.oee) o.oee
    ((rounded o).availability * (rounded o).performance * (rounded o).quality)
  rw [h] at htri
  rw [h] at ho
  unfold rounded at *
  dsimp only at *
  rw [h]
  norm_num at *
  linarith

/-- After every history the reported effectiveness is the product of the reported
factors, but for rounding, exactly if nothing was planned, or the cycles ran for the
planned time in sum, or no good unit was recorded. -/
theorem oee_product_iff (stationId name stationType : String) (cycleTimeSec : ℚ)
    (sensors : List (String × RealisticSensor)) (tool : ToolWear) (ops : List StationOp) :
    let wc := run StationOp.apply (.new stationId name stationType cycleTimeSec sensors tool) ops
    wc.oee = rounded (unrounded wc) ∧
    (IsProduct (unrounded wc) ↔
      wc.plannedTimeSec ≤ 0 ∨ wc.runTimeSec = wc.plannedTimeSec ∨ wc.goodCount = 0) ∧
    (wc.plannedTimeSec ≤ 0 ∨ wc.runTimeSec = wc.plannedTimeSec ∨ wc.goodCount = 0 →
      |wc.oee.oee - wc.oee.availability * wc.oee.performance * wc.oee.quality| ≤ 2 / 10 ^ 4) := by
  intro wc
  have haccounted : Accounted wc :=
    run_invariant accounted_step
      (new_accounted stationId name stationType cycleTimeSec sensors tool)
  refine ⟨oee_eq_rounded wc,isProduct_iff haccounted,?_⟩
  intro hcase
  rw [oee_eq_rounded]
  exact rounded_product haccounted.fractions ((isProduct_iff haccounted).mpr hcase)

def quiet : StationDraws :=
  { toolNoise := 0, innovation := fun _ => 0, powerNoise := 0,
    judge := ⟨1/4,by norm_num,by norm_num⟩, rework := ⟨1/4,by norm_num,by norm_num⟩ }

/-- The press at half speed makes one good part: the performance is reported as one
half and the effectiveness as one. -/
theorem half_speed_reports_one :
    let wc := run StationOp.apply (createBlankingPress "WC-01")
      [.event (.setSpeed 50), .executeCycle 1 22 quiet, .recordQuality true]
    wc.oee = { availability := 1, performance := 1/2, quality := 1, oee := 1 } ∧
    ¬ IsProduct (unrounded wc) := by
  constructor <;> decide +kernel

/-! ### Downtime -/

/-- What the effectiveness can depend on: the cycles that were really executed, each
with its speed, and the verdicts. -/
inductive Effect where
  | cycle (speedPct : Int)
  | verdict (isGood : Bool)
deriving DecidableEq, Repr

def effects (wc : WorkCenter) : StationOp → List Effect
  | .executeCycle _ _ _ =>
    if wc.state = .breakdown ∨ wc.state = .maintenance ∨ wc.state = .setup then []
    else [.cycle wc.speedPct]
  | .recordQuality isGood => [.verdict isGood]
  | .event _ => []

/-- The repair times of the breakdowns of a history. -/
def repairTimes (ops : List StationOp) : List ℚ :=
  ops.filterMap fun op =>
    match op with
    | .event (.triggerBreakdown repairTimeSec) => some repairTimeSec
    | _ => none

/-- The totals that the effectiveness is computed from. -/
structure Totals where
  plannedTimeSec : ℚ
  runTimeSec : ℚ
  totalCycles : Int
  goodCount : Int

def totals (wc : WorkCenter) : Totals :=
  { plannedTimeSec := wc.plannedTimeSec, runTimeSec := wc.runTimeSec,
    totalCycles := wc.totalCycles, goodCount := wc.goodCount }

/-- The totals after one more effect, for a station's cycle and design time. -/
def Totals.add (cycleTimeSec designCycleTime : ℚ) (t : Totals) : Effect → Totals
  | .cycle speedPct =>
    { t with
      runTimeSec := t.runTimeSec + cycleTimeSec * (100 / (max 40 speedPct : Int))
      plannedTimeSec := t.plannedTimeSec + designCycleTime
      totalCycles := t.totalCycles + 1 }
  | .verdict isGood => if isGood then { t with goodCount := t.goodCount + 1 } else t

theorem step_totals (wc : WorkCenter) (op : StationOp) :
    (op.apply wc).cycleTimeSec = wc.cycleTimeSec ∧
    (op.apply wc).designCycleTime = wc.designCycleTime ∧
    totals (op.apply wc) =
      (effects wc op).foldl (Totals.add wc.cycleTimeSec wc.designCycleTime) (totals wc) := by
  cases op with
  | executeCycle shift ambient d =>
    unfold StationOp.apply effects WorkCenter.executeCycle
    dsimp only
    split
    · exact ⟨rfl,rfl,rfl⟩
    · exact ⟨rfl,rfl,rfl⟩
  | recordQuality isGood => cases isGood <;> exact ⟨rfl,rfl,rfl⟩
  | event e => cases e <;> exact ⟨rfl,rfl,rfl⟩

/-- A history adds its effects to the totals and nothing else. -/
theorem run_totals (wc : WorkCenter) (ops : List StationOp) :
    (run StationOp.apply wc ops).designCycleTime = wc.designCycleTime ∧
    totals (run StationOp.apply wc ops) =
      (outputs StationOp.apply effects wc ops).foldl
        (Totals.add wc.cycleTimeSec wc.designCycleTime) (totals wc) := by
  induction ops generalizing wc with
  | nil => exact ⟨rfl,rfl⟩
  | cons op ops ih =>
    obtain ⟨hcycle,hdesign,htotals⟩ := step_totals wc op
    obtain ⟨hrest,hrun⟩ := ih (op.apply wc)
    rw [hcycle, hdesign, htotals] at hrun
    rw [hdesign] at hrest
    refine ⟨hrest,?_⟩
    rw [outputs, List.foldl_append]
    exact hrun

theorem oee_of_totals {wc wc' : WorkCenter} (hdesign : wc.designCycleTime = wc'.designCycleTime)
    (h : totals wc = totals wc') : wc.oee = wc'.oee := by
  unfold totals at h
  injection h with hplanned hrun hcycles hgood
  unfold WorkCenter.oee
  rw [hplanned, hrun, hcycles, hgood, hdesign]

/-- Two histories of one station with the same executed cycles, speeds and verdicts,
at full speed at least, the second with one more breakdown to repair. -/
structure OneMoreBreakdown (wc : WorkCenter) (ops ops' : List StationOp) : Prop where
  same : outputs StationOp.apply effects wc ops = outputs StationOp.apply effects wc ops'
  executed : ∃ speedPct, .cycle speedPct ∈ outputs StationOp.apply effects wc ops
  fullSpeed : ∀ speedPct, .cycle speedPct ∈ outputs StationOp.apply effects wc ops → 100 ≤ speedPct
  breakdown : ∃ repairTimeSec, 0 < repairTimeSec ∧
    (repairTimes ops').Perm (repairTimeSec :: repairTimes ops)

/-- The availability is lower and the effectiveness not higher. -/
def Lowered (o o' : Oee) : Prop := o'.availability < o.availability ∧ o'.oee ≤ o.oee

/-- One more breakdown never lowers the availability: the two histories report the
same numbers. -/
theorem downtime_not_lowering (wc : WorkCenter) (ops ops' : List StationOp)
    (h : OneMoreBreakdown wc ops ops') :
    (run StationOp.apply wc ops').oee = (run StationOp.apply wc ops).oee ∧
    ¬ Lowered (run StationOp.apply wc ops).oee (run StationOp.apply wc ops').oee := by
  obtain ⟨hdesign,htotals⟩ := run_totals wc ops
  obtain ⟨hdesign',htotals'⟩ := run_totals wc ops'
  have hsame : (run StationOp.apply wc ops').oee = (run StationOp.apply wc ops).oee := by
    apply oee_of_totals
    · rw [hdesign', hdesign]
    · rw [htotals', htotals, h.same]
  refine ⟨hsame,?_⟩
  intro hlow
  rw [hsame] at hlow
  exact lt_irrefl _ hlow.1

/-- A press that runs one cycle, and the same press that then breaks down for ten
minutes and is repaired. -/
theorem press_one_more_breakdown :
    OneMoreBreakdown (createBlankingPress "WC-01") [.executeCycle 1 22 quiet, .recordQuality true]
      [.executeCycle 1 22 quiet, .recordQuality true, .event (.triggerBreakdown 600),
        .event .completeRepair] := by
  have heffects : outputs StationOp.apply effects (createBlankingPress "WC-01")
      [.executeCycle 1 22 quiet, .recordQuality true] = [.cycle 100, .verdict true] := by
    decide +kernel
  refine ⟨?_,⟨100,?_⟩,?_,600,by norm_num,?_⟩
  · decide +kernel
  · rw [heffects]
    exact List.mem_cons_self
  · intro speedPct hmem
    rw [heffects] at hmem
    simp at hmem
    omega
  · exact List.Perm.refl _

theorem downtime_not_lowering_press :
    ¬ Lowered
      (run StationOp.apply (createBlankingPress "WC-01")
        [.executeCycle 1 22 quiet, .recordQuality true]).oee
      (run StationOp.apply (createBlankingPress "WC-01")
        [.executeCycle 1 22 quiet, .recordQuality true, .event (.triggerBreakdown 600),
          .event .completeRepair]).oee :=
  (downtime_not_lowering _ _ _ press_one_more_breakdown).2

/-- Ten minutes of repair after one cycle leave the availability at one. -/
theorem breakdown_keeps_availability :
    OneMoreBreakdown (createBlankingPress "WC-01") [.executeCycle 1 22 quiet, .recordQuality true]
      [.executeCycle 1 22 quiet, .recordQuality true, .event (.triggerBreakdown 600),
        .event .completeRepair] ∧
    (run StationOp.apply (createBlankingPress "WC-01")
      [.executeCycle 1 22 quiet, .recordQuality true]).oee.availability = 1 ∧
    (run StationOp.apply (createBlankingPress "WC-01")
      [.executeCycle 1 22 quiet, .recordQuality true, .event (.triggerBreakdown 600),
        .event .completeRepair]).oee.availability = 1 :=
  ⟨press_one_more_breakdown,by decide +kernel,by decide +kernel⟩

end ManufacturingMas.Proofs.OeeFactors
