import ManufacturingMas.Domain.Environment

/-! Sensors with limits above and below their baseline, against the one comparison
chain that classifies both. -/

namespace ManufacturingMas.Proofs.SensorSides
open Py Machines Environment

/-- The limits lie above the baseline. -/
def Upper (s : RealisticSensor) : Prop :=
  s.baseline < s.warnThreshold ∧ s.warnThreshold < s.criticalThreshold

/-- The limits lie below the baseline, and above zero. -/
def Lower (s : RealisticSensor) : Prop :=
  0 < s.criticalThreshold ∧ s.criticalThreshold < s.warnThreshold ∧ s.warnThreshold < s.baseline

instance (s : RealisticSensor) : Decidable (Upper s) := instDecidableAnd

instance (s : RealisticSensor) : Decidable (Lower s) := instDecidableAnd

/-- The classification by the side on which the limits lie. -/
def sideStatus (s : RealisticSensor) (v : ℚ) : ReadingStatus :=
  if s.baseline < s.warnThreshold then
    if v < s.warnThreshold then .normal
    else if v < s.criticalThreshold then .warning
    else .critical
  else
    if s.warnThreshold < v then .normal
    else if s.criticalThreshold < v then .warning
    else .critical

/-- The reading adds nothing to the defect probability: whatever is read besides,
the verdict is the one without it. -/
def Silent (r : SensorReading) : Prop :=
  ∀ (station : WorkCenter) (before after : Readings) (key : String) (draw : Unit01),
    judgeQuality station (before ++ (key, r) :: after) draw =
      judgeQuality station (before ++ after) draw

theorem silent_of_normal {r : SensorReading} (h : r.status = .normal) : Silent r := by
  intro station before after key draw
  simp [judgeQuality, h]

/-- A read sensor classifies the value it has moved to. -/
theorem read_status (s : RealisticSensor) (innovation wear shift ambient : ℚ) (warmup : Bool) :
    (s.read innovation wear shift ambient warmup).2.status =
      s.classify (s.read innovation wear shift ambient warmup).1.value := by
  simp only [RealisticSensor.read]

theorem classify_upper {s : RealisticSensor} (h : Upper s) {v : ℚ} (hv : 0 ≤ v) :
    s.classify v = sideStatus s v := by
  obtain ⟨hwarn,hcritical⟩ := h
  unfold RealisticSensor.classify sideStatus
  rw [abs_of_nonneg hv, if_pos hwarn]
  by_cases hhigh : s.criticalThreshold ≤ v
  · have hover : s.warnThreshold ≤ v := hcritical.le.trans hhigh
    rw [if_pos hhigh, if_neg (not_lt.mpr hover), if_neg (not_lt.mpr hhigh)]
  · rw [if_neg hhigh]
    by_cases hover : s.warnThreshold ≤ v
    · rw [if_pos hover, if_neg (not_lt.mpr hover), if_pos (not_le.mp hhigh)]
    · rw [if_neg hover, if_pos (not_le.mp hover)]

/-- Below its baseline's side a value is never WARNING, and CRITICAL is all the chain
says of values it should call NORMAL. -/
theorem classify_lower_iff {s : RealisticSensor} (h : Lower s) (v : ℚ) :
    s.classify v = sideStatus s v ↔ v = s.criticalThreshold ∨ v ≤ -s.criticalThreshold := by
  obtain ⟨hpos,hcritical,hwarn⟩ := h
  unfold RealisticSensor.classify sideStatus
  rw [if_neg (not_lt.mpr hwarn.le)]
  by_cases hlow : s.criticalThreshold ≤ |v|
  · rw [if_pos hlow]
    rcases le_abs.mp hlow with hv | hv
    · -- from the critical limit upwards the chain is right only at the limit itself
      rcases hv.eq_or_lt with heq | hlt
      · have hunder : v < s.warnThreshold := heq ▸ hcritical
        rw [if_neg (not_lt.mpr hunder.le), if_neg (not_lt.mpr heq.ge)]
        simp [heq]
      · have hnot : ¬ (v = s.criticalThreshold ∨ v ≤ -s.criticalThreshold) := by
          intro hcase
          rcases hcase with heq | hneg
          · exact hlt.ne' heq
          · linarith
        refine iff_of_false ?_ hnot
        split <;> simp
    · have hneg : v ≤ -s.criticalThreshold := by linarith
      have hunder : v < s.criticalThreshold := by linarith
      rw [if_neg (not_lt.mpr (hunder.trans hcritical).le), if_neg (not_lt.mpr hunder.le)]
      simp [hneg]
  · have hinside := abs_lt.mp (not_le.mp hlow)
    have hnot : ¬ (v = s.criticalThreshold ∨ v ≤ -s.criticalThreshold) := by
      intro hcase
      rcases hcase with heq | hneg
      · exact hinside.2.ne heq
      · exact absurd hinside.1 (not_lt.mpr hneg)
    refine iff_of_false ?_ hnot
    have hunder : v < s.warnThreshold := hinside.2.trans hcritical
    rw [if_neg hlow, if_neg (not_lt.mpr hunder.le), if_neg (not_lt.mpr hinside.2.le)]
    split <;> simp

/-- The sensor's reading is that of its side, and silent at the baseline. -/
def ReadsBySide (s : RealisticSensor) (out : RealisticSensor × SensorReading) : Prop :=
  out.2.status = sideStatus s out.1.value ∧ (out.1.value = s.baseline → Silent out.2)

/-- A reading is classified by the side of the limits exactly if they lie above the
baseline, or the value is the lower critical limit itself or a large negative one. -/
theorem reads_by_side_iff (s : RealisticSensor) (innovation wear shift ambient : ℚ)
    (warmup : Bool)
    (hside : (Upper s ∧ 0 ≤ (s.read innovation wear shift ambient warmup).1.value) ∨ Lower s) :
    ReadsBySide s (s.read innovation wear shift ambient warmup) ↔
      Upper s ∨ (s.read innovation wear shift ambient warmup).1.value = s.criticalThreshold ∨
        (s.read innovation wear shift ambient warmup).1.value ≤ -s.criticalThreshold := by
  have hstatus := read_status s innovation wear shift ambient warmup
  generalize s.read innovation wear shift ambient warmup = out at *
  unfold ReadsBySide
  rw [hstatus]
  rcases hside with ⟨hupper,hv⟩ | hlower
  · refine iff_of_true ⟨classify_upper hupper hv,?_⟩ (Or.inl hupper)
    intro hbase
    apply silent_of_normal
    rw [hstatus, classify_upper hupper hv, hbase]
    simp [sideStatus, hupper.1]
  · have hnotUpper : ¬ Upper s := fun hupper => absurd hupper.1 (not_lt.mpr hlower.2.2.le)
    rw [classify_lower_iff hlower]
    constructor
    · intro h
      exact Or.inr h.1
    · intro h
      have hvalue := h.resolve_left hnotUpper
      refine ⟨hvalue,?_⟩
      intro hbase
      obtain ⟨hpos,hcritical,hwarn⟩ := hlower
      rcases hvalue with heq | hneg
      · linarith
      · linarith

def tonnage : RealisticSensor := .new "프레스압" 150 3 "ton" 170 180 (9/10)

theorem reads_by_side_tonnage : ReadsBySide tonnage (tonnage.read 0 0 1 22 false) :=
  (reads_by_side_iff tonnage 0 0 1 22 false (Or.inl ⟨by decide +kernel,by decide +kernel⟩)).mpr
    (Or.inl (by decide +kernel))

def hardness : RealisticSensor := .new "경도(HRC)" 58 (4/5) "HRC" 54 50 (22/25)

/-- A draw between the defect probabilities without and with one CRITICAL reading. -/
def draw : Unit01 := ⟨3/10,by norm_num,by norm_num⟩

/-- The hardness sensor of the built line, read without noise, sits at its baseline
and is CRITICAL; its station then fails a product that it passes without it. -/
theorem hardness_critical_at_baseline :
    ("hardness", hardness) ∈ (createHeatTreatment "WC-04").sensors ∧ Lower hardness ∧
    (hardness.read 0 0 1 22 false).1.value = hardness.baseline ∧
    (hardness.read 0 0 1 22 false).2.status = .critical ∧
    judgeQuality (createHeatTreatment "WC-04") [] draw = true ∧
    judgeQuality (createHeatTreatment "WC-04")
      [("hardness", (hardness.read 0 0 1 22 false).2)] draw = false ∧
    ¬ ReadsBySide hardness (hardness.read 0 0 1 22 false) := by
  have hstatus : (hardness.read 0 0 1 22 false).2.status = .critical := by decide +kernel
  have hside : sideStatus hardness (hardness.read 0 0 1 22 false).1.value = .normal := by
    decide +kernel
  refine ⟨by decide +kernel,by decide +kernel,by decide +kernel,hstatus,by decide +kernel,
    by decide +kernel,?_⟩
  intro h
  have hsame := h.1
  rw [hstatus, hside] at hsame
  cases hsame

end ManufacturingMas.Proofs.SensorSides
