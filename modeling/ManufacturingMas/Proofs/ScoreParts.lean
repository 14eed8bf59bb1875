import ManufacturingMas.Agents.PlanningSub
import ManufacturingMas.Py.FloatOrder

/-! What the total score of a proposal is made of. -/

namespace ManufacturingMas.Proofs.ScoreParts
open Py Agents PyFloat

/-! ### Metrics and what they are scored with -/

/-- The metrics that a total score is made of. -/
inductive Metric where
  | effect | cost | quality | violation | confidence
deriving DecidableEq, Repr

namespace Metric

/-- The canonical key. -/
def key : Metric → String
  | .effect => "expected_effect"
  | .cost => "expected_cost"
  | .quality => "quality_risk"
  | .violation => "constraint_violation"
  | .confidence => "confidence"

/-- The keys that are read after it, while what they hold is falsy. -/
def aliases : Metric → List String
  | .effect => ["expected_benefit"]
  | .cost => ["cost_estimate", "cost_estimate_norm"]
  | .quality => []
  | .violation => ["constraint_violation_total"]
  | .confidence => ["recommendation_confidence"]

def default : Metric → ℚ
  | .effect => 1/2
  | .cost => 1/2
  | .quality => nearestDouble (3/10)
  | .violation => 0
  | .confidence => nearestDouble (7/10)

def higherIsBetter : Metric → Bool
  | .effect | .confidence => true
  | .cost | .quality | .violation => false

theorem default_unit (m : Metric) : 0 ≤ m.default ∧ m.default ≤ 1 := by
  cases m <;> decide +kernel

theorem default_ne_zero {m : Metric} (h : m ≠ .violation) : m.default ≠ 0 := by
  cases m with
  | violation => exact absurd rfl h
  | effect | cost | quality | confidence => decide +kernel

end Metric

/-- The metrics of a proposal, those of its comparison block over the others. -/
def merged (p : Dict) : Dict :=
  Assoc.update (getD p "proposal_metrics" .none).asDict (getD p "comparison" .none).asDict

/-- The first value that is not falsy, or the last one. -/
def firstOf (d : Dict) : String → List String → Val
  | key, [] => getD d key .none
  | key, k :: ks => (getD d key .none).orElse (firstOf d k ks)

/-- The entry of the comparison block. -/
def normalized (p : Dict) (m : Metric) : Except PyErr PyFloat :=
  numberOr (firstOf (merged p) m.key m.aliases) m.default

/-- A zero is scored as the default. -/
def orDefault (m : Metric) (x : PyFloat) : PyFloat := if x.truthy then x else .fin m.default

def scored (p : Dict) (m : Metric) : Except PyErr PyFloat := (normalized p m).map (orDefault m)

/-- What a zero is scored as. -/
def standIn (p : Dict) (m : Metric) : Except PyErr PyFloat :=
  match m.aliases with
  | [] => .ok (.fin m.default)
  | k :: ks => (numberOr (firstOf (merged p) k ks) m.default).map (orDefault m)

/-- The proposal has a number under the canonical key. -/
def Given (p : Dict) (m : Metric) (q : ℚ) : Prop :=
  ∃ v, Assoc.get (merged p) m.key = some v ∧ v.number = .ok (.fin q)

theorem toFloat_of_number {v : Val} {q : ℚ} (h : v.number = .ok (.fin q)) :
    v.toFloat = .ok (.fin q) := by
  cases v with
  | float x | int n => exact h
  | bool b =>
    change PyFloat.ofInt _ = _ at h
    cases b <;> (rw [PyFloat.ofInt_of_small (by decide)] at h; simpa [Val.toFloat] using h)
  | none | str _ | list _ | dict _ => cases h

theorem truthy_of_number {v : Val} {q : ℚ} (h : v.number = .ok (.fin q)) :
    v.truthy = decide (q ≠ 0) := by
  obtain ⟨y,hy,hsame⟩ := Val.compared_of_number h
  have hzero := (hsame 0 (by norm_num)).2.2
  cases v with
  | float x =>
    cases h
    rfl
  | int n =>
    cases hy
    simpa [PyFloat.eq, Val.truthy, eq_comm] using hzero
  | bool b =>
    cases hy
    cases b with
    | false =>
      have hq : 0 = q := by simpa [PyFloat.eq] using hzero
      simp [Val.truthy, ← hq]
    | true =>
      have hq : 0 ≠ q := by simpa [PyFloat.eq] using hzero
      simp [Val.truthy, hq.symm]
  | none | str _ | list _ | dict _ => cases h

/-- A number is scored as it is, unless it is zero. -/
theorem scored_of_given {p : Dict} {m : Metric} {q : ℚ} (h : Given p m q) :
    scored p m = if q = 0 then standIn p m else .ok (.fin q) := by
  obtain ⟨v,hv,hnumber⟩ := h
  have hread : getD (merged p) m.key .none = v := by simp [getD, hv]
  have htruthy := truthy_of_number hnumber
  have hfloat : ∀ default, numberOr v default = .ok (.fin q) := by
    intro default
    unfold numberOr
    rw [toFloat_of_number hnumber]
    rfl
  unfold scored normalized standIn
  cases haliases : m.aliases with
  | nil =>
    unfold firstOf
    rw [hread, hfloat]
    by_cases hq : q = 0
    · rw [if_pos hq, hq]
      rfl
    · rw [if_neg hq]
      simp [Except.map, orDefault, PyFloat.truthy, hq]
  | cons k ks =>
    have hfirst : firstOf (merged p) m.key (k :: ks) = v.orElse (firstOf (merged p) k ks) :=
      congrArg (Val.orElse · _) hread
    rw [hfirst]
    by_cases hq : q = 0
    · have hfalsy : v.truthy = false := by simp [htruthy, hq]
      simp [Val.orElse, hfalsy, hq]
    · have htrue : v.truthy = true := by simp [htruthy, hq]
      simp [Val.orElse, htrue, hq, hfloat, Except.map, orDefault, PyFloat.truthy]

/-! ### The parts of a score -/

theorem orElse_assoc (a b c : Val) : (a.orElse b).orElse c = a.orElse (b.orElse c) := by
  unfold Val.orElse
  by_cases ha : a.truthy = true <;> simp [ha]

/-- The comparison block holds what each metric is normalized to. -/
theorem normalize_entries {printer : Printer} {p block : Dict}
    (h : normalizeComparisonMetrics printer p = .ok block) (m : Metric) :
    ∃ x, normalized p m = .ok x ∧ Assoc.get block m.key = some (.float x) := by
  unfold normalizeComparisonMetrics at h
  simp only [Traverse.bind_ok_iff] at h
  obtain ⟨effect,heffect,cost,hcost,quality,hquality,_,_,_,_,violation,hviolation,confidence,
    hconfidence,hblock⟩ := h
  rw [orElse_assoc] at hcost
  cases hblock
  cases m with
  | effect => exact ⟨effect,heffect,rfl⟩
  | cost => exact ⟨cost,hcost,rfl⟩
  | quality => exact ⟨quality,hquality,rfl⟩
  | violation => exact ⟨violation,hviolation,rfl⟩
  | confidence => exact ⟨confidence,hconfidence,rfl⟩

theorem floatOr_float (m : Metric) (x : PyFloat) :
    floatOr (.float x) m.default = .ok (orDefault m x) := by
  unfold floatOr Val.orElse orDefault
  change (if x.truthy = true then Val.float x else _).toFloat = _
  split <;> rfl

/-- What the block scores with under the metric's key. -/
theorem floatOr_entry {printer : Printer} {p block : Dict} {x : PyFloat}
    (h : normalizeComparisonMetrics printer p = .ok block) (m : Metric) (hx : scored p m = .ok x) :
    floatOr (getD block m.key .none) m.default = .ok x := by
  obtain ⟨y,hy,hentry⟩ := normalize_entries h m
  have hread : getD block m.key .none = .float y := by simp [getD, hentry]
  have hscored : orDefault m y = x := by simpa [scored, hy, Except.map] using hx
  rw [hread, floatOr_float, hscored]

theorem scored_ok {printer : Printer} {p block : Dict}
    (h : normalizeComparisonMetrics printer p = .ok block) :
    ∃ s : Metric → PyFloat, ∀ m, scored p m = .ok (s m) := by
  have heach : ∀ m, ∃ x, scored p m = .ok x := by
    intro m
    obtain ⟨x,hx,_⟩ := normalize_entries h m
    exact ⟨orDefault m x,by simp [scored, hx, Except.map]⟩
  choose s hs using heach
  exact ⟨s,hs⟩

def comparisonOf (s : Metric → PyFloat) : PyFloat :=
  (((s .effect).mul (s .confidence)).sub ((PyFloat.fin (7/20)).mul (s .cost))).sub
    ((PyFloat.fin (1/4)).mul (s .quality))

theorem comparisonScore_eq {printer : Printer} {p block : Dict} {s : Metric → PyFloat}
    (h : normalizeComparisonMetrics printer p = .ok block) (hs : ∀ m, scored p m = .ok (s m)) :
    comparisonScore block = .ok (comparisonOf s) := by
  have heffect := floatOr_entry h .effect (hs .effect)
  have hcost := floatOr_entry h .cost (hs .cost)
  have hquality := floatOr_entry h .quality (hs .quality)
  have hconfidence := floatOr_entry h .confidence (hs .confidence)
  unfold comparisonScore
  simp only [Metric.key, Metric.default] at heffect hcost hquality hconfidence
  rw [heffect, hcost, hquality, hconfidence]
  rfl

/-- What the speed alone is penalized with. -/
def speedPenalty (p constraints : Dict) : Except PyErr ℚ := do
  let sp ← (((getD p "speed_recommendation" .none).orElse
    (getD p "target_speed_pct" .none)).orElse (.int 100)).toInt
  let smin ← ((getD constraints "speed_min_pct" .none).orElse (.int 40)).toInt
  let smax ← ((getD constraints "speed_max_pct" .none).orElse (.int 100)).toInt
  pure ((if sp < smin then 2/5 else 0) + if smax < sp then 2/5 else 0)

def penaltyOf (base : ℚ) (violation : PyFloat) : PyFloat :=
  PyFloat.min (.fin 1) ((PyFloat.fin base).add (violation.mul (.fin (1/5))))

/-- The penalty is none without constraints. -/
def Penalized (p constraints : Dict) (violation penalty : PyFloat) : Prop :=
  if constraints.isEmpty then penalty = .fin 0
  else ∃ base, speedPenalty p constraints = .ok base ∧ penalty = penaltyOf base violation

/-- The two speed checks add up. -/
theorem speedSteps (low high : Bool) :
    (let viol := PyFloat.fin 0
     let viol := if low then viol.add (.fin (2/5)) else viol
     if high then viol.add (.fin (2/5)) else viol) =
      .fin ((if low then 2/5 else 0) + if high then 2/5 else 0) := by
  cases low <;> cases high <;> decide +kernel

theorem scoreAgainstConstraints_ok {printer : Printer} {p block constraints : Dict}
    {x penalty : PyFloat} {note : String} (h : normalizeComparisonMetrics printer p = .ok block)
    (hx : scored p .violation = .ok x)
    (hscore : scoreAgainstConstraints (Assoc.set p "comparison" (.dict block)) constraints =
      .ok (penalty, note)) :
    ∃ base, speedPenalty p constraints = .ok base ∧ penalty = penaltyOf base x := by
  have hblock : block.isEmpty = false := by
    obtain ⟨_,_,hentry⟩ := normalize_entries h .violation
    cases block with
    | nil => cases hentry
    | cons _ _ => rfl
  have hcomparison : (getD (Assoc.set p "comparison" (.dict block)) "comparison" .none).orElse
      (.dict []) = .dict block := by
    simp [getD, Val.orElse, Val.truthy, hblock]
  have hentry := floatOr_entry h .violation hx
  unfold scoreAgainstConstraints at hscore
  rw [getD_set_of_ne (by decide), getD_set_of_ne (by decide), hcomparison] at hscore
  simp only [Traverse.bind_ok_iff] at hscore
  obtain ⟨sp,hsp,smin,hmin,smax,hmax,value,hvalue,extra,hextra,hend⟩ := hscore
  cases hvalue
  simp only [Metric.key, Metric.default] at hentry
  rw [hentry] at hextra
  cases hextra
  cases hend
  refine ⟨(if sp < smin then 2/5 else 0) + if smax < sp then 2/5 else 0,?_,?_⟩
  · unfold speedPenalty
    rw [hsp, hmin, hmax]
    rfl
  · have hsteps := speedSteps (decide (sp < smin)) (decide (smax < sp))
    simp only [decide_eq_true_eq] at hsteps ⊢
    unfold penaltyOf
    rw [← hsteps]

/-! ### The whole score -/

/-- The parts of the total score. -/
theorem evaluate_score {printer : Printer} {weights : List (String × ℚ)} {p constraints e : Dict}
    (h : evaluateProposalWith printer weights p constraints = .ok e) :
    ∃ s business penalty, (∀ m, scored p m = .ok (s m)) ∧
      businessScore (getD p "scores" .none).asDict weights = .ok business ∧
      Penalized p constraints (s .violation) penalty ∧
      scoreOf "total_score" e = (finalScore business (comparisonOf s) penalty).round 4 := by
  obtain ⟨block,business,comparison,penalty,note,hblock,hbusiness,hcomparison,hpenalty,rfl⟩ :=
    evaluate_ok h
  obtain ⟨s,hs⟩ := scored_ok hblock
  rw [comparisonScore_eq hblock hs] at hcomparison
  cases hcomparison
  refine ⟨s,business,penalty,hs,hbusiness,?_,?_⟩
  · unfold Penalized
    split
    · rename_i hempty
      rw [if_pos hempty] at hpenalty
      cases hpenalty
      rfl
    · rename_i hsome
      rw [if_neg hsome] at hpenalty
      exact scoreAgainstConstraints_ok hblock (hs .violation) hpenalty
  · simp [scoreOf, getD]

/-! ### Scores of ordinary size -/

theorem add_small {p q : ℚ} (h : |p + q| ≤ 2 ^ 53) :
    (PyFloat.fin p).add (.fin q) = .fin (p + q) := ofRat_of_small h

theorem mul_small {p q : ℚ} (h : |p * q| ≤ 2 ^ 53) :
    (PyFloat.fin p).mul (.fin q) = .fin (p * q) := ofRat_of_small h

theorem sub_small {p q : ℚ} (h : |p - q| ≤ 2 ^ 53) :
    (PyFloat.fin p).sub (.fin q) = .fin (p - q) := by
  have hneg : (PyFloat.fin p).sub (.fin q) = ofRat (p + -q) := rfl
  rw [hneg, ← sub_eq_add_neg, ofRat_of_small h]

/-- The comparison of numbers. -/
def exactComparison (r : Metric → ℚ) : ℚ :=
  r .effect * r .confidence - 7/20 * r .cost - 1/4 * r .quality

theorem exactComparison_bound {r : Metric → ℚ} (hr : ∀ n, 0 ≤ r n ∧ r n ≤ 1) :
    |exactComparison r| ≤ 2 := by
  have hproduct : 0 ≤ r .effect * r .confidence := mul_nonneg (hr _).1 (hr _).1
  have hone : r .effect * r .confidence ≤ 1 := mul_le_one₀ (hr _).2 (hr _).1 (hr _).2
  obtain ⟨hcost,hcost'⟩ := hr .cost
  obtain ⟨hquality,hquality'⟩ := hr .quality
  unfold exactComparison
  rw [abs_le]
  constructor <;> linarith

theorem comparisonOf_fin {r : Metric → ℚ} (hr : ∀ n, 0 ≤ r n ∧ r n ≤ 1) :
    comparisonOf (fun n => .fin (r n)) = .fin (exactComparison r) := by
  have hproduct : 0 ≤ r .effect * r .confidence := mul_nonneg (hr _).1 (hr _).1
  have hone : r .effect * r .confidence ≤ 1 := mul_le_one₀ (hr _).2 (hr _).1 (hr _).2
  obtain ⟨hcost,hcost'⟩ := hr .cost
  obtain ⟨hquality,hquality'⟩ := hr .quality
  unfold comparisonOf exactComparison
  rw [mul_small (by rw [abs_le]; constructor <;> linarith),
    mul_small (by rw [abs_le]; constructor <;> linarith),
    mul_small (by rw [abs_le]; constructor <;> linarith),
    sub_small (by rw [abs_le]; constructor <;> linarith),
    sub_small (by rw [abs_le]; constructor <;> linarith)]

theorem finalScore_fin {b c v : ℚ} (hb : |b| ≤ 100) (hc : |c| ≤ 2) (hv : |v| ≤ 1) :
    finalScore (.fin b) (.fin c) (.fin v) = .fin (2/5 * b + 3/5 * c - 1/5 * v) := by
  rw [abs_le] at hb hc hv
  unfold finalScore
  rw [mul_small (by rw [abs_le]; constructor <;> linarith),
    mul_small (by rw [abs_le]; constructor <;> linarith),
    mul_small (by rw [abs_le]; constructor <;> linarith),
    add_small (by rw [abs_le]; constructor <;> linarith),
    sub_small (by rw [abs_le]; constructor <;> linarith)]

/-- What the speed adds is at most four fifths. -/
theorem speedPenalty_bounds {p constraints : Dict} {base : ℚ}
    (h : speedPenalty p constraints = .ok base) : 0 ≤ base ∧ base ≤ 4/5 := by
  unfold speedPenalty at h
  simp only [Traverse.bind_ok_iff] at h
  obtain ⟨sp,_,smin,_,smax,_,hend⟩ := h
  cases hend
  split <;> split <;> norm_num

def exactPenalty (constraints : Dict) (base violation : ℚ) : ℚ :=
  if constraints.isEmpty then 0 else base + 1/5 * violation

/-- The penalty of a violation within bounds is linear in it. -/
def LinearPenalty (p constraints : Dict) (base : ℚ) : Prop :=
  ∀ r penalty, 0 ≤ r → r ≤ 1 → Penalized p constraints (.fin r) penalty →
    penalty = .fin (exactPenalty constraints base r)

/-- A penalty depends on the speeds of a proposal alone. -/
theorem Penalized.congr {p p' constraints : Dict} {x penalty : PyFloat}
    (h : Penalized p' constraints x penalty)
    (hspeed : speedPenalty p' constraints = speedPenalty p constraints) :
    Penalized p constraints x penalty := by
  unfold Penalized at h ⊢
  rw [hspeed] at h
  exact h

theorem LinearPenalty.congr {p p' constraints : Dict} {base : ℚ}
    (h : LinearPenalty p constraints base)
    (hspeed : speedPenalty p' constraints = speedPenalty p constraints) :
    LinearPenalty p' constraints base :=
  fun r penalty hr hr' hpenalty => h r penalty hr hr' (hpenalty.congr hspeed)

theorem linearPenalty_exists (p constraints : Dict) :
    ∃ base, 0 ≤ base ∧ base ≤ 4/5 ∧ LinearPenalty p constraints base := by
  unfold LinearPenalty Penalized exactPenalty
  by_cases hempty : constraints.isEmpty = true
  · refine ⟨0,le_refl 0,by norm_num,?_⟩
    intro r penalty _ _ h
    rw [if_pos hempty] at h ⊢
    exact h
  · simp only [if_neg hempty]
    cases hbase : speedPenalty p constraints with
    | error err =>
      refine ⟨0,le_refl 0,by norm_num,?_⟩
      rintro r penalty _ _ ⟨base,hok,_⟩
      cases hok
    | ok base =>
      obtain ⟨hlow,hhigh⟩ := speedPenalty_bounds hbase
      refine ⟨base,hlow,hhigh,?_⟩
      rintro r penalty hr hr' ⟨base',hok,rfl⟩
      cases hok
      have hle : base + 1/5 * r ≤ 1 := by linarith
      unfold penaltyOf
      rw [mul_small (by rw [abs_le]; constructor <;> linarith), Rat.mul_comm r,
        add_small (by rw [abs_le]; constructor <;> linarith), min_fin hle]

theorem exactPenalty_bounds {base violation : ℚ} (constraints : Dict) (hlow : 0 ≤ base)
    (hhigh : base ≤ 4/5) (hv : 0 ≤ violation) (hv' : violation ≤ 1) :
    0 ≤ exactPenalty constraints base violation ∧ exactPenalty constraints base violation ≤ 1 := by
  unfold exactPenalty
  split
  · norm_num
  · constructor <;> linarith

/-- What the metrics and the penalty contribute to the total. -/
def exactScore (constraints : Dict) (base : ℚ) (r : Metric → ℚ) : ℚ :=
  3/5 * exactComparison r - 1/5 * exactPenalty constraints base (r .violation)

theorem exactScore_bound (constraints : Dict) {base : ℚ} {r : Metric → ℚ} (hlow : 0 ≤ base)
    (hhigh : base ≤ 4/5) (hr : ∀ n, 0 ≤ r n ∧ r n ≤ 1) :
    |exactScore constraints base r| ≤ 2 := by
  obtain ⟨hpenalty,hpenalty'⟩ :=
    exactPenalty_bounds constraints hlow hhigh (hr .violation).1 (hr .violation).2
  have hcomparison := abs_le.mp (exactComparison_bound hr)
  unfold exactScore
  rw [abs_le]
  constructor <;> linarith

/-- Numbers on the two sides of a tie are rounded apart. -/
theorem round_separates {x y : ℚ} (hx : x < 1/20000) (hy : 1/20000 < y) :
    roundTo 4 x < roundTo 4 y := by
  have hlow : roundHalfEven (x * 10 ^ 4) < 1 := roundHalfEven_lt_one (by linarith)
  have hhigh : 0 < roundHalfEven (y * 10 ^ 4) := roundHalfEven_pos (by linarith)
  have hcast : (roundHalfEven (x * 10 ^ 4) : ℚ) < roundHalfEven (y * 10 ^ 4) := by
    exact_mod_cast (by omega : roundHalfEven (x * 10 ^ 4) < roundHalfEven (y * 10 ^ 4))
  unfold roundTo
  exact div_lt_div_of_pos_right hcast (by norm_num)

/-- Some business score brings two different totals to the two sides of a tie. -/
theorem exists_separating {x y : ℚ} (h : x < y) (hx : |x| ≤ 2) (hy : |y| ≤ 2) :
    ∃ b : ℚ, |b| ≤ 100 ∧ roundTo 4 (2/5 * b + x) < roundTo 4 (2/5 * b + y) := by
  rw [abs_le] at hx hy
  obtain ⟨b,hb⟩ : ∃ b : ℚ, 2/5 * b = 1/20000 - (x + y) / 2 :=
    ⟨5/2 * (1/20000 - (x + y) / 2),by ring⟩
  refine ⟨b,?_,?_⟩
  · rw [abs_le]
    constructor <;> linarith
  · rw [hb]
    exact round_separates (by linarith) (by linarith)

theorem exists_apart {x y : ℚ} (h : x ≠ y) (hx : |x| ≤ 2) (hy : |y| ≤ 2) :
    ∃ b : ℚ, |b| ≤ 100 ∧ roundTo 4 (2/5 * b + x) ≠ roundTo 4 (2/5 * b + y) := by
  rcases lt_or_gt_of_ne h with hlt | hgt
  · obtain ⟨b,hb,hlt⟩ := exists_separating hlt hx hy
    exact ⟨b,hb,hlt.ne⟩
  · obtain ⟨b,hb,hlt⟩ := exists_separating hgt hy hx
    exact ⟨b,hb,hlt.ne'⟩

/-! ### The same proposal with other scores -/

def withScores (p scores : Dict) : Dict := Assoc.set p "scores" (.dict scores)

theorem normalize_withScores (printer : Printer) (p scores : Dict) :
    normalizeComparisonMetrics printer (withScores p scores) =
      normalizeComparisonMetrics printer p := by
  unfold normalizeComparisonMetrics withScores
  rw [getD_set_of_ne (by decide), getD_set_of_ne (by decide), getD_set_of_ne (by decide)]

@[simp] theorem merged_withScores (p scores : Dict) : merged (withScores p scores) = merged p := by
  unfold merged withScores
  rw [getD_set_of_ne (by decide), getD_set_of_ne (by decide)]

@[simp] theorem scored_withScores (p scores : Dict) (n : Metric) :
    scored (withScores p scores) n = scored p n := by
  unfold scored normalized
  rw [merged_withScores]

@[simp] theorem standIn_withScores (p scores : Dict) (n : Metric) :
    standIn (withScores p scores) n = standIn p n := by
  unfold standIn
  rw [merged_withScores]

theorem scoreAgainst_withScores (p scores block constraints : Dict) :
    scoreAgainstConstraints (Assoc.set (withScores p scores) "comparison" (.dict block)) constraints =
      scoreAgainstConstraints (Assoc.set p "comparison" (.dict block)) constraints := by
  have hspeed : ∀ key, key ≠ "comparison" → key ≠ "scores" →
      getD (Assoc.set (withScores p scores) "comparison" (.dict block)) key .none =
        getD (Assoc.set p "comparison" (.dict block)) key .none := by
    intro key hcomparison hscores
    rw [getD_set_of_ne hcomparison, getD_set_of_ne hcomparison]
    exact getD_set_of_ne hscores _ _
  have hcomparison : getD (Assoc.set (withScores p scores) "comparison" (.dict block))
      "comparison" .none = getD (Assoc.set p "comparison" (.dict block)) "comparison" .none := by
    simp [getD]
  unfold scoreAgainstConstraints
  rw [hspeed _ (by decide) (by decide), hspeed _ (by decide) (by decide), hcomparison]

/-- A proposal that can be evaluated can be with other scores. -/
theorem evaluate_withScores {printer : Printer} {weights weights' : List (String × ℚ)}
    {p constraints e scores : Dict} {business : PyFloat}
    (h : evaluateProposalWith printer weights p constraints = .ok e)
    (hbusiness : businessScore scores weights' = .ok business) :
    ∃ f, evaluateProposalWith printer weights' (withScores p scores) constraints = .ok f := by
  obtain ⟨block,_,comparison,penalty,note,hblock,_,hcomparison,hpenalty,_⟩ := evaluate_ok h
  have hread : (getD (withScores p scores) "scores" .none).asDict = scores := by
    simp [getD, withScores, Val.asDict]
  rw [← normalize_withScores printer p scores] at hblock
  rw [← scoreAgainst_withScores p scores] at hpenalty
  exact ⟨_,evaluate_of_parts hblock (hread ▸ hbusiness) hcomparison hpenalty⟩

/-- Scores that come to `b`. -/
def scoresOf (b : ℚ) : Dict := [("quality", .float (.fin (10/3 * b)))]

theorem businessScore_scoresOf {b : ℚ} (h : |b| ≤ 100) :
    businessScore (scoresOf b) defaultKpiWeights = .ok (.fin b) := by
  rw [abs_le] at h
  have hfirst : (PyFloat.fin 0).add ((PyFloat.fin (10/3 * b)).mul (.fin (3/10))) = .fin b := by
    have hb : 10/3 * b * (3/10) = b := by ring
    rw [mul_small (by rw [hb, abs_le]; constructor <;> linarith), hb,
      add_small (by rw [abs_le]; constructor <;> linarith), zero_add]
  have hzero : ∀ w : ℚ, (PyFloat.fin b).add ((PyFloat.fin 0).mul (.fin w)) = .fin b := by
    intro w
    rw [mul_small (by simp), zero_mul, add_small (by rw [abs_le]; constructor <;> linarith),
      add_zero]
  have hquality : getD (scoresOf b) "quality" (.float (.fin 0)) = .float (.fin (10/3 * b)) := rfl
  have hdelivery : getD (scoresOf b) "delivery" (.float (.fin 0)) = .float (.fin 0) := rfl
  have hcost : getD (scoresOf b) "cost" (.float (.fin 0)) = .float (.fin 0) := rfl
  have hsafety : getD (scoresOf b) "safety" (.float (.fin 0)) = .float (.fin 0) := rfl
  unfold businessScore defaultKpiWeights
  simp only [List.foldlM_cons, List.foldlM_nil, hquality, hdelivery, hcost, hsafety]
  dsimp only [bind, Except.bind, pure, Except.pure, Val.toFloat]
  rw [hfirst, hzero, hzero, hzero]

theorem speedPenalty_withScores (p scores constraints : Dict) :
    speedPenalty (withScores p scores) constraints = speedPenalty p constraints := by
  unfold speedPenalty withScores
  rw [getD_set_of_ne (by decide), getD_set_of_ne (by decide)]

/-- With these scores the total is the exact one, rounded. -/
theorem score_of_scoresOf {printer : Printer} {p constraints f : Dict} {r : Metric → ℚ} {base b : ℚ}
    (hread : (getD p "scores" .none).asDict = scoresOf b)
    (hscored : ∀ n, scored p n = .ok (.fin (r n))) (hr : ∀ n, 0 ≤ r n ∧ r n ≤ 1)
    (hlow : 0 ≤ base) (hhigh : base ≤ 4/5) (hlinear : LinearPenalty p constraints base)
    (hb : |b| ≤ 100) (h : evaluateProposalWith printer defaultKpiWeights p constraints = .ok f) :
    scoreOf "total_score" f = .fin (roundTo 4 (2/5 * b + exactScore constraints base r)) := by
  obtain ⟨s,business,penalty,hs,hbusiness,hpenalty,htotal⟩ := evaluate_score h
  have hs' : s = fun n => .fin (r n) := by
    funext n
    have hsame := hs n
    rw [hscored] at hsame
    exact (Except.ok.inj hsame).symm
  rw [hread, businessScore_scoresOf hb] at hbusiness
  cases hbusiness
  rw [hs'] at hpenalty
  rw [hlinear _ _ (hr _).1 (hr _).2 hpenalty, hs', comparisonOf_fin hr] at htotal
  obtain ⟨hpen,hpen'⟩ := exactPenalty_bounds constraints hlow hhigh (hr .violation).1 (hr .violation).2
  rw [finalScore_fin hb (exactComparison_bound hr) (by rw [abs_le]; constructor <;> linarith)]
    at htotal
  have hsum : 2/5 * b + 3/5 * exactComparison r -
      1/5 * exactPenalty constraints base (r .violation) = 2/5 * b + exactScore constraints base r := by
    unfold exactScore
    ring
  rw [htotal, hsum]
  change ofRat (roundTo 4 _) = _
  have hbound := abs_le.mp (exactScore_bound constraints hlow hhigh hr)
  have hround := abs_le.mp (abs_roundTo_sub_le 4 (2/5 * b + exactScore constraints base r))
  rw [abs_le] at hb
  exact ofRat_of_small (by rw [abs_le]; constructor <;> linarith)

theorem score_withScores {printer : Printer} {p constraints f : Dict} {r : Metric → ℚ} {base b : ℚ}
    (hscored : ∀ n, scored p n = .ok (.fin (r n))) (hr : ∀ n, 0 ≤ r n ∧ r n ≤ 1)
    (hlow : 0 ≤ base) (hhigh : base ≤ 4/5) (hlinear : LinearPenalty p constraints base)
    (hb : |b| ≤ 100)
    (h : evaluateProposalWith printer defaultKpiWeights (withScores p (scoresOf b)) constraints =
      .ok f) :
    scoreOf "total_score" f = .fin (roundTo 4 (2/5 * b + exactScore constraints base r)) := by
  have hread : (getD (withScores p (scoresOf b)) "scores" .none).asDict = scoresOf b := by
    simp [getD, withScores, Val.asDict]
  have hlinear' : LinearPenalty (withScores p (scoresOf b)) constraints base :=
    hlinear.congr (by rw [speedPenalty_withScores])
  exact score_of_scoresOf hread (fun n => (scored_withScores _ _ n).trans (hscored n)) hr hlow hhigh
    hlinear' hb h

end ManufacturingMas.Proofs.ScoreParts
