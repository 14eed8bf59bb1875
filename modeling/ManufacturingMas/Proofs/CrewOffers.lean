import ManufacturingMas.Proofs.Bids
import ManufacturingMas.Runtime.CrewLoops

/-! What the five agents offer in a round, whatever they have seen. -/

namespace ManufacturingMas.Proofs.CrewOffers
open Py Protocol Agents PlanningLoop CrewLoops ScoreParts MetricNumbers Rescoring StrategyAgreement
  Bids

/-! ### Metrics as the agents give them -/

/-- A zero is scored as the default. -/
def graded (default q : ℚ) : ℚ := if q = 0 then default else q

/-- What an aliased metric is read as: a zero is passed over. -/
def shown (q : ℚ) : Val := if q = 0 then .none else .float (.fin q)

def metricsOf (p : Dict) : Dict := (getD p "proposal_metrics" .none).asDict

/-- A proposal that no comparison block was merged into, with its metrics under the keys that
the agents use; a metric that is left out is given as zero. -/
structure Plain (p : Dict) (g : Metric → ℚ) : Prop where
  block : (getD p "comparison" .none).asDict = []
  effect : firstOf (metricsOf p) "expected_effect" ["expected_benefit"] = shown (g .effect)
  cost : firstOf (metricsOf p) "expected_cost" ["cost_estimate", "cost_estimate_norm"] =
    shown (g .cost)
  quality : getD (metricsOf p) "quality_risk" .none = .float (.fin (g .quality)) ∨
    g .quality = 0 ∧ getD (metricsOf p) "quality_risk" .none = .none
  violation : getD (metricsOf p) "constraint_violation" .none = .none ∧
    getD (metricsOf p) "constraint_violation_total" .none = .float (.fin (g .violation))
  confidence : firstOf (metricsOf p) "confidence" ["recommendation_confidence"] =
    shown (g .confidence)
  delivery : ∃ x, numberOr (getD (metricsOf p) "delivery_impact" .none) 0 = .ok x
  material : ∃ x, numberOr (getD (metricsOf p) "material_impact" .none) (nearestDouble (1/5)) = .ok x

variable {p : Dict} {g : Metric → ℚ} {printer : Printer}

theorem Plain.merged (h : Plain p g) : merged p = metricsOf p := by
  unfold ScoreParts.merged
  rw [h.block]
  rfl

theorem scored_shown {m : Metric} {q : ℚ}
    (h : firstOf (ScoreParts.merged p) m.key m.aliases = shown q) :
    scored p m = .ok (.fin (graded m.default q)) := by
  unfold scored normalized
  rw [h]
  unfold shown graded
  by_cases hq : q = 0
  · rw [if_pos hq, if_pos hq]
    exact congrArg Except.ok (orDefault_default m)
  · rw [if_neg hq, if_neg hq]
    simp [numberOr, Val.toFloat, orOnBadNumber, Except.map, orDefault, PyFloat.truthy, hq]

theorem scored_float {m : Metric} {q : ℚ}
    (h : firstOf (ScoreParts.merged p) m.key m.aliases = .float (.fin q)) :
    scored p m = .ok (.fin (graded m.default q)) := by
  unfold scored normalized
  rw [h]
  unfold graded
  by_cases hq : q = 0
  · simp [numberOr, Val.toFloat, orOnBadNumber, Except.map, hq, orDefault_zero]
  · simp [numberOr, Val.toFloat, orOnBadNumber, Except.map, orDefault, PyFloat.truthy, hq]

theorem scored_absent {m : Metric}
    (h : firstOf (ScoreParts.merged p) m.key m.aliases = .none) :
    scored p m = .ok (.fin (graded m.default 0)) := by
  apply scored_shown
  rw [h]
  rfl

/-- The violation is read under its alias. -/
theorem Plain.read_violation (h : Plain p g) :
    firstOf (ScoreParts.merged p) Metric.violation.key Metric.violation.aliases =
      .float (.fin (g .violation)) := by
  rw [h.merged]
  change (getD (metricsOf p) "constraint_violation" .none).orElse
    (getD (metricsOf p) "constraint_violation_total" .none) = _
  rw [h.violation.1, h.violation.2]
  rfl

theorem Plain.scored (h : Plain p g) (m : Metric) :
    ScoreParts.scored p m = .ok (.fin (graded m.default (g m))) := by
  cases m with
  | effect => exact scored_shown (h.merged ▸ h.effect)
  | cost => exact scored_shown (h.merged ▸ h.cost)
  | quality =>
    rcases h.quality with hread | ⟨hzero,hread⟩
    · exact scored_float (h.merged ▸ hread)
    · rw [hzero]
      exact scored_absent (h.merged ▸ hread)
  | violation => exact scored_float h.read_violation
  | confidence => exact scored_shown (h.merged ▸ h.confidence)

/-- An aliased metric is never read as zero. -/
theorem not_uncovered_shown {m : Metric} {q : ℚ} (hdefault : m.default ≠ 0)
    (h : firstOf (ScoreParts.merged p) m.key m.aliases = shown q) : ¬ Uncovered p m := by
  rintro ⟨hzero,_⟩
  rw [h] at hzero
  unfold shown at hzero
  split at hzero
  · exact hdefault hzero
  · rename_i hq
    exact hq (by simpa [ReadsAs] using hzero)

theorem Plain.covered (h : Plain p g) (m : Metric) : ¬ Uncovered p m := by
  cases m with
  | effect => exact not_uncovered_shown (Metric.default_ne_zero (by decide)) (h.merged ▸ h.effect)
  | cost => exact not_uncovered_shown (Metric.default_ne_zero (by decide)) (h.merged ▸ h.cost)
  | quality => exact fun hm => hm.2 (.inl rfl)
  | violation =>
    rintro ⟨hzero,hnot⟩
    rw [h.read_violation] at hzero
    have hreread : reread p .violation = .float (.fin (g .violation)) := h.violation.2
    exact hnot (.inl (hreread ▸ hzero))
  | confidence => exact not_uncovered_shown (Metric.default_ne_zero (by decide)) (h.merged ▸ h.confidence)

theorem readable_of_scored {m : Metric} {x : PyFloat} (h : scored p m = .ok x) :
    ∃ y, normalized p m = .ok y := by
  unfold scored at h
  cases hread : normalized p m with
  | error e =>
    rw [hread] at h
    cases h
  | ok y => exact ⟨y,rfl⟩

theorem Plain.readable (h : Plain p g) (axis : Axis) : ∃ x, normalizedAxis p axis = .ok x := by
  cases axis with
  | scored m => exact readable_of_scored (h.scored m)
  | delivery =>
    unfold normalizedAxis Axis.read
    rw [h.merged]
    exact h.delivery
  | material =>
    unfold normalizedAxis Axis.read
    rw [h.merged]
    exact h.material

theorem shown_eq (q : ℚ) : (Val.float (.fin q)).orElse .none = shown q := by
  unfold shown Val.orElse
  by_cases hq : q = 0 <;> simp [Val.truthy, PyFloat.truthy, hq]

/-! ### Bids -/

def gradedMetrics (g : Metric → ℚ) (m : Metric) : ℚ := graded m.default (g m)

/-- What a bid needs beside its metrics. -/
structure Quote (p : Dict) (agentId : String) (speed : ℤ) (b : ℚ) : Prop where
  agent : Assoc.get p "agent" = some (.str agentId)
  asked : recommended p = .int speed
  business : businessScore (getD p "scores" .none).asDict defaultKpiWeights = .ok (.fin b)

variable {agentId : String} {speed : ℤ} {b : ℚ}

theorem Plain.bid (h : Plain p g) (hquote : Quote p agentId speed b) (hheld : |speed| ≤ 2 ^ 53) :
    Bid p agentId speed (gradedMetrics g) b :=
  ⟨hquote.agent,hheld,hquote.asked,h.scored,h.covered,h.readable,hquote.business⟩

theorem carries_covered {block q : Dict} (h : Carries printer p block q) (m : Metric) :
    ¬ Uncovered q m := by
  obtain ⟨x,hx,_⟩ := normalize_entries h.normalized m
  have hreread : reread q m = reread p m := by
    unfold reread
    rw [h.metrics]
  rintro ⟨hzero,hnot⟩
  have hread : normalized q m = .ok (.fin 0) := (numberOr_iff _ _ _).mpr hzero
  rw [h.normalized_again hx] at hread
  rw [hreread] at hnot
  cases htruthy : x.truthy with
  | true =>
    rw [if_pos htruthy] at hread
    cases hread
    cases htruthy
  | false =>
    rw [if_neg (by simp [htruthy])] at hread
    exact hnot (.inl ((numberOr_iff _ _ _).mp hread))

/-- A block that has just been merged holds what the metrics are scored as. -/
theorem Plain.bid_merged (h : Plain p g) (hquote : Quote p agentId speed b)
    (hheld : |speed| ≤ 2 ^ 53) (printer : Printer) :
    ∃ q, mergeIntoProposal printer p = .ok q ∧ Bid q agentId speed (gradedMetrics g) b ∧
      ∀ key, key ≠ "comparison" → Assoc.get q key = Assoc.get p key := by
  obtain ⟨block,hblock⟩ := normalize_ok printer h.readable
  have hkept : ∀ key, key ≠ "comparison" →
      Assoc.get (Assoc.set p "comparison" (.dict block)) key = Assoc.get p key :=
    fun key hkey => Assoc.get_set_of_ne hkey
  have hcarries : Carries printer p block (Assoc.set p "comparison" (.dict block)) :=
    ⟨hblock,getD_set_self _ _ _ _,getD_set_of_ne (by decide) _ _⟩
  refine ⟨_,?_,?_,hkept⟩
  · unfold mergeIntoProposal
    rw [hblock]
    rfl
  · refine ⟨(hkept _ (by decide)).trans hquote.agent,hheld,?_,?_,?_,?_,?_⟩
    · have hasked := hquote.asked
      unfold recommended at hasked ⊢
      rw [getD_set_of_ne (by decide), getD_set_of_ne (by decide)]
      exact hasked
    · intro m
      rw [hcarries.scored_again (h.covered m)]
      exact h.scored m
    · exact carries_covered hcarries
    · intro axis
      cases axis with
      | scored m => exact readable_of_scored ((hcarries.scored_again (h.covered m)).trans (h.scored m))
      | delivery =>
        obtain ⟨x,_,hentry⟩ := hcarries.get_axis .delivery
        exact ⟨x,congrArg (numberOr · _) hentry⟩
      | material =>
        obtain ⟨x,_,hentry⟩ := hcarries.get_axis .material
        exact ⟨x,congrArg (numberOr · _) hentry⟩
    · rw [getD_set_of_ne (by decide)]
      exact hquote.business

/-! ### The five agents -/

def offered (p : Dict) (agentId : String) (speed : ℤ) (g : Metric → ℚ) (b : ℚ) : Offer :=
  { answer := p, agentId := agentId, speed := speed, metrics := gradedMetrics g, business := b }

theorem Plain.sound (h : Plain p g) (hquote : Quote p agentId speed b) (hheld : |speed| ≤ 2 ^ 53) :
    (offered p agentId speed g b).Sound := h.bid hquote hheld

/-- KPI scores as the agents give them. -/
def kpiScores (quality delivery cost safety : ℚ) : Dict :=
  [("quality", .float (.fin quality)), ("delivery", .float (.fin delivery)),
    ("cost", .float (.fin cost)), ("safety", .float (.fin safety))]

def businessOf (quality delivery cost safety : ℚ) : ℚ :=
  3/10 * quality + 1/4 * delivery + 1/4 * cost + 1/5 * safety

theorem business_kpiScores {q d c s : ℚ} (hq : 0 ≤ q ∧ q ≤ 1) (hd : 0 ≤ d ∧ d ≤ 1)
    (hc : 0 ≤ c ∧ c ≤ 1) (hs : 0 ≤ s ∧ s ≤ 1) :
    businessScore (kpiScores q d c s) defaultKpiWeights = .ok (.fin (businessOf q d c s)) := by
  obtain ⟨hq,hq'⟩ := hq
  obtain ⟨hd,hd'⟩ := hd
  obtain ⟨hc,hc'⟩ := hc
  obtain ⟨hs,hs'⟩ := hs
  have hquality : getD (kpiScores q d c s) "quality" (.float (.fin 0)) = .float (.fin q) := rfl
  have hdelivery : getD (kpiScores q d c s) "delivery" (.float (.fin 0)) = .float (.fin d) := rfl
  have hcost : getD (kpiScores q d c s) "cost" (.float (.fin 0)) = .float (.fin c) := rfl
  have hsafety : getD (kpiScores q d c s) "safety" (.float (.fin 0)) = .float (.fin s) := rfl
  unfold businessScore defaultKpiWeights
  simp only [List.foldlM_cons, List.foldlM_nil, hquality, hdelivery, hcost, hsafety]
  dsimp only [bind, Except.bind, pure, Except.pure, Val.toFloat]
  rw [mul_small (by rw [abs_le]; constructor <;> linarith),
    add_small (by rw [abs_le]; constructor <;> linarith),
    mul_small (by rw [abs_le]; constructor <;> linarith),
    add_small (by rw [abs_le]; constructor <;> linarith),
    mul_small (by rw [abs_le]; constructor <;> linarith),
    add_small (by rw [abs_le]; constructor <;> linarith),
    mul_small (by rw [abs_le]; constructor <;> linarith),
    add_small (by rw [abs_le]; constructor <;> linarith)]
  unfold businessOf
  congr 2
  ring

/-- An agent that merges a block into its proposal; the other entries stay as they are. -/
theorem sound_merged {raw : Dict} {Q : Dict → Prop} (hplain : Plain raw g)
    (hquote : Quote raw agentId speed b) (hheld : |speed| ≤ 2 ^ 53)
    (hkept : ∀ q, (∀ key, key ≠ "comparison" → Assoc.get q key = Assoc.get raw key) → Q q) :
    ∃ p, mergeIntoProposal printer raw = .ok p ∧ (offered p agentId speed g b).Sound ∧ Q p := by
  obtain ⟨q,hq,hbid,hsame⟩ := hplain.bid_merged hquote hheld printer
  exact ⟨q,hq,hbid,hkept q hsame⟩

/-- The hours of the equipment agent's worst station. -/
def worstHours (ea : EquipmentAgent) : ℚ :=
  ((EquipmentAgent.worstStation ea.rulEstimates).map Prod.snd).getD 999

def equipmentCost (hours : ℚ) : ℚ := max 0 (min 1 (1 - min hours 120 / 120))

def equipmentMetrics (hours : ℚ) : Metric → ℚ
  | .effect => roundTo 4 (1 - equipmentCost hours)
  | .cost => roundTo 4 (equipmentCost hours)
  | .quality => 7/20
  | .violation => if hours < 4 then 1 else if hours < 8 then 1/2 else 0
  | .confidence => 3/4

theorem equipment_offer (printer : Printer) (ea : EquipmentAgent) :
    ∃ p, ea.handleCfp printer = .ok p ∧
      (offered p "EA" (if worstHours ea < 8 then 80 else 100) (equipmentMetrics (worstHours ea))
        (businessOf (7/10) (3/5) (1/2) (9/10))).Sound ∧
      Assoc.get p "inspection_mode" = none ∧
      Assoc.get p "maintenance_needed" =
        some (.list (ea.maintenanceQueue.map fun m => .dict m.toDict)) := by
  unfold EquipmentAgent.handleCfp
  refine sound_merged ?_ ?_ (by split <;> norm_num)
    fun q hq => ⟨hq _ (by decide),hq _ (by decide)⟩
  · exact ⟨rfl,shown_eq _,shown_eq _,.inl rfl,⟨rfl,rfl⟩,shown_eq _,⟨_,rfl⟩,⟨_,rfl⟩⟩
  · exact ⟨rfl,rfl,business_kpiScores (by norm_num) (by norm_num) (by norm_num) (by norm_num)⟩

/-! The quality agent -/

def qualityCost (worst : ℚ) : ℚ :=
  if worst < 133/100 then max 0 (min 1 ((133/100 - worst) / (133/100))) else 0

def qualityMetrics (worst : ℚ) : Metric → ℚ
  | .effect => roundTo 4 (1/2 + 1/2 * (worst / (133/100)))
  | .cost => roundTo 4 (qualityCost worst)
  | .quality => roundTo 4 (1 - min 1 (worst / (133/100)))
  | .violation => if worst < 1 then 1 else if worst < 133/100 then 1/2 else 0
  | .confidence => 41/50

/-- The inspection that the quality agent proposes. -/
def proposedMode (worst : ℚ) : String := if worst < 1 then "전수" else "강화"

theorem quality_offer (printer : Printer) (qa : QualityAgent) :
    ∃ p, qa.handleCfp printer = .ok p ∧
      (offered p "QA" (if qa.worstCpk < 1 then 70 else 90) (qualityMetrics qa.worstCpk)
        (businessOf (9/10) (1/2) (2/5) (4/5))).Sound ∧
      Assoc.get p "inspection_mode" = some (.str (proposedMode qa.worstCpk)) := by
  unfold QualityAgent.handleCfp
  refine sound_merged ?_ ?_ (by split <;> norm_num) fun q hq => hq _ (by decide)
  · exact ⟨rfl,shown_eq _,shown_eq _,.inl rfl,⟨rfl,rfl⟩,shown_eq _,⟨_,rfl⟩,⟨_,rfl⟩⟩
  · exact ⟨rfl,rfl,business_kpiScores (by norm_num) (by norm_num) (by norm_num) (by norm_num)⟩

/-! The other three, which give a cost and a violation only -/

def costMetrics (cost violation : ℚ) : Metric → ℚ
  | .cost => roundTo 4 cost
  | .violation => violation
  | .effect | .quality | .confidence => 0

def supplyCost (sa : SupplyAgent) : ℚ :=
  min 1 (1/5 * ((sa.reorderLog.rtake 5).filter fun r => r.type = "긴급발주").length +
    1/20 * (sa.reorderLog.rtake 10).length)

def supplyViolation (sa : SupplyAgent) : ℚ :=
  if !((sa.reorderLog.rtake 5).filter fun r => r.type = "긴급발주").isEmpty then 1
  else if !sa.reorderLog.isEmpty then 2/5 else 0

theorem supply_offer (sa : SupplyAgent) :
    (offered sa.handleCfp "SA" 100 (costMetrics (supplyCost sa) (supplyViolation sa))
      (businessOf (1/2) (4/5) (3/5) (3/5))).Sound := by
  have hplain : Plain sa.handleCfp (costMetrics (supplyCost sa) (supplyViolation sa)) :=
    ⟨rfl,rfl,shown_eq _,.inr ⟨rfl,rfl⟩,⟨rfl,rfl⟩,rfl,⟨_,rfl⟩,⟨_,rfl⟩⟩
  exact hplain.sound
    ⟨rfl,rfl,business_kpiScores (by norm_num) (by norm_num) (by norm_num) (by norm_num)⟩ (by norm_num)

def demandCost (cu : ℚ) : ℚ := if 1 < cu then max 0 (min 1 (cu - 1)) else 0

def demandViolation (cu : ℚ) : ℚ := if 11/10 < cu then 1 else if 1 < cu then 1/2 else 0

theorem demand_offer (da : DemandAgent) :
    (offered da.handleCfp "DA" (if 1 < da.capacityUtil then 110 else 100)
      (costMetrics (demandCost da.capacityUtil) (demandViolation da.capacityUtil))
      (businessOf (1/2) (9/10) (3/5) (1/2))).Sound := by
  have hplain : Plain da.handleCfp
      (costMetrics (demandCost da.capacityUtil) (demandViolation da.capacityUtil)) :=
    ⟨rfl,rfl,shown_eq _,.inr ⟨rfl,rfl⟩,⟨rfl,rfl⟩,rfl,⟨_,rfl⟩,⟨_,rfl⟩⟩
  exact hplain.sound
    ⟨rfl,rfl,business_kpiScores (by norm_num) (by norm_num) (by norm_num) (by norm_num)⟩
    (by split <;> norm_num)

def inventoryCost (ia : InventoryAgent) : ℚ :=
  min 1 (ia.lastScrapRate * 8 + if InventoryAgent.trendUp ia.throughputHistory then 3/25 else 0)

def inventoryViolation (ia : InventoryAgent) : ℚ :=
  min 1 (7/20 * ia.lastWipAlertN + if ia.bottleneckStation.any (· ≠ "") then 9/20 else 0)

theorem inventory_offer (ia : InventoryAgent) :
    (offered ia.handleCfp "IA" 100 (costMetrics (inventoryCost ia) (inventoryViolation ia))
      (businessOf (3/5) (7/10) (7/10) (1/2))).Sound := by
  have hplain : Plain ia.handleCfp (costMetrics (inventoryCost ia) (inventoryViolation ia)) :=
    ⟨rfl,rfl,shown_eq _,.inr ⟨rfl,rfl⟩,⟨rfl,rfl⟩,rfl,⟨_,rfl⟩,⟨_,rfl⟩⟩
  exact hplain.sound
    ⟨rfl,rfl,business_kpiScores (by norm_num) (by norm_num) (by norm_num) (by norm_num)⟩ (by norm_num)

/-! ### All members alike -/

def speedOf (c : Crew) : Member → ℤ
  | .ea => if worstHours c.ea < 8 then 80 else 100
  | .qa => if c.qa.worstCpk < 1 then 70 else 90
  | .da => if 1 < c.da.capacityUtil then 110 else 100
  | .sa | .ia => 100

def metricsFor (c : Crew) : Member → Metric → ℚ
  | .ea => equipmentMetrics (worstHours c.ea)
  | .qa => qualityMetrics c.qa.worstCpk
  | .sa => costMetrics (supplyCost c.sa) (supplyViolation c.sa)
  | .da => costMetrics (demandCost c.da.capacityUtil) (demandViolation c.da.capacityUtil)
  | .ia => costMetrics (inventoryCost c.ia) (inventoryViolation c.ia)

def businessFor : Member → ℚ
  | .ea => businessOf (7/10) (3/5) (1/2) (9/10)
  | .qa => businessOf (9/10) (1/2) (2/5) (4/5)
  | .sa => businessOf (1/2) (4/5) (3/5) (3/5)
  | .da => businessOf (1/2) (9/10) (3/5) (1/2)
  | .ia => businessOf (3/5) (7/10) (7/10) (1/2)

/-- The offer that a member's answer makes. -/
def offerOf (c : Crew) (m : Member) (p : Dict) : Offer :=
  offered p m.agentId (speedOf c m) (metricsFor c m) (businessFor m)

/-- Only the quality agent proposes an inspection, and only the equipment agent names work. -/
structure Particulars (c : Crew) (m : Member) (p : Dict) : Prop where
  mode : Assoc.get p "inspection_mode" =
    if m = .qa then some (.str (proposedMode c.qa.worstCpk)) else none
  needed : m = .ea → Assoc.get p "maintenance_needed" =
    some (.list (c.ea.maintenanceQueue.map fun action => .dict action.toDict))

/-- Whatever it has seen, a member answers, and its answer can be scored. -/
theorem member_offer (printer : Printer) (c : Crew) (m : Member) :
    ∃ p, c.handleCfp printer m = .ok p ∧ (offerOf c m p).Sound ∧ Particulars c m p := by
  cases m with
  | ea =>
    obtain ⟨p,hp,hsound,hmode,hneeded⟩ := equipment_offer printer c.ea
    exact ⟨p,hp,hsound,hmode,fun _ => hneeded⟩
  | qa =>
    obtain ⟨p,hp,hsound,hmode⟩ := quality_offer printer c.qa
    exact ⟨p,hp,hsound,hmode,fun h => by cases h⟩
  | sa => exact ⟨_,rfl,supply_offer c.sa,rfl,fun h => by cases h⟩
  | da => exact ⟨_,rfl,demand_offer c.da,rfl,fun h => by cases h⟩
  | ia => exact ⟨_,rfl,inventory_offer c.ia,rfl,fun h => by cases h⟩

/-- After the limits only four speeds are left. -/
theorem clamped_speedOf (c : Crew) (m : Member) :
    clampedSpeed (speedOf c m) ∈ [70, 80, 90, 100] := by
  cases m with
  | ea => by_cases h : worstHours c.ea < 8 <;> simp [speedOf, h, clampedSpeed]
  | qa => by_cases h : c.qa.worstCpk < 1 <;> simp [speedOf, h, clampedSpeed]
  | da => by_cases h : 1 < c.da.capacityUtil <;> simp [speedOf, h, clampedSpeed]
  | sa | ia => simp [speedOf, clampedSpeed]

end ManufacturingMas.Proofs.CrewOffers
