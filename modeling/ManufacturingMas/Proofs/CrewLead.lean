import ManufacturingMas.Proofs.CrewRounds
import ManufacturingMas.Proofs.QualityWatch
import ManufacturingMas.Proofs.SpeedSafety
import ManufacturingMas.Proofs.UnitBalance

/-! Which agent leads the rounds of the built line. -/

namespace ManufacturingMas.Proofs.CrewLead
open Py Machines Environment Protocol Intelligence Agents PlanningLoop LineSpeed
  CrewLoops Stateful ScoreParts RoundEffects StrategyAgreement Bids CrewOffers CrewRounds SpeedSafety

/-! ### What the offers score -/

/-- A metric between 0 and 1. -/
def Unit (q : ℚ) : Prop := 0 ≤ q ∧ q ≤ 1

theorem Unit.graded {m : Metric} {q : ℚ} (h : Unit q) : Unit (graded m.default q) := by
  unfold CrewOffers.graded
  split
  · exact m.default_unit
  · exact h

theorem Unit.round {q : ℚ} (h : Unit q) (digits : Nat) : Unit (roundTo digits q) :=
  ⟨roundTo_nonneg digits h.1,roundTo_le_one digits h.2⟩

theorem unit_clamp (q : ℚ) : Unit (max 0 (min 1 q)) :=
  ⟨le_max_left _ _,max_le zero_le_one (min_le_left _ _)⟩

theorem unit_min {q : ℚ} (h : 0 ≤ q) : Unit (min 1 q) := ⟨le_min zero_le_one h,min_le_left _ _⟩

theorem unit_choice {p : Prop} [Decidable p] {x y : ℚ} (hx : Unit x) (hy : Unit y) :
    Unit (if p then x else y) := by
  split
  · exact hx
  · exact hy

theorem unit_zero : Unit 0 := ⟨le_rfl,zero_le_one⟩
theorem unit_one : Unit 1 := ⟨zero_le_one,le_rfl⟩
theorem unit_half : Unit (1/2) := ⟨by norm_num,by norm_num⟩

/-- Metrics that all lie between 0 and 1 are moderate. -/
theorem moderate_of_unit {r : Metric → ℚ} {b : ℚ} (hr : ∀ m, Unit (r m)) (hb : |b| ≤ 100) :
    Moderate r b := by
  have hproduct : |r .effect * r .confidence| ≤ 2 := by
    rw [abs_of_nonneg (mul_nonneg (hr _).1 (hr _).1)]
    exact (mul_le_one₀ (hr _).2 (hr _).1 (hr _).2).trans one_le_two
  have hsmall : ∀ m, |r m| ≤ 2 := fun m => by
    rw [abs_of_nonneg (hr m).1]
    exact (hr m).2.trans one_le_two
  exact ⟨hproduct,hsmall .cost,hsmall .quality,hr .violation,hb⟩

theorem equipment_unit (hours : ℚ) (m : Metric) : Unit (equipmentMetrics hours m) := by
  have hcost : Unit (equipmentCost hours) := unit_clamp _
  cases m with
  | effect => exact Unit.round ⟨sub_nonneg.mpr hcost.2,sub_le_self 1 hcost.1⟩ 4
  | cost => exact hcost.round 4
  | quality => exact ⟨by norm_num [equipmentMetrics],by norm_num [equipmentMetrics]⟩
  | violation => exact unit_choice unit_one (unit_choice unit_half unit_zero)
  | confidence => exact ⟨by norm_num [equipmentMetrics],by norm_num [equipmentMetrics]⟩

theorem cost_unit {cost violation : ℚ} (hcost : Unit cost) (hviolation : Unit violation)
    (m : Metric) : Unit (costMetrics cost violation m) := by
  cases m with
  | cost => exact hcost.round 4
  | violation => exact hviolation
  | effect | quality | confidence => exact unit_zero

theorem supply_unit (sa : SupplyAgent) : Unit (supplyCost sa) ∧ Unit (supplyViolation sa) := by
  refine ⟨unit_min (by positivity),?_⟩
  exact unit_choice unit_one (unit_choice ⟨by norm_num,by norm_num⟩ unit_zero)

theorem demand_unit (cu : ℚ) : Unit (demandCost cu) ∧ Unit (demandViolation cu) :=
  ⟨unit_choice (unit_clamp _) unit_zero,
    unit_choice unit_one (unit_choice unit_half unit_zero)⟩

theorem inventory_unit {ia : InventoryAgent} (h : 0 ≤ ia.lastScrapRate) :
    Unit (inventoryCost ia) ∧ Unit (inventoryViolation ia) := by
  have htrend : (0 : ℚ) ≤ if InventoryAgent.trendUp ia.throughputHistory then 3/25 else 0 := by
    split <;> norm_num
  have hstation : (0 : ℚ) ≤ if ia.bottleneckStation.any (· ≠ "") then 9/20 else 0 := by
    split <;> norm_num
  exact ⟨unit_min (by positivity),unit_min (by positivity)⟩

/-- No rounding brings a total above a bound that the exact one is well below. -/
theorem total_lt {o : Offer} {q : ℚ} (h : exactTotal o.metrics o.business ≤ q) :
    o.total ≤ q + 1/20000 := by
  have hround := abs_le.mp (abs_roundTo_sub_le 4 (exactTotal o.metrics o.business))
  unfold Offer.total
  linarith

theorem graded_of_ne {d q : ℚ} (h : q ≠ 0) : graded d q = q := if_neg h

@[simp] theorem graded_zero (d : ℚ) : graded d 0 = d := if_pos rfl

/-- Three of the agents leave the effect and the confidence to the defaults. -/
theorem cost_total {cost violation b : ℚ} (hcost : Unit cost) (hviolation : Unit violation) :
    exactTotal (gradedMetrics (costMetrics cost violation)) b ≤ 2/5 * b + 33/200 := by
  have hcost' : 0 ≤ gradedMetrics (costMetrics cost violation) .cost :=
    (hcost.round 4).graded.1
  have hviolation' : 0 ≤ gradedMetrics (costMetrics cost violation) .violation :=
    hviolation.graded.1
  have heffect : gradedMetrics (costMetrics cost violation) .effect = 1/2 := graded_zero _
  have hquality : gradedMetrics (costMetrics cost violation) .quality = nearestDouble (3/10) :=
    graded_zero _
  have hconfidence : gradedMetrics (costMetrics cost violation) .confidence =
      nearestDouble (7/10) := graded_zero _
  have hdefaults : 1/2 * nearestDouble (7/10) - 1/4 * nearestDouble (3/10) ≤ 11/40 := by
    decide +kernel
  unfold exactTotal exactComparison
  rw [heffect, hquality, hconfidence]
  linarith

theorem equipment_total (hours b : ℚ) :
    exactTotal (gradedMetrics (equipmentMetrics hours)) b ≤ 2/5 * b + 159/400 := by
  have heffect : gradedMetrics (equipmentMetrics hours) .effect ≤ 1 :=
    (equipment_unit hours .effect).graded.2
  have hcost : 0 ≤ gradedMetrics (equipmentMetrics hours) .cost :=
    (equipment_unit hours .cost).graded.1
  have hviolation : 0 ≤ gradedMetrics (equipmentMetrics hours) .violation :=
    (equipment_unit hours .violation).graded.1
  have hquality : gradedMetrics (equipmentMetrics hours) .quality = 7/20 :=
    graded_of_ne (by norm_num [equipmentMetrics])
  have hconfidence : gradedMetrics (equipmentMetrics hours) .confidence = 3/4 :=
    graded_of_ne (by norm_num [equipmentMetrics])
  unfold exactTotal exactComparison
  rw [hquality, hconfidence]
  linarith

/-- Without a capability the quality agent scores its fixed numbers. -/
theorem blind_scores :
    let r := gradedMetrics (qualityMetrics 2)
    r .effect = 12519/10000 ∧ r .cost = 1/2 ∧ r .quality = nearestDouble (3/10) ∧ r .violation = 0 ∧
      r .confidence = 41/50 := by
  decide +kernel

theorem blind_total {c : Crew} (h : c.qa.worstCpk = 2) (printer : Printer) :
    (crewOffer printer c .qa).total = 7279/10000 := by
  change roundTo 4 (exactTotal (gradedMetrics (qualityMetrics c.qa.worstCpk))
    (businessOf (9/10) (1/2) (2/5) (4/5))) = _
  obtain ⟨heffect,hcost,hquality,hviolation,hconfidence⟩ := blind_scores
  unfold exactTotal exactComparison
  rw [h, heffect, hcost, hquality, hviolation, hconfidence]
  decide +kernel

/-- What the offers are worth before the quality agent knows a capability, and while no
scrap rate is negative. -/
structure Uninformed (c : Crew) : Prop where
  worst : c.qa.worstCpk = 2
  rate : 0 ≤ c.ia.lastScrapRate

theorem businessFor_small (m : Member) : |businessFor m| ≤ 100 := by
  cases m <;> norm_num [businessFor, businessOf, abs_le]

theorem Uninformed.moderate {c : Crew} (h : Uninformed c) (printer : Printer) (m : Member) :
    (crewOffer printer c m).Moderate := by
  change Moderate (gradedMetrics (metricsFor c m)) (businessFor m)
  have hsmall := businessFor_small m
  cases m with
  | ea => exact moderate_of_unit (fun n => (equipment_unit _ n).graded) hsmall
  | qa =>
    obtain ⟨heffect,hcost,hquality,hviolation,hconfidence⟩ := blind_scores
    rw [show metricsFor c .qa = qualityMetrics 2 from congrArg qualityMetrics h.worst]
    refine ⟨?_,?_,?_,?_,hsmall⟩
    · rw [heffect, hconfidence]
      norm_num [abs_le]
    · rw [hcost]
      norm_num [abs_le]
    · obtain ⟨hlow,hhigh⟩ := Metric.quality.default_unit
      rw [hquality]
      exact (abs_of_nonneg hlow).trans_le (hhigh.trans one_le_two)
    · rw [hviolation]
      exact unit_zero
  | sa =>
    obtain ⟨hcost,hviolation⟩ := supply_unit c.sa
    exact moderate_of_unit (fun n => (cost_unit hcost hviolation n).graded) hsmall
  | da =>
    obtain ⟨hcost,hviolation⟩ := demand_unit c.da.capacityUtil
    exact moderate_of_unit (fun n => (cost_unit hcost hviolation n).graded) hsmall
  | ia =>
    obtain ⟨hcost,hviolation⟩ := inventory_unit h.rate
    exact moderate_of_unit (fun n => (cost_unit hcost hviolation n).graded) hsmall

/-- No other agent comes near the quality agent's total. -/
theorem Uninformed.below {c : Crew} (h : Uninformed c) (printer : Printer) {m : Member}
    (hm : m ≠ .qa) : (crewOffer printer c m).total < (crewOffer printer c .qa).total := by
  rw [blind_total h.worst]
  have hexact : exactTotal (gradedMetrics (metricsFor c m)) (businessFor m) ≤ 7/10 := by
    cases m with
    | ea =>
      refine (equipment_total (worstHours c.ea) _).trans ?_
      norm_num [businessFor, businessOf]
    | qa => exact absurd rfl hm
    | sa =>
      obtain ⟨hcost,hviolation⟩ := supply_unit c.sa
      refine (cost_total hcost hviolation).trans ?_
      norm_num [businessFor, businessOf]
    | da =>
      obtain ⟨hcost,hviolation⟩ := demand_unit c.da.capacityUtil
      refine (cost_total hcost hviolation).trans ?_
      norm_num [businessFor, businessOf]
    | ia =>
      obtain ⟨hcost,hviolation⟩ := inventory_unit h.rate
      refine (cost_total hcost hviolation).trans ?_
      norm_num [businessFor, businessOf]
  have htotal : (crewOffer printer c m).total ≤ 7/10 + 1/20000 := total_lt hexact
  linarith

/-! ### The round that the quality agent leads -/

/-- The strategy of a round whose best proposal is the quality agent's. -/
structure Led (strategy : Dict) : Prop where
  target : Assoc.get strategy "target_speed_pct" = some (.int 90)
  best : Assoc.get strategy "best_agent" = some (.str "QA")
  notFull : isFullInspection (getD strategy "inspection_mode" (.str "")) = false

variable {c : Crew} {printer : Printer} {ranked enriched : List Dict}

theorem RankedCrew.leader (h : RankedCrew printer c ranked enriched) (hc : Uninformed c) :
    ∃ best others, ranked = best :: others ∧ (crewOffer printer c .qa).StoredAs best := by
  refine best_first (h.sorted (hc.moderate printer)) h.perm h.stored ?_
    (List.mem_map_of_mem (mem_members .qa)) ?_
  · intro o ho
    obtain ⟨m,_,rfl⟩ := List.mem_map.mp ho
    exact hc.moderate printer m
  · intro o ho
    obtain ⟨m,_,rfl⟩ := List.mem_map.mp ho
    by_cases hm : m = .qa
    · exact .inl (by rw [hm])
    · exact .inr (hc.below printer hm)

/-- Both ways of deciding take the speed of the quality agent. -/
theorem RankedCrew.led (h : RankedCrew printer c ranked enriched) (hc : Uninformed c)
    (env : CnpEnv (Mail Crew)) (llm : Option LLMClient) (cnpId : Nat) (snapshot : Dict) :
    Led (buildStrategy env llm cnpId ranked snapshot) := by
  obtain ⟨best,others,hranked,hstored⟩ := RankedCrew.leader h hc
  have hqa : Recommends c .qa best := .of_stored hstored
  have hnot : ¬ c.qa.worstCpk < 1 := by
    rw [hc.worst]
    norm_num
  have hspeed : Assoc.get best "speed_recommendation" = some (.int 90) := by
    rw [hqa.speed]
    unfold speedOf
    rw [if_neg hnot]
    rfl
  have hmode : Assoc.get best "inspection_mode" = some (.str "강화") := by
    rw [hqa.mode, if_pos rfl]
    unfold proposedMode
    rw [if_neg hnot]
  have hrules : Led (buildStrategyRules cnpId ranked) := by
    rw [hranked]
    refine ⟨congrArg some (getD_of_some hspeed _),congrArg some (getD_of_some hqa.agent _),?_⟩
    change isFullInspection (getD best "inspection_mode" (.str "standard")) = false
    rw [getD_of_some hmode]
    decide
  have hscores : ∀ p ∈ best :: others, ∃ t c b, FiniteScores p t c b := by
    intro p hp
    obtain ⟨m,_,hp⟩ := h.recommends (hranked ▸ hp)
    exact ⟨_,_,_,hp.totals (hc.moderate printer m)⟩
  have hsorted := h.sorted (hc.moderate printer)
  rw [hranked] at hsorted
  have hnumeric := cnpNumericStrategy_eq hscores hsorted
    (hstored.totals (hc.moderate printer .qa))
    ⟨getD_of_some hspeed _,by norm_num,by norm_num⟩
  have hsolver : ∀ context solver, ∀ client : LLMClient,
      client.evaluateProposals context ranked = .ok (some solver) →
      Led (Assoc.set solver "cnp_id" (.int cnpId)) := by
    intro context solver client hsolver
    rw [hranked] at hsolver
    refine ⟨?_,?_,?_⟩
    · rw [Assoc.get_set_of_ne (by decide), get_of_evaluateProposals hnumeric hsolver (by decide)]
      rfl
    · rw [Assoc.get_set_of_ne (by decide), get_of_evaluateProposals hnumeric hsolver (by decide)]
      exact congrArg some (getD_of_some hqa.agent _)
    · have hlabel : Assoc.get (Assoc.set solver "cnp_id" (.int cnpId)) "inspection_mode" =
          some (solverLabel (getD best "inspection_mode" (.str "standard"))) := by
        rw [Assoc.get_set_of_ne (by decide),
          get_of_evaluateProposals hnumeric hsolver (by decide)]
        rfl
      rw [getD_of_some hlabel]
      exact not_full_solverLabel _
  unfold buildStrategy
  split
  · split
    · unfold buildStrategyLlm
      split
      · rename_i result hresult
        split
        · exact hrules
        · obtain ⟨context,_,hevaluated⟩ := Traverse.bind_ok_iff.mp hresult
          exact hsolver context _ _ hevaluated
      · exact hrules
    · exact hrules
  · exact hrules

/-! ### What the agents know -/

/-- A snapshot of the built line: no reading has limits, and no scrap count is negative. -/
structure Unread (snapshot : FactorySnapshot.Snapshot) : Prop where
  unlimited : ∀ p ∈ snapshot.stations, QualityWatch.Unlimited (p.1, p.2.sensors.map Prod.fst)
  scrap : 0 ≤ snapshot.scrapCount

/-- The quality agent has no capability, and no scrap rate is negative. -/
structure Blind (c : Crew) : Prop where
  histories : c.qa.cpkHistory = []
  rate : 0 ≤ c.ia.lastScrapRate

theorem Blind.uninformed (h : Blind c) : Uninformed c := by
  refine ⟨?_,h.rate⟩
  unfold QualityAgent.worstCpk
  rw [h.histories]
  rfl

theorem quality_cycle (root : ℚ → ℚ) {qa : QualityAgent} {snapshot : FactorySnapshot.Snapshot}
    (h : qa.cpkHistory = []) (hsnapshot : Unread snapshot) :
    ((QualityAgent.agentClass root).afterCycle qa snapshot).cpkHistory = [] := by
  refine AgentClass.afterCycle_on (P := fun qa : QualityAgent => qa.cpkHistory = []) ?_ ?_
    (fun d qa hqa => hqa) ?_ h
  · intro qa hqa
    have hsense : ∃ obs qa', QualityAgent.sense root snapshot qa = .ok obs qa' ∧
        QualityWatch.Blind qa.cpkHistory (qa',obs) :=
      QualityWatch.sense_blind qa hsnapshot.unlimited
    obtain ⟨obs,qa',hsense,hblind,_⟩ := hsense
    have hreturns : (QualityAgent.agentClass root).sense snapshot qa = .ok obs qa' := hsense
    rw [hreturns]
    exact hblind.trans hqa
  · intro obs qa hqa
    change (qa.reason obs).2.cpkHistory = []
    unfold QualityAgent.reason
    dsimp only
    split <;> exact hqa
  · intro decision qa hqa
    cases decision <;> exact hqa

theorem inventory_cycle {ia : InventoryAgent} {snapshot : FactorySnapshot.Snapshot}
    (h : 0 ≤ ia.lastScrapRate) (hsnapshot : Unread snapshot) :
    0 ≤ (InventoryAgent.agentClass.afterCycle ia snapshot).lastScrapRate := by
  refine AgentClass.afterCycle_on (P := fun ia : InventoryAgent => 0 ≤ ia.lastScrapRate) ?_ ?_
    (fun d ia hia => hia) ?_ h
  · intro ia _
    change (0 : ℚ) ≤ snapshot.scrapCount / max 1 (snapshot.totalProduced + snapshot.scrapCount)
    have hscrap : (0 : ℚ) ≤ snapshot.scrapCount := by exact_mod_cast hsnapshot.scrap
    positivity
  · intro obs ia hia
    change 0 ≤ (ia.reason obs).2.lastScrapRate
    unfold InventoryAgent.reason
    dsimp only
    split <;> exact hia
  · intro decision ia hia
    cases decision <;> exact hia

theorem Blind.cycle {root : ℚ → ℚ} {snapshot : FactorySnapshot.Snapshot} (h : Blind c)
    (hsnapshot : Unread snapshot) (m : Member) : Blind (c.cycle printer root snapshot m) := by
  cases m with
  | qa => exact ⟨quality_cycle root h.histories hsnapshot,h.rate⟩
  | ia => exact ⟨h.histories,inventory_cycle h.rate hsnapshot⟩
  | ea | sa | da => exact ⟨h.histories,h.rate⟩

theorem Blind.executed {c' : Crew} (h : Blind c) (hc' : Executed c c') : Blind c' := by
  have hhistories : c'.qa.cpkHistory = c.qa.cpkHistory :=
    congrArg (fun c => c.qa.cpkHistory) hc'
  have hrate : c'.ia.lastScrapRate = c.ia.lastScrapRate := congrArg (fun c => c.ia.lastScrapRate) hc'
  exact ⟨hhistories.trans h.histories,hrate ▸ h.rate⟩

/-! ### Rounds of the runtime -/

/-- How a round goes in a state. -/
def result (r : CrewRound) (s : CrewState) : EStateM.Result PyErr (CnpWorld (Mail Crew)) (Option Dict) :=
  roundResult r.rt r.t s.runtime

theorem result_eq (r : CrewRound) (s : CrewState) : result r s =
    initiateCnp r.t.env r.rt.llm (responders r.t.env.printer)
      (enrichSnapshotForAgents r.rt.adapter r.t.snapshot.dict) s.runtime.pa.world.rest.cnp := by
  unfold result roundResult
  rw [r.asked]

theorem crew_round_apply (root : ℚ → ℚ) (r : CrewRound) (s : CrewState) :
    (s.apply root (.round r)).crew = (finalState (result r s)).rest.others := by
  change (startRound r.rt r.t { s.runtime.pa with
    line := s.runtime.factory.line }).world.rest.cnp.rest.others = _
  unfold startRound
  dsimp only
  rw [← roundResult]
  change _ = (finalState (roundResult r.rt r.t s.runtime)).rest.others
  cases roundResult r.rt r.t s.runtime with
  | error e cnp => rfl
  | ok strategy cnp =>
    cases strategy with
    | none => rfl
    | some strategy => cases strategy <;> rfl

/-- A round leaves the members as they were, or has them execute what they offered. -/
theorem crew_after_round (root : ℚ → ℚ) (r : CrewRound) (s : CrewState) :
    (s.apply root (.round r)).crew = s.crew ∨ Executed s.crew (s.apply root (.round r)).crew := by
  rw [crew_round_apply, result_eq]
  by_cases hnone : ∀ strategy w', initiateCnp r.t.env r.rt.llm (responders r.t.env.printer)
      (enrichSnapshotForAgents r.rt.adapter r.t.snapshot.dict) s.runtime.pa.world.rest.cnp ≠
      .ok (some strategy) w'
  · exact .inl (initiateCnp_idle r.quiet hnone).1
  · push Not at hnone
    obtain ⟨strategy,w',hrun⟩ := hnone
    obtain ⟨_,_,_,_,_,_,hexecuted⟩ := initiateCnp_ranked r.quiet hrun
    rw [hrun]
    exact .inr hexecuted

/-! ### Any number of events -/

/-- The line has the sensors it was built with, and no agent has met a limit. -/
structure Unwatched (s : CrewState) : Prop where
  keys : s.runtime.factory.line.map QualityWatch.sensorKeys =
    createProductionLine.map QualityWatch.sensorKeys
  scrap : 0 ≤ s.runtime.factory.scrapCount
  crew : Blind s.crew
  snapshot : ∀ snapshot, s.snapshot = some snapshot → Unread snapshot

theorem stationEvent_keys (e : FactoryEvents.StationEvent) (station : WorkCenter) :
    QualityWatch.sensorKeys (e.apply station) = QualityWatch.sensorKeys station := by
  have hsensors : ∀ i (f : RealisticSensor → RealisticSensor),
      (station.sensors.modify i fun p => (p.1, f p.2)).map Prod.fst =
        station.sensors.map Prod.fst :=
    fun i f => FactoryCycle.map_modify_same (f := fun p => (p.1, f p.2)) (fun _ => rfl) i _
  cases e with
  | qualityDrift sensor magnitude =>
    exact congrArg (Prod.mk station.stationId) (hsensors sensor (·.injectShock magnitude))
  | recoverSensor sensor amount =>
    exact congrArg (Prod.mk station.stationId) (hsensors sensor (·.recover amount))
  | _ => rfl

theorem runCycle_scrap {f : Factory} (h : 0 ≤ f.scrapCount) (d : CycleDraws) :
    0 ≤ (f.runCycle d).1.scrapCount := by
  obtain ⟨hscrap,_⟩ := FactoryCycle.runCycle_rejects f d
  have hone : 0 ≤ FactoryCycle.one .scrap (FactoryCycle.finalStatus f d) := by
    unfold FactoryCycle.one
    split <;> norm_num
  omega

theorem Unwatched.event {s : CrewState} (h : Unwatched s) (e : FactoryEvents.FactoryEvent) :
    (e.apply s.runtime.factory).line.map QualityWatch.sensorKeys =
        createProductionLine.map QualityWatch.sensorKeys ∧
      0 ≤ (e.apply s.runtime.factory).scrapCount := by
  cases e with
  | runCycle d =>
    exact ⟨(QualityWatch.runCycle_keys _ d).trans h.keys,runCycle_scrap h.scrap d⟩
  | station i e =>
    exact ⟨(FactoryCycle.map_modify_same (stationEvent_keys e) i _).trans h.keys,h.scrap⟩
  | newOrder o => exact ⟨h.keys,h.scrap⟩
  | materialArrival key qty => exact ⟨h.keys,h.scrap⟩
  | ambientChange temp => exact ⟨h.keys,h.scrap⟩

theorem round_keys (root : ℚ → ℚ) (r : CrewRound) (s : CrewState) :
    (s.apply root (.round r)).runtime.factory.line.map QualityWatch.sensorKeys =
      s.runtime.factory.line.map QualityWatch.sensorKeys := by
  change (cnpRound r.rt r.t s.runtime).factory.line.map QualityWatch.sensorKeys = _
  rcases cnpRound_sets r.rt r.t s.runtime with ⟨_,_,_,_,_,_,_,hline⟩ | ⟨_,hline⟩
  · rw [hline, List.map_map]
    rfl
  · rw [hline]

theorem apply_unwatched (root : ℚ → ℚ) (s : CrewState) (e : CrewEvent) (h : Unwatched s) :
    Unwatched (s.apply root e) := by
  cases e with
  | tick d =>
    have hkeys := (QualityWatch.runCycle_keys s.runtime.factory d).trans h.keys
    have hscrap := runCycle_scrap h.scrap d
    refine ⟨hkeys,hscrap,h.crew,?_⟩
    intro snapshot hsnapshot
    cases hsnapshot
    exact ⟨QualityWatch.getSnapshot_unlimited hkeys,hscrap⟩
  | event e =>
    obtain ⟨hkeys,hscrap⟩ := h.event e
    exact ⟨hkeys,hscrap,h.crew,h.snapshot⟩
  | cycle printer m =>
    unfold CrewState.apply
    cases hsnapshot : s.snapshot with
    | none => exact h
    | some snapshot =>
      exact ⟨h.keys,h.scrap,h.crew.cycle (h.snapshot snapshot hsnapshot) m,h.snapshot⟩
  | round r =>
    refine ⟨(round_keys root r s).trans h.keys,h.scrap,?_,h.snapshot⟩
    rcases crew_after_round root r s with hsame | hexecuted
    · rw [hsame]
      exact h.crew
    · exact h.crew.executed hexecuted

theorem run_unwatched (root : ℚ → ℚ) (d : InitDraws) (inbox : List (Messaging.AgentMessage Dict))
    (es : List CrewEvent) :
    Unwatched (Runs.run (CrewState.apply root) (.initial d inbox) es) := by
  have hinitial : Unwatched (.initial d inbox) :=
    ⟨rfl,le_rfl,⟨rfl,le_rfl⟩,fun _ h => by cases h⟩
  exact Runs.run_invariant (apply_unwatched root) hinitial

/-- A round that the quality agent leads: it runs the line at 90 percent, asks for no approval,
and ends with tightened inspection. -/
structure LeadsRound (root : ℚ → ℚ) (r : CrewRound) (s : CrewState) (strategy : Dict) : Prop where
  best : Assoc.get strategy "best_agent" = some (.str "QA")
  approval : Assoc.get strategy "approval_required" = some (.bool false)
  line : (s.apply root (.round r)).runtime.factory.line =
    s.runtime.factory.line.map fun station => { station with speedPct := 90 }
  inspection : (s.apply root (.round r)).crew.qa.inspectionMode = "강화"

theorem Unwatched.leads {root : ℚ → ℚ} {s : CrewState} (h : Unwatched s) {r : CrewRound}
    {strategy : Dict} {cnp : CnpWorld (Mail Crew)} (hresult : result r s = .ok (some strategy) cnp) :
    LeadsRound root r s strategy := by
  have hrun := hresult
  rw [result_eq] at hrun
  have hblind : Uninformed s.crew := h.crew.uninformed
  obtain ⟨round,enriched,hranked,hlimits,hsettle,_,hexecuted⟩ := initiateCnp_ranked r.quiet hrun
  obtain ⟨htarget,hbest,hmode⟩ := RankedCrew.led hranked hblind r.t.env r.rt.llm round.cnpId
    (enrichSnapshotForAgents r.rt.adapter r.t.snapshot.dict)
  obtain ⟨hsettled,happroval,hkept⟩ := settleRound_built hlimits htarget (by decide) hsettle
  refine ⟨(hkept _ (by decide)).trans hbest,by rw [happroval, hmode],?_,?_⟩
  · change (cnpRound r.rt r.t s.runtime).factory.line = _
    rcases cnpRound_sets r.rt r.t s.runtime with ⟨strategy',_,speed,hsome,hspeed,_,_,hline⟩ | ⟨hnone,_⟩
    · rw [show roundResult r.rt r.t s.runtime = _ from hresult] at hsome
      cases hsome
      rw [hsettled] at hspeed
      cases hspeed
      exact hline
    · exact absurd hresult (hnone _ _)
  · rw [crew_round_apply, hresult]
    have hafter : cnp.rest.others.qa.inspectionMode = proposedMode s.crew.qa.worstCpk :=
      congrArg (fun c => c.qa.inspectionMode) hexecuted
    refine hafter.trans ?_
    unfold proposedMode
    rw [hblind.worst, if_neg (by norm_num)]

/-- Whatever happens to the built line and its agents, every round that gives a strategy is
the quality agent's. -/
theorem quality_leads (root : ℚ → ℚ) (d : InitDraws) (inbox : List (Messaging.AgentMessage Dict))
    (es : List CrewEvent) :
    let s := Runs.run (CrewState.apply root) (.initial d inbox) es
    ∀ r strategy cnp, result r s = .ok (some strategy) cnp → LeadsRound root r s strategy := by
  intro s r strategy cnp hresult
  exact (run_unwatched root d inbox es).leads hresult

/-- A round whose snapshot is empty. -/
def firstRound : CrewRound :=
  { rt :=
      { llm := none, agents := responders firstEnv.printer, decisionRouter := none, broker := none
        route := fun _ _ _ _ _ mail => (.ok none, mail)
        log := fun _ _ _ _ _ mail => (.ok (), mail)
        deliver := fun _ _ _ mail => (.ok (), mail)
        adapter := fun _ => .error .typeError
        enrichForRouter := fun snapshot => .ok snapshot }
    t :=
      { snapshot := { dict := [], cycle := 0, avgOee := .fin 1, hasCycle := rfl, hasOee := rfl }
        meanwhile := fun mail => mail, log := 0, useLanggraph := false, env := firstEnv }
    asked := rfl
    quiet := fun publish hpublish body mail => by cases hpublish; rfl }

/-- A quiet cycle of the line, which the quality agent then senses. -/
def firstCycle : List CrewEvent := [.tick UnitBalance.quietTick.cycle,.cycle firstEnv.printer .qa]

theorem quality_leads_first :
    let s := Runs.run (CrewState.apply id) (.initial ⟨0,0,fun _ => ⟨300,by decide,by decide⟩⟩ [])
      firstCycle
    s.crew.qa.measurementHistory ≠ [] ∧
      ∃ strategy cnp, result firstRound s = .ok (some strategy) cnp ∧
        LeadsRound id firstRound s strategy := by
  intro s
  refine ⟨by decide +kernel,?_⟩
  have hsettles : (RoundOrder.returned (result firstRound s)).any Option.isSome = true := by
    decide +kernel
  cases hrun : result firstRound s with
  | error e cnp =>
    rw [hrun] at hsettles
    cases hsettles
  | ok strategy cnp =>
    cases strategy with
    | none =>
      rw [hrun] at hsettles
      cases hsettles
    | some strategy =>
      exact ⟨strategy,cnp,rfl,quality_leads id _ [] firstCycle firstRound strategy cnp hrun⟩

end ManufacturingMas.Proofs.CrewLead
