import ManufacturingMas.Agents.BaseAgent
import ManufacturingMas.Agents.PlanningSub

/-! The quality agent: process capability, run rules, and its proposal. -/

namespace ManufacturingMas.Agents
open Py FactorySnapshot

structure CpkInfo where
  cpk : ℚ
  trend : String
  status : String
deriving DecidableEq, Repr

structure SpcViolation where
  station : String
  sensor : String
  rule : String
  key : String
deriving DecidableEq, Repr

structure QualityRisk where
  station : String
  qualityRate : ℚ
  name : String
deriving DecidableEq, Repr

/-- What `summarize_spc` returns; its `worst_cpk` is an entry of `cpk_status`, or None. -/
structure SpcSummary where
  role : String
  trackedKeysN : Nat
  sampleKeys : List String
  worstCpk : Option CpkInfo
deriving DecidableEq, Repr

structure QualityObservation where
  cpkStatus : List (String × CpkInfo)
  spcViolations : List SpcViolation
  defectTrend : String
  yieldByStation : List (String × ℚ)
  qualityRiskStations : List QualityRisk
  qaSubSpc : Option SpcSummary
deriving DecidableEq, Repr

structure QualityAction where
  action : String
  station : String
  reason : String
deriving DecidableEq, Repr

structure QualityDecision where
  inspectionMode : String
  alerts : List AgentAlert
  actions : List QualityAction
  priority : String
deriving DecidableEq, Repr

structure QualityAgent where
  base : BaseAgent QualityDecision
  measurementHistory : List (String × List ℚ)
  cpkHistory : List (String × List ℚ)
  inspectionMode : String

namespace QualityAgent

def new : QualityAgent :=
  { base := .new, measurementHistory := [], cpkHistory := [], inspectionMode := "표준" }

/-- `_spec_limits`: the lower and the upper limit of each channel. -/
def specLimits : List (String × (ℚ × ℚ)) :=
  [("WC-01.진동", (0, 5)), ("WC-01.금형간극", (2/25, 7/25)), ("WC-02.스프링백", (0, 3/2)),
    ("WC-03.너겟직경", (9/2, 7)), ("WC-04.경도(HRC)", (52, 64)), ("WC-05.치수편차", (-1/20, 1/20)),
    ("WC-05.표면거칠기", (0, 16/5)), ("WC-06.체결토크", (20, 30)), ("WC-06.비전점수", (85, 100))]

/-! ### Statistics -/

/-- `_calc_cpk` of a channel's measurements; with too few, or too steady ones, it is 2. -/
def calcCpk (root : ℚ → ℚ) (limits : ℚ × ℚ) (data : List ℚ) : ℚ :=
  if data.length < 10 then 2
  else
    let recent := data.rtake 30
    let std := deviation root recent
    if std < 1/10000 then 2
    else min ((limits.2 - mean recent) / (3 * std)) ((mean recent - limits.1) / (3 * std))

def cpkTrend (history : List ℚ) : String :=
  if history.length < 5 then "안정"
  else
    let recent := history.rtake 10
    let half := recent.length / 2
    let diff := mean (recent.drop half) - mean (recent.take half)
    if diff < -1/10 then "하강" else if 1/10 < diff then "상승" else "안정"

/-- The steps between neighbouring values. -/
def steps : List ℚ → List ℚ
  | x :: y :: rest => (y - x) :: steps (y :: rest)
  | _ => []

def checkRunRules (root : ℚ → ℚ) (data : List ℚ) : List String :=
  if data.length < 9 then []
  else
    let recent := data.rtake 9
    let m := mean (data.rtake 30)
    let std := deviation root (data.rtake 30)
    if std < 1/10000 then []
    else
      let last := recent.rtake 7
      let diffs := (steps recent).rtake 6
      let outside := recent.countP fun x => 2 * std < |x - m|
      (if (last.all fun x => m < x) || last.all fun x => x < m then ["규칙2: 연속 7점 한쪽"] else []) ++
      (if (diffs.all fun d => 0 < d) || diffs.all fun d => d < 0
        then ["규칙3: 연속 6점 증가/감소"] else []) ++
      (if 2 ≤ outside then ["규칙4: 3점 중 2점 2σ 밖"] else [])

/-! ### Sense -/

/-- One sensor of a station: its measurement, its capability if it has limits, its rules. -/
def senseSensor (root : ℚ → ℚ) (sid : String) (qa : QualityAgent × QualityObservation)
    (sensor : String × SensorData) : QualityAgent × QualityObservation :=
  let (qa, obs) := qa
  let key := s!"{sid}.{sensor.1}"
  let qa := { qa with
    measurementHistory := History.record 200 qa.measurementHistory key sensor.2.value }
  let data := History.entries qa.measurementHistory key
  let (qa, obs) := match Assoc.get specLimits key with
    | some limits =>
      let cpk := calcCpk root limits data
      let qa := { qa with cpkHistory := History.record 50 qa.cpkHistory key cpk }
      let info : CpkInfo :=
        { cpk := roundTo 3 cpk, trend := cpkTrend (History.entries qa.cpkHistory key)
          status := if 133/100 ≤ cpk then "양호" else if 1 ≤ cpk then "주의" else "위험" }
      (qa, { obs with cpkStatus := Assoc.set obs.cpkStatus key info })
    | none => (qa, obs)
  let violations := (checkRunRules root data).map fun rule => ⟨sid,sensor.1,rule,key⟩
  (qa, { obs with spcViolations := obs.spcViolations ++ violations })

def senseStation (root : ℚ → ℚ) (qa : QualityAgent × QualityObservation)
    (station : String × StationData) : QualityAgent × QualityObservation :=
  let (sid, s) := station
  let rate := s.oee.quality
  let started := (qa.1, { qa.2 with
    yieldByStation := Assoc.set qa.2.yieldByStation sid (roundTo 1 (rate * 100)) })
  let (qa, obs) := s.sensors.foldl (senseSensor root sid) started
  if rate < 9/10 then
    (qa, { obs with
      qualityRiskStations := obs.qualityRiskStations ++ [⟨sid,roundTo 3 rate,s.name⟩] })
  else (qa, obs)

def emptyObservation : QualityObservation :=
  { cpkStatus := [], spcViolations := [], defectTrend := "안정", yieldByStation := []
    qualityRiskStations := [], qaSubSpc := none }

/-- The minimum of the entries compares dicts, which raises as soon as there are two. -/
def summarizeSpc (cpkStatus : List (String × CpkInfo)) : Except PyErr SpcSummary :=
  if 2 ≤ cpkStatus.length then .error .typeError
  else .ok
    { role := "QA-SPC", trackedKeysN := cpkStatus.length
      sampleKeys := (cpkStatus.map Prod.fst).take 12
      worstCpk := cpkStatus.head?.map Prod.snd }

/-- What `sense` has collected when it summarizes it. -/
def collect (root : ℚ → ℚ) (qa : QualityAgent) (snapshot : Snapshot) :
    QualityAgent × QualityObservation :=
  let (qa, obs) := snapshot.stations.foldl (senseStation root) (qa, emptyObservation)
  let risks := obs.qualityRiskStations.length
  (qa, { obs with
    defectTrend := if 3 ≤ risks then "악화" else if 1 ≤ risks then "주의" else obs.defectTrend })

def sense (root : ℚ → ℚ) (snapshot : Snapshot) :
    EStateM PyErr QualityAgent QualityObservation := do
  let obs ← modifyGet fun qa => ((collect root qa snapshot).2, (collect root qa snapshot).1)
  let summary ← Stateful.ofExcept (summarizeSpc obs.cpkStatus)
  pure { obs with qaSubSpc := some summary }

/-- Sensing returns exactly if the summary does. -/
theorem sense_ok_iff {root : ℚ → ℚ} {snapshot : Snapshot} {qa qa' : QualityAgent}
    {obs : QualityObservation} :
    sense root snapshot qa = .ok obs qa' ↔
      ∃ summary, summarizeSpc (collect root qa snapshot).2.cpkStatus = .ok summary ∧
        obs = { (collect root qa snapshot).2 with qaSubSpc := some summary } ∧
        qa' = (collect root qa snapshot).1 := by
  unfold sense
  rw [Stateful.bind_ok_iff]
  constructor
  · rintro ⟨_,_,hcollect,hrest⟩
    cases hcollect
    obtain ⟨summary,_,hsummary,hobs⟩ := Stateful.bind_ok_iff.mp hrest
    obtain ⟨hok,rfl⟩ := Stateful.ofExcept_ok_iff.mp hsummary
    cases hobs
    exact ⟨summary,hok,rfl,rfl⟩
  · rintro ⟨summary,hok,rfl,rfl⟩
    exact ⟨_,_,rfl,Stateful.bind_ok_iff.mpr
      ⟨summary,_,Stateful.ofExcept_ok_iff.mpr ⟨hok,rfl⟩,rfl⟩⟩

/-! ### Sense, where a square overflows

The definitions above are exact. In floats the square of a deviation may be too large, and then
the statistics raise; `average` is `sum(xs) / len(xs)` in floats. -/

/-- `x - mean`, which raises for an integer beyond the floats. -/
def deviationFrom (m : PyFloat) (x : ℚ) : Except PyErr PyFloat :=
  if |x| < PyFloat.limit then .ok ((PyFloat.fin (nearestDouble x)).sub m).rounded
  else .error .overflowError

/-- The squares that the deviation of the last thirty values is made of. -/
def squares (average : List ℚ → Except PyErr PyFloat) (data : List ℚ) :
    Except PyErr (List PyFloat) := do
  let m ← average (data.rtake 30)
  (data.rtake 30).mapM fun x => do
    let d ← deviationFrom m x
    d.square

def tryCalcCpk (average : List ℚ → Except PyErr PyFloat) (root : ℚ → ℚ) (limits : ℚ × ℚ)
    (data : List ℚ) : Except PyErr ℚ :=
  if data.length < 10 then .ok 2
  else do
    let _ ← squares average data
    pure (calcCpk root limits data)

def tryCheckRunRules (average : List ℚ → Except PyErr PyFloat) (root : ℚ → ℚ)
    (data : List ℚ) : Except PyErr (List String) :=
  if data.length < 9 then .ok []
  else do
    let _ ← squares average data
    pure (checkRunRules root data)

/-- One sensor; what has been recorded before an exception stays recorded. -/
def trySenseSensor (average : List ℚ → Except PyErr PyFloat) (root : ℚ → ℚ) (sid : String)
    (obs : QualityObservation) (sensor : String × SensorData) :
    EStateM PyErr QualityAgent QualityObservation := do
  let key := s!"{sid}.{sensor.1}"
  modify fun qa => { qa with
    measurementHistory := History.record 200 qa.measurementHistory key sensor.2.value }
  let qa ← get
  let data := History.entries qa.measurementHistory key
  let obs ← match Assoc.get specLimits key with
    | some limits => do
      let cpk ← Stateful.ofExcept (tryCalcCpk average root limits data)
      modify fun qa => { qa with cpkHistory := History.record 50 qa.cpkHistory key cpk }
      let qa ← get
      let info : CpkInfo :=
        { cpk := roundTo 3 cpk, trend := cpkTrend (History.entries qa.cpkHistory key)
          status := if 133/100 ≤ cpk then "양호" else if 1 ≤ cpk then "주의" else "위험" }
      pure { obs with cpkStatus := Assoc.set obs.cpkStatus key info }
    | none => pure obs
  let rules ← Stateful.ofExcept (tryCheckRunRules average root data)
  let violations := rules.map fun rule => ⟨sid,sensor.1,rule,key⟩
  pure { obs with spcViolations := obs.spcViolations ++ violations }

def trySenseSensors (average : List ℚ → Except PyErr PyFloat) (root : ℚ → ℚ) (sid : String)
    (obs : QualityObservation) : List (String × SensorData) →
    EStateM PyErr QualityAgent QualityObservation
  | [] => pure obs
  | sensor :: sensors => do
    let obs ← trySenseSensor average root sid obs sensor
    trySenseSensors average root sid obs sensors

def trySenseStation (average : List ℚ → Except PyErr PyFloat) (root : ℚ → ℚ)
    (obs : QualityObservation) (station : String × StationData) :
    EStateM PyErr QualityAgent QualityObservation := do
  let (sid, s) := station
  let rate := s.oee.quality
  let started := { obs with
    yieldByStation := Assoc.set obs.yieldByStation sid (roundTo 1 (rate * 100)) }
  let obs ← trySenseSensors average root sid started s.sensors
  if rate < 9/10 then
    pure { obs with
      qualityRiskStations := obs.qualityRiskStations ++ [⟨sid,roundTo 3 rate,s.name⟩] }
  else pure obs

def trySenseStations (average : List ℚ → Except PyErr PyFloat) (root : ℚ → ℚ)
    (obs : QualityObservation) : List (String × StationData) →
    EStateM PyErr QualityAgent QualityObservation
  | [] => pure obs
  | station :: stations => do
    let obs ← trySenseStation average root obs station
    trySenseStations average root obs stations

def trySense (average : List ℚ → Except PyErr PyFloat) (root : ℚ → ℚ) (snapshot : Snapshot) :
    EStateM PyErr QualityAgent QualityObservation := do
  let obs ← trySenseStations average root emptyObservation snapshot.stations
  let risks := obs.qualityRiskStations.length
  let obs := { obs with
    defectTrend := if 3 ≤ risks then "악화" else if 1 ≤ risks then "주의" else obs.defectTrend }
  let summary ← Stateful.ofExcept (summarizeSpc obs.cpkStatus)
  pure { obs with qaSubSpc := some summary }

/-! ### Decisions -/

abbrev Reasoning := QualityDecision × BaseAgent QualityDecision

/-- A channel at risk, or one to watch that is falling. -/
def isCriticalCpk (info : CpkInfo) : Bool :=
  info.status = "위험" || (info.status = "주의" && info.trend = "하강")

def reasonCpk (r : Reasoning) (entry : String × CpkInfo) : Reasoning :=
  let (d, base) := r
  let (key, info) := entry
  let cpk := fixedText 2 info.cpk
  let alert : AgentAlert := ⟨"PA","HIGH",s!"Cpk 위험: {key} = {cpk} ({info.trend})"⟩
  ({ d with alerts := d.alerts ++ [alert] },
    base.logReasoning s!"[SPC] {key} Cpk={cpk} → 강화 검사")

def reasonViolation (r : Reasoning) (v : SpcViolation) : Reasoning :=
  let (d, base) := r
  let alert : AgentAlert := ⟨"PA","MEDIUM",s!"관리도 위반: {v.station} {v.sensor} — {v.rule}"⟩
  ({ d with
      alerts := d.alerts ++ [alert]
      priority := if d.priority = "LOW" then "MEDIUM" else d.priority },
    base.logReasoning s!"[SPC규칙] {v.station}.{v.sensor}: {v.rule}")

def riskAction (risk : QualityRisk) : QualityAction :=
  ⟨"품질강화",risk.station,s!"수율 {percentText 1 risk.qualityRate} — 전수검사 권장"⟩

/-- The decision after the capabilities, with the inspection it sets. -/
def assessCpk (mode : String) (obs : QualityObservation) (base : BaseAgent QualityDecision) :
    Reasoning :=
  let critical := obs.cpkStatus.filter fun entry => isCriticalCpk entry.2
  if critical.isEmpty then
    ({ inspectionMode := mode, alerts := [], actions := [], priority := "LOW" }, base)
  else
    critical.foldl reasonCpk
      ({ inspectionMode := "강화", alerts := [], actions := [], priority := "HIGH" }, base)

/-- A worsening quality comes last and overrides what was decided before. -/
def assessTrend (obs : QualityObservation) (r : Reasoning) : Reasoning :=
  let (d, base) := r
  if obs.defectTrend = "악화" then
    let alert : AgentAlert := ⟨"PA","CRITICAL",
      s!"품질 악화 추세 — 전수검사 전환 ({obs.qualityRiskStations.length}개 공정)"⟩
    ({ d with inspectionMode := "전수", alerts := d.alerts ++ [alert], priority := "CRITICAL" },
      base.logReasoning "[긴급] 다수 공정 품질 악화 → 전수검사 전환")
  else (d, base)

/-- The decision as it is built. -/
def assess (qa : QualityAgent) (obs : QualityObservation) : Reasoning :=
  let (d, base) := obs.spcViolations.foldl reasonViolation
    (assessCpk qa.inspectionMode obs qa.base)
  assessTrend obs ({ d with actions := d.actions ++ obs.qualityRiskStations.map riskAction }, base)

/-- The agent's own mode, which the same findings set beside that of the decision. -/
def modeAfter (mode : String) (obs : QualityObservation) : String :=
  let critical := obs.cpkStatus.filter fun entry => isCriticalCpk entry.2
  let mode := if critical.isEmpty then mode else "강화"
  if obs.defectTrend = "악화" then "전수" else mode

/-- `min(xs, default=2.0)`. -/
def leastOr2 : List ℚ → ℚ
  | [] => 2
  | x :: xs => xs.foldl min x

def reason (qa : QualityAgent) (obs : QualityObservation) : Option QualityDecision × QualityAgent :=
  let (d, base) := assess qa obs
  let mode := modeAfter qa.inspectionMode obs
  if d.alerts.isEmpty ∧ d.actions.isEmpty then
    let best := leastOr2 (obs.cpkStatus.map fun entry => entry.2.cpk)
    (none, { qa with
      base := base.logReasoning s!"품질 안정: 최저 Cpk={fixedText 2 best}, 검사={mode}"
      inspectionMode := if mode ≠ "표준" ∧ 133/100 ≤ best then "표준" else mode })
  else (some d, { qa with base := base, inspectionMode := mode })

/-- The latest value of each history that has one. -/
def latest (histories : List (String × List ℚ)) : List (String × ℚ) :=
  histories.filterMap fun p => p.2.getLast?.map fun x => (p.1, x)

def act (qa : QualityAgent) (decision : Option QualityDecision) : QualityAgent :=
  match decision with
  | none => qa
  | some d =>
    let summary : Dict :=
      qa.cpkHistory.map fun p => (p.1, .float (.fin (p.2.getLast?.getD 0)))
    let extra : Dict :=
      [("inspection_mode", .str qa.inspectionMode), ("cpk_summary", .dict summary)]
    { qa with base := qa.base.sendAlerts "QA" extra d.alerts }

/-! ### The proposal -/

def worstCpk (qa : QualityAgent) : ℚ := leastOr2 ((latest qa.cpkHistory).map Prod.snd)

def proposalMetrics (worst : ℚ) : Dict :=
  let cost : ℚ := if worst < 133/100 then max 0 (min 1 ((133/100 - worst) / (133/100))) else 0
  let violation : ℚ := if worst < 1 then 1 else if worst < 133/100 then 1/2 else 0
  [("cost_estimate", .float (.fin (roundTo 4 cost))),
    ("constraint_violation_total", .float (.fin violation)),
    ("worst_cpk", .float (.fin (roundTo 3 worst))),
    ("expected_effect", .float (.fin (roundTo 4 (1/2 + 1/2 * (worst / (133/100)))))),
    ("quality_risk", .float (.fin (roundTo 4 (1 - min 1 (worst / (133/100)))))),
    ("delivery_impact", .float (.fin (1/5))), ("material_impact", .float (.fin (1/10))),
    ("confidence", .float (.fin (41/50)))]

/-- `handle_cfp`, which reads nothing of the call. -/
def handleCfp (printer : Printer) (qa : QualityAgent) : Except PyErr Dict :=
  let worst := qa.worstCpk
  let summary : Dict :=
    (latest qa.cpkHistory).map fun p => (p.1, .float (.fin (roundTo 2 p.2)))
  mergeIntoProposal printer
    [("agent", .str "QA"), ("proposal", .str "품질 관점 대응"),
      ("inspection_mode", .str (if worst < 1 then "전수" else "강화")),
      ("speed_recommendation", .int (if worst < 1 then 70 else 90)),
      ("cpk_summary", .dict summary),
      ("scores", .dict [("quality", .float (.fin (9/10))), ("delivery", .float (.fin (1/2))),
        ("cost", .float (.fin (2/5))), ("safety", .float (.fin (4/5)))]),
      ("proposal_metrics", .dict (proposalMetrics worst))]

/-- `execute_accepted_proposal`, for a proposal whose mode is a text, as its own has. -/
def executeAcceptedProposal (proposal : Dict) (qa : QualityAgent) : QualityAgent :=
  match getD proposal "inspection_mode" (.str qa.inspectionMode) with
  | .str mode =>
    { qa with inspectionMode := mode, base := qa.base.logReasoning s!"검사 모드 변경: {mode}" }
  | _ => qa

def agentClass (root : ℚ → ℚ) : AgentClass QualityAgent QualityObservation QualityDecision :=
  { sense := sense root
    reason := fun obs qa => .ok (qa.reason obs).1 (qa.reason obs).2
    act := fun decision qa => .ok () (qa.act decision)
    record := fun d qa => { qa with base := qa.base.recordDecision d } }

end QualityAgent

/-! ### The summary as a dict -/

def CpkInfo.toDict (info : CpkInfo) : Dict :=
  [("cpk", .float (.fin info.cpk)), ("trend", .str info.trend), ("status", .str info.status)]

def SpcSummary.toDict (s : SpcSummary) : Dict :=
  [("role", .str s.role), ("tracked_keys_n", .int s.trackedKeysN),
    ("sample_keys", .list (s.sampleKeys.map .str)),
    ("worst_cpk", (s.worstCpk.map fun info => Val.dict info.toDict).getD .none)]

end ManufacturingMas.Agents
