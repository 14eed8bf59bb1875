import ManufacturingMas.Agents.BaseAgent
import ManufacturingMas.Agents.PlanningSub

/-! The equipment agent: anomaly scores, remaining life, and its alarms. -/

namespace ManufacturingMas.Agents
open Py FactorySnapshot

/-! ### Profiles by type of station -/

structure PmProfile where
  modelId : String
  nameKr : String
  primarySignals : List String
  secondarySignals : List String
  anomalySensitivity : ℚ
  rulScale : ℚ

def pressProfile : PmProfile :=
  { modelId := "pm-press-vib-hyd-v1", nameKr := "프레스 진동·유압 예지"
    primarySignals := ["vibration", "oil_temp", "tonnage"]
    secondarySignals := ["die_clearance", "noise_db", "springback", "stroke_position"]
    anomalySensitivity := 21/20, rulScale := 1 }

/-- EQUIPMENT_PM_MODELS without the press. -/
def equipmentPmModels : List (String × PmProfile) :=
  [("WELD",
    { modelId := "pm-weld-nugget-v2", nameKr := "스팟용접 너겟·전극 예지"
      primarySignals := ["weld_current", "weld_force", "nugget_dia"]
      secondarySignals := ["electrode_tip", "spatter_rate"]
      anomalySensitivity := 28/25, rulScale := 23/25 }),
   ("HEAT",
    { modelId := "pm-furnace-soak-v1", nameKr := "열처리 노·경도 예지"
      primarySignals := ["furnace_temp", "hardness", "quench_temp"]
      secondarySignals := ["atmosphere", "energy_rate"]
      anomalySensitivity := 49/50, rulScale := 27/25 }),
   ("CNC",
    { modelId := "pm-cnc-spindle-v1", nameKr := "CNC 스핀들·진동 예지"
      primarySignals := ["spindle_vib", "spindle_load", "surface_ra"]
      secondarySignals := ["coolant_temp", "dimension_dev"]
      anomalySensitivity := 27/25, rulScale := 19/20 }),
   ("ASSY",
    { modelId := "pm-assy-torque-vision-v1", nameKr := "조립 토크·비전 예지"
      primarySignals := ["torque", "vision_score", "force"]
      secondarySignals := ["leak_rate", "final_weight"]
      anomalySensitivity := 1, rulScale := 51/50 })]

/-- A type without a profile of its own is treated as a press. -/
def profileForStationType (stationType : String) : PmProfile :=
  (Assoc.get equipmentPmModels (upper stationType)).getD pressProfile

/-- The score in doubles. -/
def scaleAnomalyForType (stationType sensorName : String) (baseScore : ℚ) : ℚ :=
  let p := profileForStationType stationType
  let boost : ℚ := if sensorName ∈ p.primarySignals then nearestDouble (28/25)
    else if sensorName ∈ p.secondarySignals then 1
    else nearestDouble (22/25)
  min 1 (nearestDouble (nearestDouble (baseScore * nearestDouble p.anomalySensitivity) * boost))

def scaleRulHours (stationType : String) (baseHours : ℚ) : ℚ :=
  max (1/2) (baseHours * (profileForStationType stationType).rulScale)

/-- How many values are larger than the one before. -/
def increases : List ℚ → Nat
  | x :: y :: rest => (if x < y then 1 else 0) + increases (y :: rest)
  | _ => 0

/-- The score in doubles; one that is infinite is cut to 1 as well. -/
def computeRawAnomaly (value ma std : ℚ) (history : List ℚ) : ℚ :=
  let least := nearestDouble (1/1000)
  if std < least then 0
  else
    let zScore := nearestDouble (|nearestDouble (value - ma)| / max std least)
    let increasing := increases (history.rtake 10)
    let trendScore : ℚ := if history.length < 10 then 0
      else if 8 ≤ increasing then nearestDouble (2/5)
      else if 6 ≤ increasing then nearestDouble (1/5)
      else 0
    let zPart := nearestDouble (nearestDouble (zScore / 3) * nearestDouble (3/5))
    min 1 (nearestDouble (zPart + trendScore))

/-- A null `mtbf` is an infinite one. -/
def estimateRulHours (healthScore : ℚ) (mtbf : Option ℚ) (stationType : String) : ℚ :=
  let base := match mtbf with
    | none => 100
    | some mtbf => if mtbf ≤ 0 then 100 else mtbf / 3600 * (healthScore / 100)
  scaleRulHours stationType base

/-! ### Observations -/

structure Alarm where
  station : String
  sensor : String
  value : ℚ
  anomaly : ℚ
  trend : String
deriving DecidableEq, Repr

structure ToolWarning where
  station : String
  toolLifePct : ℚ
  region : String
  urgency : String
deriving DecidableEq, Repr

structure TrendAlert where
  station : String
  sensor : String
  slope : ℚ
  direction : String
deriving DecidableEq, Repr

structure StationHealth where
  score : ℚ
  state : String
  oee : Machines.Oee
  rulHours : ℚ
  toolLifePct : ℚ
  stationType : String
  modelId : String
  modelName : String
  maxAnomaly : ℚ
  worstSensor : String
deriving DecidableEq, Repr

structure EquipmentObservation where
  stationHealth : List (String × StationHealth)
  alarms : List Alarm
  toolWarnings : List ToolWarning
  trendAlerts : List TrendAlert
deriving DecidableEq, Repr

structure MaintenanceAction where
  station : String
  action : String
  reason : String
deriving DecidableEq, Repr

def MaintenanceAction.toDict (m : MaintenanceAction) : Dict :=
  [("station", .str m.station), ("action", .str m.action), ("reason", .str m.reason)]

structure EquipmentDecision where
  maintenanceActions : List MaintenanceAction
  speedAdjustments : List (String × Int)
  alertsToSend : List AgentAlert
  priority : String
deriving DecidableEq, Repr

structure EquipmentAgent where
  base : BaseAgent EquipmentDecision
  trendHistory : List (String × List ℚ)
  rulEstimates : List (String × ℚ)
  maintenanceQueue : List MaintenanceAction

namespace EquipmentAgent

def new : EquipmentAgent :=
  { base := .new, trendHistory := [], rulEstimates := [], maintenanceQueue := [] }

def anomalyAlarmThreshold : ℚ := nearestDouble (7/10)

def anomalyCriticalThreshold : ℚ := nearestDouble (9/10)

theorem alarm_lt_critical : anomalyAlarmThreshold < anomalyCriticalThreshold := by decide +kernel

/-- What the sensors of one station lead to. -/
structure StationScan where
  trendHistory : List (String × List ℚ)
  healthScore : ℚ
  maxAnomaly : ℚ
  worstSensor : String
  alarms : List Alarm
  trendAlerts : List TrendAlert

def scanSensor (station stationType : String) (scan : StationScan) (sensor : String × SensorData) :
    StationScan :=
  let (sname, s) := sensor
  let key := s!"{station}.{sname}"
  let trendHistory := History.record 200 scan.trendHistory key s.value
  let raw := computeRawAnomaly s.value s.ma s.std (History.entries trendHistory key)
  let anomaly := scaleAnomalyForType stationType sname raw
  let scan := { scan with trendHistory := trendHistory }
  let scan := if scan.maxAnomaly < anomaly then
      { scan with maxAnomaly := anomaly, worstSensor := sname }
    else scan
  let trend := if 0 < s.slope then "상승" else "하강"
  let scan := if anomalyAlarmThreshold < anomaly then
      { scan with
        alarms := scan.alarms ++ [⟨station,sname,s.value,nearestDouble (roundTo 2 anomaly),trend⟩]
        healthScore := scan.healthScore - anomaly * 30 }
    else scan
  let direction := if 0 < s.slope then "악화" else "개선"
  if 1/20 < |s.slope| then
    { scan with
      trendAlerts := scan.trendAlerts ++ [⟨station,sname,roundTo 4 s.slope,direction⟩] }
  else scan

/-- `(sdata.get("type") or "PRESS").strip().upper()`. -/
def stationTypeOf (s : StationData) : String :=
  upper (String.ofList (strip (if s.type = "" then "PRESS" else s.type).toList))

/-- The warning of a tool near its end. -/
def toolWarning (station : String) (s : StationData) : Option ToolWarning :=
  if s.toolLifePct < 15 then
    some { station := station, toolLifePct := s.toolLifePct, region := s.toolRegion
           urgency := if s.toolLifePct < 5 then "긴급" else "주의" }
  else none

def senseStation (ea : EquipmentAgent × EquipmentObservation) (station : String × StationData) :
    EquipmentAgent × EquipmentObservation :=
  let (ea, obs) := ea
  let (sid, s) := station
  let stationType := stationTypeOf s
  let profile := profileForStationType stationType
  let scan := s.sensors.foldl (scanSensor sid stationType)
    { trendHistory := ea.trendHistory, healthScore := 100, maxAnomaly := 0, worstSensor := ""
      alarms := obs.alarms, trendAlerts := obs.trendAlerts }
  let warning := toolWarning sid s
  let healthScore := match warning with
    | some _ => scan.healthScore - (15 - s.toolLifePct) * 3
    | none => scan.healthScore
  let rul := estimateRulHours healthScore s.mtbf stationType
  let health : StationHealth :=
    { score := roundTo 1 (max 0 healthScore), state := s.state, oee := s.oee
      rulHours := roundTo 1 rul, toolLifePct := s.toolLifePct, stationType := stationType
      modelId := profile.modelId, modelName := profile.nameKr
      maxAnomaly := nearestDouble (roundTo 3 scan.maxAnomaly)
      worstSensor := if scan.worstSensor = "" then "-" else scan.worstSensor }
  ({ ea with
      trendHistory := scan.trendHistory
      rulEstimates := Assoc.set ea.rulEstimates sid rul },
    { stationHealth := Assoc.set obs.stationHealth sid health
      alarms := scan.alarms
      toolWarnings := obs.toolWarnings ++ warning.toList
      trendAlerts := scan.trendAlerts })

def sense (ea : EquipmentAgent) (snapshot : Snapshot) : EquipmentAgent × EquipmentObservation :=
  snapshot.stations.foldl senseStation
    (ea, { stationHealth := [], alarms := [], toolWarnings := [], trendAlerts := [] })

/-! ### Decisions -/

abbrev Reasoning := EquipmentDecision × BaseAgent EquipmentDecision

def reasonAlarm (printer : Printer) (r : Reasoning) (alarm : Alarm) : Reasoning :=
  let (d, base) := r
  let sid := alarm.station
  let score := printer.str (.float (.fin alarm.anomaly))
  if anomalyCriticalThreshold < alarm.anomaly then
    let action : MaintenanceAction :=
      ⟨sid,"비상정비",s!"{alarm.sensor} 이상 감지 (score: {score})"⟩
    let alert : AgentAlert :=
      ⟨"PA","CRITICAL",s!"{sid} 비상: {alarm.sensor} 이상({fixedText 2 alarm.value})"⟩
    ({ maintenanceActions := d.maintenanceActions ++ [action]
       speedAdjustments := d.speedAdjustments ++ [(sid, 60)]
       alertsToSend := d.alertsToSend ++ [alert]
       priority := "CRITICAL" },
      base.logReasoning s!"[비상] {sid} {alarm.sensor} 이상탐지 점수 {score}")
  else if anomalyAlarmThreshold < alarm.anomaly then
    ({ d with
        speedAdjustments := d.speedAdjustments ++ [(sid, 80)]
        priority := if d.priority ≠ "CRITICAL" then "HIGH" else d.priority },
      base.logReasoning s!"[경고] {sid} {alarm.sensor} 주의 필요")
  else (d, base)

/-- An urgent tool adds an alert, and leaves the priority as it is. -/
def reasonTool (r : Reasoning) (tw : ToolWarning) : Reasoning :=
  let (d, base) := r
  let life := fixedText 0 tw.toolLifePct
  if tw.urgency = "긴급" then
    let action : MaintenanceAction :=
      ⟨tw.station,"공구교체",s!"잔여수명 {life}% ({tw.region})"⟩
    let alert : AgentAlert := ⟨"PA","HIGH",s!"{tw.station} 공구교체 필요 (잔여 {life}%)"⟩
    ({ d with
        maintenanceActions := d.maintenanceActions ++ [action]
        alertsToSend := d.alertsToSend ++ [alert] },
      base.logReasoning s!"[공구] {tw.station} 교체 필요 — 급격마모 구간")
  else (d, base)

def reasonHealth (r : Reasoning) (health : StationHealth) : Reasoning :=
  let (d, base) := r
  if health.rulHours < 4 then
    ({ d with priority := if d.priority = "LOW" then "MEDIUM" else d.priority },
      base.logReasoning s!"RUL 경고: 예상 잔여수명 {fixedText 1 health.rulHours}h")
  else (d, base)

/-- The decision as it is built, before it is known whether there is one. -/
def assess (printer : Printer) (base : BaseAgent EquipmentDecision) (obs : EquipmentObservation) :
    Reasoning :=
  let start : Reasoning :=
    ({ maintenanceActions := [], speedAdjustments := [], alertsToSend := [], priority := "LOW" },
      base)
  let alarmed := obs.alarms.foldl (reasonAlarm printer) start
  let tooled := obs.toolWarnings.foldl reasonTool alarmed
  (obs.stationHealth.map Prod.snd).foldl reasonHealth tooled

def reason (printer : Printer) (ea : EquipmentAgent) (obs : EquipmentObservation) :
    Option EquipmentDecision × EquipmentAgent :=
  let (d, base) := assess printer ea.base obs
  if d.maintenanceActions.isEmpty ∧ d.alertsToSend.isEmpty then
    (none, { ea with base := base.logReasoning "전 공정 정상 가동 중" })
  else (some d, { ea with base := base })

def act (ea : EquipmentAgent) (decision : Option EquipmentDecision) : EquipmentAgent :=
  match decision with
  | none => ea
  | some d =>
    let estimates : Dict := ea.rulEstimates.map fun p => (p.1, .float (.fin p.2))
    { ea with
      base := ea.base.sendAlerts "EA" [("rul_estimates", .dict estimates)] d.alertsToSend
      maintenanceQueue := d.maintenanceActions }

/-- The first station with the shortest remaining life. -/
def worstStation : List (String × ℚ) → Option (String × ℚ)
  | [] => none
  | p :: estimates =>
    match worstStation estimates with
    | some q => if q.2 < p.2 then some q else some p
    | none => some p

/-- The proposal to a call; what the call asks for is not looked at. -/
def handleCfp (printer : Printer) (ea : EquipmentAgent) : Except PyErr Dict :=
  let wr := ((worstStation ea.rulEstimates).map Prod.snd).getD 999
  let costEst := max 0 (min 1 (1 - min wr 120 / 120))
  let viol : ℚ := if wr < 4 then 1 else if wr < 8 then 1/2 else 0
  mergeIntoProposal printer
    [("agent", .str "EA"), ("proposal", .str "설비 관점 대응"),
      ("speed_recommendation", .int (if wr < 8 then 80 else 100)),
      ("maintenance_needed", .list (ea.maintenanceQueue.map fun m => .dict m.toDict)),
      ("health_summary", .dict (ea.rulEstimates.map fun p => (p.1, .float (.fin (roundTo 1 p.2))))),
      ("scores", .dict [("quality", .float (.fin (7/10))), ("delivery", .float (.fin (3/5))),
        ("cost", .float (.fin (1/2))), ("safety", .float (.fin (9/10)))]),
      ("proposal_metrics", .dict [("cost_estimate", .float (.fin (roundTo 4 costEst))),
        ("constraint_violation_total", .float (.fin viol)),
        ("rul_worst_hours", .float (.fin (roundTo 2 wr))),
        ("expected_effect", .float (.fin (roundTo 4 (1 - costEst)))),
        ("quality_risk", .float (.fin (7/20))), ("delivery_impact", .float (.fin (1/10))),
        ("material_impact", .float (.fin (3/20))), ("confidence", .float (.fin (3/4)))])]

/-- `ma[key]`. -/
def fieldAt (ma : Val) (key : String) : Except PyErr Val :=
  match ma with
  | .dict d =>
    match Assoc.get d key with
    | some v => .ok v
    | none => .error (.other "KeyError")
  | _ => .error .typeError

def executeMaintenance (printer : Printer) : List Val → EStateM PyErr EquipmentAgent Unit
  | [] => pure ()
  | ma :: rest => do
    let station ← Stateful.ofExcept (fieldAt ma "station")
    let action ← Stateful.ofExcept (fieldAt ma "action")
    modify fun ea => { ea with
      base := ea.base.logReasoning s!"정비 실행: {printer.str station} — {printer.str action}" }
    executeMaintenance printer rest

def executeAcceptedProposal (printer : Printer) (proposal : Dict) :
    EStateM PyErr EquipmentAgent Unit := do
  let needed ← Stateful.ofExcept (getD proposal "maintenance_needed" (.list [])).toList
  executeMaintenance printer needed

def agentClass (printer : Printer) :
    AgentClass EquipmentAgent EquipmentObservation EquipmentDecision :=
  { sense := fun snapshot ea => .ok (ea.sense snapshot).2 (ea.sense snapshot).1
    reason := fun obs ea => .ok (ea.reason printer obs).1 (ea.reason printer obs).2
    act := fun decision ea => .ok () (ea.act decision)
    record := fun d ea => { ea with base := ea.base.recordDecision d } }

end EquipmentAgent

/-! ### The observations as a dict -/

def Alarm.toDict (a : Alarm) : Dict :=
  [("station", .str a.station), ("sensor", .str a.sensor), ("value", .float (.fin a.value)),
    ("anomaly", .float (.fin a.anomaly)), ("trend", .str a.trend)]

def ToolWarning.toDict (w : ToolWarning) : Dict :=
  [("station", .str w.station), ("tool_life_pct", .float (.fin w.toolLifePct)),
    ("region", .str w.region), ("urgency", .str w.urgency)]

def TrendAlert.toDict (a : TrendAlert) : Dict :=
  [("station", .str a.station), ("sensor", .str a.sensor), ("slope", .float (.fin a.slope)),
    ("direction", .str a.direction)]

def oeeDict (o : Machines.Oee) : Dict :=
  [("availability", .float (.fin o.availability)), ("performance", .float (.fin o.performance)),
    ("quality", .float (.fin o.quality)), ("oee", .float (.fin o.oee))]

def StationHealth.toDict (h : StationHealth) : Dict :=
  [("score", .float (.fin h.score)), ("state", .str h.state), ("oee", .dict (oeeDict h.oee)),
    ("rul_hours", .float (.fin h.rulHours)), ("tool_life_pct", .float (.fin h.toolLifePct)),
    ("station_type", .str h.stationType), ("predictive_model_id", .str h.modelId),
    ("predictive_model_name", .str h.modelName), ("max_anomaly", .float (.fin h.maxAnomaly)),
    ("worst_sensor", .str h.worstSensor)]

/-- The dict that `sense` returns, with the two entries it takes over from the snapshot:
the KPIs by station, where there is a context, and the last business events. -/
def EquipmentObservation.toDict (obs : EquipmentObservation) (kpiByStation : Option Val)
    (businessEvents : Val) : Dict :=
  [("station_health", .dict (obs.stationHealth.map fun p => (p.1, .dict p.2.toDict))),
    ("alarms", .list (obs.alarms.map fun a => .dict a.toDict)),
    ("tool_warnings", .list (obs.toolWarnings.map fun w => .dict w.toDict)),
    ("trend_alerts", .list (obs.trendAlerts.map fun a => .dict a.toDict))] ++
  (kpiByStation.map fun v => ("kpi_by_station_ctx", v)).toList ++
  [("business_events_tail", businessEvents)]

end ManufacturingMas.Agents
