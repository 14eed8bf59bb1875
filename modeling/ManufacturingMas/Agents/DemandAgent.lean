import ManufacturingMas.Agents.BaseAgent

/-! The demand agent: orders at risk, delivery rate and use of capacity. -/

namespace ManufacturingMas.Agents
open Py FactorySnapshot

structure AtRiskOrder where
  order : String
  customer : String
  remaining : Int
  fgAvailable : Int
deriving DecidableEq, Repr

structure DemandObservation where
  totalDemand : Int
  totalDelivered : Int
  urgentOrders : List OrderData
  atRiskOrders : List AtRiskOrder
  onTimeRate : ℚ
  capacityUtilization : ℚ
deriving DecidableEq, Repr

structure ScheduleChange where
  order : String
  action : String
  customer : String
  remaining : Int
deriving DecidableEq, Repr

structure DemandDecision where
  scheduleChanges : List ScheduleChange
  alerts : List AgentAlert
  priority : String
deriving DecidableEq, Repr

structure DemandAgent where
  base : BaseAgent DemandDecision
  capacityUtil : ℚ

namespace DemandAgent

def new : DemandAgent := { base := .new, capacityUtil := 0 }

def senseOrder (fgStock : Int) (obs : DemandObservation) (o : OrderData) : DemandObservation :=
  let obs := { obs with
    totalDemand := obs.totalDemand + o.qty
    totalDelivered := obs.totalDelivered + o.delivered }
  let obs := if o.priority = "긴급" ∧ 0 < o.remaining then
      { obs with urgentOrders := obs.urgentOrders ++ [o] }
    else obs
  if 0 < o.remaining ∧ (fgStock : ℚ) < o.remaining * (3/10) then
    { obs with atRiskOrders := obs.atRiskOrders ++ [⟨o.id,o.customer,o.remaining,fgStock⟩] }
  else obs

/-- The use of the capacity that a demand makes. -/
def capacityOf (snapshot : Snapshot) (totalDemand : Int) : ℚ :=
  if 0 < snapshot.cycle then
    let dailyCapacity : ℚ := snapshot.totalProduced / max 1 snapshot.cycle * 480
    let dailyDemand : ℚ := if snapshot.orders.isEmpty then 0
      else totalDemand / max 1 snapshot.orders.length
    min (3/2) (dailyDemand / max 1 dailyCapacity)
  else 0

def observe (snapshot : Snapshot) : DemandObservation :=
  let obs := snapshot.orders.foldl (senseOrder snapshot.fgStock)
    { totalDemand := 0, totalDelivered := 0, urgentOrders := [], atRiskOrders := []
      onTimeRate := 1, capacityUtilization := 0 }
  { obs with
    onTimeRate := if 0 < obs.totalDemand then obs.totalDelivered / obs.totalDemand
      else obs.onTimeRate
    capacityUtilization := capacityOf snapshot obs.totalDemand }

def sense (da : DemandAgent) (snapshot : Snapshot) : DemandAgent × DemandObservation :=
  let obs := observe snapshot
  ({ da with capacityUtil := obs.capacityUtilization }, obs)

/-! ### Decisions -/

abbrev Reasoning := DemandDecision × BaseAgent DemandDecision

def reasonRisk (r : Reasoning) (risk : AtRiskOrder) : Reasoning :=
  let (d, base) := r
  let alert : AgentAlert := ⟨"PA","HIGH",
    s!"납기 위험: {risk.customer} — 잔여 {risk.remaining}개, 재고 {risk.fgAvailable}개"⟩
  ({ d with priority := "HIGH", alerts := d.alerts ++ [alert] },
    base.logReasoning
      s!"[납기위험] {risk.customer}: 잔여주문 {risk.remaining}개 > 재고 {risk.fgAvailable}개")

def scheduleChange (urg : OrderData) : ScheduleChange :=
  ⟨urg.id,"우선생산",urg.customer,urg.remaining⟩

def reasonOnTime (obs : DemandObservation) (r : Reasoning) : Reasoning :=
  let (d, base) := r
  let shown := percentText 1 obs.onTimeRate
  if obs.onTimeRate < 17/20 then
    let alert : AgentAlert := ⟨"PA","CRITICAL",s!"납기 준수율 저하: {shown} (목표 95%)"⟩
    ({ d with priority := "CRITICAL", alerts := d.alerts ++ [alert] },
      base.logReasoning s!"[긴급] 납기 준수율 {shown} — 생산 증대 필요")
  else (d, base)

/-- A lack of capacity adds an alert, and leaves the priority as it is. -/
def reasonCapacity (obs : DemandObservation) (r : Reasoning) : Reasoning :=
  let (d, base) := r
  let shown := percentText 0 obs.capacityUtilization
  if 11/10 < obs.capacityUtilization then
    let alert : AgentAlert := ⟨"PA","MEDIUM",s!"수요 초과: 생산능력 대비 {shown}"⟩
    ({ d with alerts := d.alerts ++ [alert] }, base.logReasoning s!"수요 > 생산능력: {shown}")
  else (d, base)

def assess (base : BaseAgent DemandDecision) (obs : DemandObservation) : Reasoning :=
  let (d, base) := obs.atRiskOrders.foldl reasonRisk
    ({ scheduleChanges := [], alerts := [], priority := "LOW" }, base)
  let d := { d with scheduleChanges := d.scheduleChanges ++ obs.urgentOrders.map scheduleChange }
  reasonCapacity obs (reasonOnTime obs (d, base))

def reason (da : DemandAgent) (obs : DemandObservation) : Option DemandDecision × DemandAgent :=
  let (d, base) := assess da.base obs
  if d.alerts.isEmpty ∧ d.scheduleChanges.isEmpty then
    let rate := percentText 1 obs.onTimeRate
    let used := percentText 0 obs.capacityUtilization
    (none, { da with base := base.logReasoning s!"수요 안정: 납기율 {rate}, 가동률 {used}" })
  else (some d, { da with base := base })

def act (da : DemandAgent) (decision : Option DemandDecision) : DemandAgent :=
  match decision with
  | none => da
  | some d =>
    let extra : Dict := [("on_time_rate", .float (.fin da.capacityUtil))]
    { da with base := da.base.sendAlerts "DA" extra d.alerts }

/-! ### The proposal -/

/-- `handle_cfp`, which reads nothing of the call. -/
def handleCfp (da : DemandAgent) : Dict :=
  let cu := da.capacityUtil
  let viol : ℚ := if 11/10 < cu then 1 else if 1 < cu then 1/2 else 0
  let costEst : ℚ := if 1 < cu then max 0 (min 1 (cu - 1)) else 0
  [("agent", .str "DA"), ("proposal", .str "수요 관점 대응"),
    ("speed_recommendation", .int (if 1 < cu then 110 else 100)),
    ("delivery_risk", .bool (9/10 < cu)),
    ("scores", .dict [("quality", .float (.fin (1/2))), ("delivery", .float (.fin (9/10))),
      ("cost", .float (.fin (3/5))), ("safety", .float (.fin (1/2)))]),
    ("proposal_metrics", .dict [("cost_estimate", .float (.fin (roundTo 4 costEst))),
      ("constraint_violation_total", .float (.fin viol)),
      ("capacity_utilization", .float (.fin (roundTo 4 cu)))])]

def executeAcceptedProposal (da : DemandAgent) : DemandAgent :=
  { da with base := da.base.logReasoning "수요 대응 실행 완료" }

def agentClass : AgentClass DemandAgent DemandObservation DemandDecision :=
  { sense := fun snapshot da => .ok (da.sense snapshot).2 (da.sense snapshot).1
    reason := fun obs da => .ok (da.reason obs).1 (da.reason obs).2
    act := fun decision da => .ok () (da.act decision)
    record := fun d da => { da with base := da.base.recordDecision d } }

end DemandAgent
end ManufacturingMas.Agents
