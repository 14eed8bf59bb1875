import ManufacturingMas.Agents.BaseAgent

/-! The inventory agent: buffers, the bottleneck and the scrap rate. -/

namespace ManufacturingMas.Agents
open Py FactorySnapshot

structure WipAlert where
  buffer : String
  count : Int
  util : ℚ
  status : String
deriving DecidableEq, Repr

structure InventoryObservation where
  wipLevels : List (String × (Int × ℚ))
  bottleneck : Option String
  fgStock : Int
  throughput : Int
  scrapRate : ℚ
  stationUtilization : List (String × ℚ)
  wipAlerts : List WipAlert
deriving DecidableEq, Repr

structure WipAction where
  buffer : String
  action : String
  reason : String
deriving DecidableEq, Repr

structure InventoryDecision where
  wipActions : List WipAction
  alerts : List AgentAlert
  priority : String
deriving DecidableEq, Repr

structure InventoryAgent where
  base : BaseAgent InventoryDecision
  wipHistory : List (String × List Int)
  throughputHistory : List Int
  bottleneckStation : Option String
  lastScrapRate : ℚ
  lastWipAlertN : Nat

namespace InventoryAgent

def new : InventoryAgent :=
  { base := .new, wipHistory := [], throughputHistory := [], bottleneckStation := none
    lastScrapRate := 0, lastWipAlertN := 0 }

/-- `f"{n:02d}"`. -/
def twoDigits (n : Nat) : String := if n < 10 then s!"0{n}" else s!"{n}"

def bufferKey (w : WipData) : String :=
  s!"WC-{twoDigits (w.source + 1)}→WC-{twoDigits (w.target + 1)}"

/-- The alert for a buffer that is filling up. -/
def wipAlert (w : WipData) : Option WipAlert :=
  if 4/5 < w.util then
    some ⟨bufferKey w,w.count,w.util,if 9/10 < w.util then "과적" else "주의"⟩
  else none

/-- The station with the lowest effectiveness below 1, the first of several. -/
def findBottleneck : List (String × StationData) → ℚ → Option String → Option String
  | [], _, found => found
  | (sid, s) :: stations, minOee, found =>
    if s.oee.oee < minOee then findBottleneck stations s.oee.oee (some sid)
    else findBottleneck stations minOee found

/-- A dict built by setting one entry after another. -/
def dictOf {α : Type} (entries : List (String × α)) : List (String × α) :=
  entries.foldl (fun d p => Assoc.set d p.1 p.2) []

def observe (snapshot : Snapshot) : InventoryObservation :=
  { wipLevels := dictOf (snapshot.wip.map fun w => (bufferKey w, (w.count, w.util)))
    bottleneck := findBottleneck snapshot.stations 1 none
    fgStock := snapshot.fgStock
    throughput := snapshot.totalProduced
    scrapRate := snapshot.scrapCount / max 1 (snapshot.totalProduced + snapshot.scrapCount)
    stationUtilization := dictOf (snapshot.stations.map fun p => (p.1, p.2.oee.oee))
    wipAlerts := snapshot.wip.filterMap wipAlert }

/-- Nothing cuts the history of throughputs. -/
def sense (ia : InventoryAgent) (snapshot : Snapshot) : InventoryAgent × InventoryObservation :=
  let obs := observe snapshot
  ({ ia with
      wipHistory := snapshot.wip.foldl
        (fun d w => History.record 100 d (bufferKey w) w.count) ia.wipHistory
      throughputHistory := ia.throughputHistory ++ [snapshot.totalProduced]
      bottleneckStation := obs.bottleneck
      lastScrapRate := obs.scrapRate
      lastWipAlertN := obs.wipAlerts.length }, obs)

/-! ### Decisions -/

abbrev Reasoning := InventoryDecision × BaseAgent InventoryDecision

def reasonWip (r : Reasoning) (wa : WipAlert) : Reasoning :=
  let (d, base) := r
  let level := s!"({wa.count}개, {percentText 0 wa.util})"
  if wa.status = "과적" then
    let alert : AgentAlert := ⟨"PA","HIGH",s!"WIP 과적: {wa.buffer} {level}"⟩
    ({ priority := "HIGH"
       wipActions := d.wipActions ++ [⟨wa.buffer,"속도조절",s!"WIP 과적 {level}"⟩]
       alerts := d.alerts ++ [alert] },
      base.logReasoning s!"[WIP] {wa.buffer} 과적 → 전공정 속도조절 필요")
  else (d, base)

/-- `max` of two texts, by their characters. -/
def maxText (a b : String) : String := if a < b then b else a

def reasonBottleneck (obs : InventoryObservation) (r : Reasoning) : Reasoning :=
  let (d, base) := r
  match obs.bottleneck with
  | none => (d, base)
  | some bn =>
    let oee := (Assoc.get obs.stationUtilization bn).getD 1
    if bn ≠ "" ∧ oee < 13/20 then
      let alert : AgentAlert := ⟨"PA","MEDIUM",s!"병목공정: {bn} (OEE {percentText 1 oee})"⟩
      ({ d with priority := maxText d.priority "MEDIUM", alerts := d.alerts ++ [alert] },
        base.logReasoning s!"[병목] {bn} OEE={percentText 1 oee} — 개선 필요")
    else (d, base)

/-- A high scrap rate adds an alert, and leaves the priority as it is. -/
def reasonScrap (obs : InventoryObservation) (r : Reasoning) : Reasoning :=
  let (d, base) := r
  let shown := percentText 1 obs.scrapRate
  if 1/20 < obs.scrapRate then
    let alert : AgentAlert := ⟨"PA","MEDIUM",s!"폐기율 상승: {shown}"⟩
    ({ d with alerts := d.alerts ++ [alert] },
      base.logReasoning s!"[폐기] 폐기율 {shown} > 5% 기준")
  else (d, base)

def assess (base : BaseAgent InventoryDecision) (obs : InventoryObservation) : Reasoning :=
  reasonScrap obs (reasonBottleneck obs (obs.wipAlerts.foldl reasonWip
    ({ wipActions := [], alerts := [], priority := "LOW" }, base)))

def reason (ia : InventoryAgent) (obs : InventoryObservation) :
    Option InventoryDecision × InventoryAgent :=
  let (d, base) := assess ia.base obs
  if d.wipActions.isEmpty ∧ d.alerts.isEmpty then
    let bn := match obs.bottleneck with
      | some bn => if bn = "" then "없음" else bn
      | none => "없음"
    let shown := percentText 1 obs.scrapRate
    (none, { ia with
      base := base.logReasoning s!"물류 안정: 병목={bn}, FG={obs.fgStock}개, 폐기율={shown}" })
  else (some d, { ia with base := base })

def act (ia : InventoryAgent) (decision : Option InventoryDecision) : InventoryAgent :=
  match decision with
  | none => ia
  | some d =>
    let station : Val := (ia.bottleneckStation.map Val.str).getD .none
    { ia with base := ia.base.sendAlerts "IA" [("bottleneck", station)] d.alerts }

/-! ### The proposal -/

/-- Whether the last throughput is above the one before, of more than two. -/
def trendUp (th : List Int) : Bool :=
  match th.reverse with
  | last :: previous :: _ :: _ => previous < last
  | _ => false

/-- `handle_cfp`, which reads nothing of the call. -/
def handleCfp (ia : InventoryAgent) : Dict :=
  let up := trendUp ia.throughputHistory
  let stopped : Bool := ia.bottleneckStation.any (· ≠ "")
  let viol : ℚ := min 1 (7/20 * ia.lastWipAlertN + if stopped then 9/20 else 0)
  let costEst : ℚ := min 1 (ia.lastScrapRate * 8 + if up then 3/25 else 0)
  let station : Val := (ia.bottleneckStation.map Val.str).getD .none
  [("agent", .str "IA"), ("proposal", .str "물류 관점 대응"), ("bottleneck", station),
    ("throughput_trend", .str (if up then "상승" else "정체")),
    ("scores", .dict [("quality", .float (.fin (3/5))), ("delivery", .float (.fin (7/10))),
      ("cost", .float (.fin (7/10))), ("safety", .float (.fin (1/2)))]),
    ("proposal_metrics", .dict [("cost_estimate", .float (.fin (roundTo 4 costEst))),
      ("constraint_violation_total", .float (.fin viol)), ("bottleneck_station", station)])]

def executeAcceptedProposal (ia : InventoryAgent) : InventoryAgent :=
  { ia with base := ia.base.logReasoning "물류 대응 실행 완료" }

def agentClass : AgentClass InventoryAgent InventoryObservation InventoryDecision :=
  { sense := fun snapshot ia => .ok (ia.sense snapshot).2 (ia.sense snapshot).1
    reason := fun obs ia => .ok (ia.reason obs).1 (ia.reason obs).2
    act := fun decision ia => .ok () (ia.act decision)
    record := fun d ia => { ia with base := ia.base.recordDecision d } }

end InventoryAgent
end ManufacturingMas.Agents
