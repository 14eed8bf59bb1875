import ManufacturingMas.Agents.BaseAgent

/-! The supply agent: shortages, reorders, and what it keeps of them. -/

namespace ManufacturingMas.Agents
open Py FactorySnapshot

structure MaterialStatus where
  stock : Int
  safetyStock : Int
  daysSupply : Option ℚ
  status : String
  consumptionRate : PyFloat
deriving DecidableEq, Repr

structure Shortage where
  material : String
  stock : Int
  safetyStock : Int
  daysSupply : Option ℚ
deriving DecidableEq, Repr

structure ReorderNeed where
  material : String
  stock : Int
  safetyStock : Int
  daysSupply : Option ℚ
  consumptionRate : PyFloat
deriving DecidableEq, Repr

structure SupplyObservation where
  materialStatus : List (String × MaterialStatus)
  shortages : List Shortage
  reorderNeeded : List ReorderNeed
deriving DecidableEq, Repr

structure Reorder where
  material : String
  type : String
  reason : String
deriving DecidableEq, Repr

structure SupplyDecision where
  reorders : List Reorder
  alerts : List AgentAlert
  priority : String
deriving DecidableEq, Repr

structure SupplyAgent where
  base : BaseAgent SupplyDecision
  consumptionHistory : List (String × List Int)
  reorderLog : List Reorder

namespace SupplyAgent

def new : SupplyAgent := { base := .new, consumptionHistory := [], reorderLog := [] }

/-- The decreases between neighbouring values. -/
def decreases : List Int → List Int
  | x :: y :: rest => if y < x then (x - y) :: decreases (y :: rest) else decreases (y :: rest)
  | _ => []

def calcConsumptionRate (history : List Int) : Except PyErr PyFloat :=
  let diffs := decreases history
  if history.length < 3 then .ok (.fin 0)
  else if diffs.isEmpty then .ok (.fin 0)
  else PyFloat.ofQuotient diffs.sum diffs.length

/-- `round(x, 1)`. -/
def shownRate (rate : PyFloat) : PyFloat := (rate.round 1).rounded

/-- The status of a material that is neither short nor to be reordered; a null number of
days cannot be compared. -/
def sufficientStatus (daysSupply : Option ℚ) : Except PyErr String :=
  match daysSupply with
  | none => .error .typeError
  | some days => .ok (if days < 3 then "주의" else "충분")

/-- One material, of which the history has its stock already. -/
def judgeMaterial (obs : SupplyObservation) (name : String) (m : MaterialData)
    (history : List Int) : Except PyErr SupplyObservation := do
  let rate ← calcConsumptionRate history
  let safetyStock ← PyFloat.ofInt m.safetyStock
  let entry (status : String) : List (String × MaterialStatus) :=
    Assoc.set obs.materialStatus name
      ⟨m.stock,m.safetyStock,m.daysSupply,status,shownRate rate⟩
  if PyFloat.le (.fin m.stock) (safetyStock.mul (.fin (1/2))).rounded then
    pure { obs with
      shortages := obs.shortages ++ [⟨name,m.stock,m.safetyStock,m.daysSupply⟩]
      materialStatus := entry "위험" }
  else if m.needsReorder ∨ m.stock ≤ m.safetyStock then
    pure { obs with
      reorderNeeded := obs.reorderNeeded ++
        [⟨name,m.stock,m.safetyStock,m.daysSupply,shownRate rate⟩]
      materialStatus := entry "부족" }
  else do
    let status ← sufficientStatus m.daysSupply
    pure { obs with materialStatus := entry status }

/-- The agent with a stock in the history of its material. -/
def recordStock (sa : SupplyAgent) (name : String) (stock : Int) : SupplyAgent :=
  { sa with consumptionHistory := History.record 100 sa.consumptionHistory name stock }

/-- One material: its history first, so that this is kept even if the rest raises. -/
def senseMaterial (obs : SupplyObservation) (material : String × MaterialData) :
    EStateM PyErr SupplyAgent SupplyObservation := do
  let (name, m) := material
  modify fun sa => sa.recordStock name m.stock
  let sa ← get
  Stateful.ofExcept (judgeMaterial obs name m (History.entries sa.consumptionHistory name))

theorem senseMaterial_apply (obs : SupplyObservation) (name : String) (m : MaterialData)
    (sa : SupplyAgent) :
    senseMaterial obs (name, m) sa =
      (Stateful.ofExcept (judgeMaterial obs name m
        (Ring.push 100 (History.entries sa.consumptionHistory name) m.stock)) :
          EStateM PyErr SupplyAgent SupplyObservation) (sa.recordStock name m.stock) := by
  rw [← History.entries_record_self]
  rfl

def senseMaterials (obs : SupplyObservation) : List (String × MaterialData) →
    EStateM PyErr SupplyAgent SupplyObservation
  | [] => pure obs
  | material :: materials => do
    let obs ← senseMaterial obs material
    senseMaterials obs materials

def sense (snapshot : Snapshot) : EStateM PyErr SupplyAgent SupplyObservation :=
  senseMaterials { materialStatus := [], shortages := [], reorderNeeded := [] } snapshot.materials

/-! ### Decisions -/

def logReasoning (text : String) : EStateM PyErr SupplyAgent Unit :=
  modify fun sa => { sa with base := sa.base.logReasoning text }

def shortageReorder (s : Shortage) : Reorder :=
  ⟨s.material,"긴급발주",s!"재고 {s.stock}개 < 안전재고 50%"⟩

def shortageAlert (s : Shortage) : AgentAlert :=
  ⟨"PA","CRITICAL",
    s!"자재 부족 위험: {s.material} (재고 {s.stock}, 안전재고 {s.safetyStock})"⟩

def reasonShortages (d : SupplyDecision) : List Shortage →
    EStateM PyErr SupplyAgent SupplyDecision
  | [] => pure d
  | s :: shortages => do
    logReasoning s!"[긴급] {s.material} 재고 부족 → 긴급발주"
    reasonShortages
      { reorders := d.reorders ++ [shortageReorder s], alerts := d.alerts ++ [shortageAlert s]
        priority := "CRITICAL" } shortages

/-- `f"{days:.1f}"`, which raises on null. -/
def daysText (days : Option ℚ) : Except PyErr String :=
  match days with
  | none => .error .typeError
  | some days => .ok (fixedText 1 days)

def reasonReorders (printer : Printer) (d : SupplyDecision) : List ReorderNeed →
    EStateM PyErr SupplyAgent SupplyDecision
  | [] => pure d
  | r :: reorders => do
    let days ← Stateful.ofExcept (daysText r.daysSupply)
    let rate := printer.str (.float r.consumptionRate)
    logReasoning s!"[발주] {r.material} — 잔여 {days}일, 소모율 {rate}/cycle"
    reasonReorders printer
      { d with
        priority := if d.priority = "CRITICAL" then d.priority else "MEDIUM"
        reorders := d.reorders ++ [⟨r.material,"정기발주",s!"잔여 {days}일분"⟩] } reorders

def reason (printer : Printer) (obs : SupplyObservation) :
    EStateM PyErr SupplyAgent (Option SupplyDecision) := do
  let d ← reasonShortages { reorders := [], alerts := [], priority := "LOW" } obs.shortages
  let d ← reasonReorders printer d obs.reorderNeeded
  if d.reorders.isEmpty ∧ d.alerts.isEmpty then do
    let safe := obs.materialStatus.countP fun m => m.2.status = "충분"
    logReasoning s!"자재 안정: {safe}/{obs.materialStatus.length} 충분"
    pure none
  else pure (some d)

def Reorder.toDict (r : Reorder) : Dict :=
  [("material", .str r.material), ("type", .str r.type), ("reason", .str r.reason)]

/-- The reorders are appended to a log that nothing cuts. -/
def act (decision : Option SupplyDecision) (sa : SupplyAgent) : SupplyAgent :=
  match decision with
  | none => sa
  | some d =>
    let extra : Dict := [("reorder_list", .list (d.reorders.map fun r => .dict (Reorder.toDict r)))]
    { sa with
      base := sa.base.sendAlerts "SA" extra d.alerts
      reorderLog := sa.reorderLog ++ d.reorders }

/-! ### The proposal -/

/-- `handle_cfp`, which reads nothing of the call. -/
def handleCfp (sa : SupplyAgent) : Dict :=
  let critical := (sa.reorderLog.rtake 5).filter fun r => r.type = "긴급발주"
  let viol : ℚ := if !critical.isEmpty then 1 else if !sa.reorderLog.isEmpty then 2/5 else 0
  let costEst : ℚ :=
    min 1 (1/5 * critical.length + 1/20 * (sa.reorderLog.rtake 10).length)
  [("agent", .str "SA"), ("proposal", .str "자재 관점 대응"),
    ("critical_materials", .list (critical.map fun r => .dict (Reorder.toDict r))),
    ("reorder_pending", .int sa.reorderLog.length),
    ("scores", .dict [("quality", .float (.fin (1/2))), ("delivery", .float (.fin (4/5))),
      ("cost", .float (.fin (3/5))), ("safety", .float (.fin (3/5)))]),
    ("proposal_metrics", .dict [("cost_estimate", .float (.fin (roundTo 4 costEst))),
      ("constraint_violation_total", .float (.fin viol)),
      ("critical_material_n", .int critical.length)])]

def executeAcceptedProposal (sa : SupplyAgent) : SupplyAgent :=
  { sa with base := sa.base.logReasoning "자재 대응 실행 완료" }

def agentClass (printer : Printer) : AgentClass SupplyAgent SupplyObservation SupplyDecision :=
  { sense := sense
    reason := reason printer
    act := fun decision sa => .ok () (act decision sa)
    record := fun d sa => { sa with base := sa.base.recordDecision d } }

end SupplyAgent
end ManufacturingMas.Agents
