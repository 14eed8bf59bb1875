import ManufacturingMas.Domain.Machines
import ManufacturingMas.Domain.BusinessEvents

namespace ManufacturingMas.Environment
open Py Machines BusinessEvents

inductive Shift where
  | dayA | dayB | night
deriving DecidableEq, Repr

structure ShiftInfo where
  shift : Shift
  operatorSkill : ℚ
  fatigueFactor : ℚ
  hourInShift : Nat
deriving DecidableEq, Repr

def ShiftInfo.effectiveFactor (i : ShiftInfo) : ℚ :=
  i.operatorSkill * (1 + i.fatigueFactor * (i.hourInShift / 8))

/-- SHIFT_PROFILES: skill and fatigue. -/
def shiftProfile : Shift → ℚ × ℚ
  | .dayA => (21/20, 3/100)
  | .dayB => (19/20, 1/20)
  | .night => (9/10, 2/25)

structure ShiftManager where
  currentIdx : Fin 3
  hourInShift : Nat
  shiftCycleCount : Nat
  shiftChanges : Nat
deriving DecidableEq, Repr

namespace ShiftManager

def new : ShiftManager :=
  { currentIdx := 0, hourInShift := 0, shiftCycleCount := 0, shiftChanges := 0 }

def shifts : Fin 3 → Shift
  | 0 => .dayA
  | 1 => .dayB
  | 2 => .night

def current (m : ShiftManager) : ShiftInfo :=
  let s := shifts m.currentIdx
  { shift := s, operatorSkill := (shiftProfile s).1, fatigueFactor := (shiftProfile s).2,
    hourInShift := m.hourInShift }

/-- `advance` with its default of 40 cycles per hour. -/
def advance (m : ShiftManager) : ShiftManager :=
  let count := m.shiftCycleCount + 1
  let hour := count / 40
  if 8 ≤ hour then
    { currentIdx := m.currentIdx + 1, hourInShift := 0, shiftCycleCount := 0,
      shiftChanges := m.shiftChanges + 1 }
  else { m with shiftCycleCount := count, hourInShift := hour }

end ShiftManager

structure Material where
  name : String
  stock : Int
  safetyStock : Int
  consumptionPerUnit : ℚ
  leadTimeDays : ℚ
  unitCost : ℚ
  supplier : String
  onOrder : Int
deriving DecidableEq, Repr

/-- `draw` is the outcome compared with the fractional part. -/
def Material.consume (m : Material) (draw : Unit01) : Material :=
  let whole := truncate m.consumptionPerUnit
  let remainder := m.consumptionPerUnit - whole
  let consumed := if draw.val < remainder then whole + 1 else whole
  { m with stock := max 0 (m.stock - consumed) }

inductive OrderPriority where
  | urgent | normal | low
deriving DecidableEq, Repr

structure CustomerOrder where
  orderId : String
  customer : String
  part : String
  quantity : Int
  dueDate : String
  priority : OrderPriority
  delivered : Int
deriving DecidableEq, Repr

namespace CustomerOrder

def remaining (o : CustomerOrder) : Int := max 0 (o.quantity - o.delivered)
def isComplete (o : CustomerOrder) : Bool := o.quantity ≤ o.delivered

end CustomerOrder

inductive ProductStatus where
  | inProcess | good | rework | scrap | hold
deriving DecidableEq, Repr

def ProductStatus.value : ProductStatus → String
  | .inProcess => "가공중"
  | .good => "양품"
  | .rework => "재작업"
  | .scrap => "폐기"
  | .hold => "보류"

/-- Serial and lot are kept as the counters their texts are printed from. -/
structure Product where
  serial : Nat
  lot : Nat
  currentStation : Nat
  status : ProductStatus
  measurements : List (String × List (String × ℚ))
  defectCodes : List String
deriving DecidableEq, Repr

structure Factory where
  line : List WorkCenter
  finishedGoods : List Product
  fgStock : Int
  scrapCount : Int
  reworkCount : Int
  totalProduced : Int
  shiftMgr : ShiftManager
  materials : List (String × Material)
  orders : List CustomerOrder
  ambientTemp : ℚ
  humidity : ℚ
  cycle : Int
  simTimeSec : ℚ
  hourlyYield : List ℚ
  hourlyOee : List ℚ
  hourlyThroughput : List Int
  currentProduct : Option Product
  productCounter : Nat
  lotCounter : Nat
  eventStore : BusinessEventStore
deriving DecidableEq, Repr

def initMaterials : List (String × Material) :=
  [("강판", ⟨"SPCC 강판 2.3t", 5000, 1000, 1, 3, 2500, "포스코", 0⟩),
   ("용접봉", ⟨"용접봉 Φ1.2", 8000, 2000, 4, 2, 150, "대동금속", 0⟩),
   ("볼트", ⟨"M8 볼트 세트", 12000, 3000, 6, 3/2, 80, "삼성볼트", 0⟩),
   ("도장", ⟨"전착 도료 15L", 200, 40, 1/20, 5, 45000, "KCC", 0⟩),
   ("절삭유", ⟨"수용성 절삭유", 500, 100, 1/50, 4, 12000, "한화솔루션", 0⟩)]

/-- The draws of the constructor: weather and the four order quantities. -/
structure InitDraws where
  ambient : ℚ
  humidity : ℚ
  quantity : Fin 4 → RandInt 300 800

/-- The order book of `_init_orders`. -/
def initOrders (quantity : Fin 4 → RandInt 300 800) : List CustomerOrder :=
  [⟨"PO-HMC-2026-001", "현대자동차", "BRK-PAD-2026A", (quantity 0).val, "2026-04-10", .urgent, 0⟩,
   ⟨"PO-KIA-2026-002", "기아자동차", "BRK-PAD-2026A", (quantity 1).val, "2026-04-13", .normal, 0⟩,
   ⟨"PO-GMK-2026-003", "GM코리아", "BRK-PAD-2026A", (quantity 2).val, "2026-04-16", .normal, 0⟩,
   ⟨"PO-RNK-2026-004", "르노코리아", "BRK-PAD-2026A", (quantity 3).val, "2026-04-19", .normal, 0⟩]

def Factory.new (d : InitDraws) : Factory :=
  { line := createProductionLine, finishedGoods := [], fgStock := 0, scrapCount := 0,
    reworkCount := 0, totalProduced := 0, shiftMgr := .new, materials := initMaterials,
    orders := initOrders d.quantity, ambientTemp := 22 + d.ambient,
    humidity := 55 + d.humidity, cycle := 0, simTimeSec := 0, hourlyYield := [],
    hourlyOee := [], hourlyThroughput := [], currentProduct := none, productCounter := 0,
    lotCounter := 1, eventStore := .new }

/-- The draws of one `run_cycle`, by station, order and material position. -/
structure CycleDraws where
  ambientNoise : ℚ
  humidityNoise : ℚ
  station : Nat → StationDraws
  shipment : Nat → RandInt 1 3
  material : Nat → Unit01

/-- What the station loop reads of the cycle it runs in. -/
structure LineContext where
  cycle : Int
  simTimeSec : ℚ
  shiftFactor : ℚ
  ambientTemp : ℚ

/-- What the station loop changes besides the stations. -/
structure LineState where
  product : Product
  scrapCount : Int
  reworkCount : Int
  eventStore : BusinessEventStore
  readings : List (String × Readings)

def judgeQuality (station : WorkCenter) (readings : Readings) (draw : Unit01) : Bool :=
  let badCount := readings.countP (fun r => r.2.status = .critical)
  let warnCount := readings.countP (fun r => r.2.status = .warning)
  let defectProb : ℚ := badCount * (2/5) + warnCount * (2/25)
  let defectProb := defectProb + station.tool.wearRate * (1/20)
  let defectProb := min (4/5) defectProb
  defectProb < draw.val

/-- The product and counters after a failed verdict, and its escalation event. -/
def reject (ctx : LineContext) (station : WorkCenter) (draw : Unit01) (st : LineState) :
    LineState :=
  let st :=
    if draw.val < 3/10 then
      { st with
        reworkCount := st.reworkCount + 1
        product := { st.product with
          status := .rework
          defectCodes := st.product.defectCodes ++ [station.stationId ++ "_재작업"] } }
    else
      { st with
        scrapCount := st.scrapCount + 1
        product := { st.product with
          status := .scrap
          defectCodes := st.product.defectCodes ++ [station.stationId ++ "_폐기"] } }
  let store := st.eventStore.emit
    { eventType := .qualityEscalation, logicalCycle := ctx.cycle, simTimeSec := ctx.simTimeSec,
      payload := .escalation st.product.serial st.product.status.value st.product.defectCodes,
      stationId := some station.stationId, lotId := some st.product.lot }
  { st with eventStore := store }

/-- One station that is not stopped: its cycle body, verdict and counters. -/
def visit (ctx : LineContext) (d : StationDraws) (idx : Nat) (station : WorkCenter)
    (st : LineState) : Bool × WorkCenter × LineState :=
  let (station, readings) := station.executeCycle ctx.shiftFactor ctx.ambientTemp d
  let product := { st.product with
    measurements := st.product.measurements ++
      [(station.stationId, readings.map (fun r => (r.1, r.2.value)))]
    currentStation := idx }
  let isGood := judgeQuality station readings d.judge
  let station := station.recordQuality isGood
  let store := st.eventStore.emit
    { eventType := .inspectionVerdict, logicalCycle := ctx.cycle, simTimeSec := ctx.simTimeSec,
      payload := .verdict product.serial station.stationId isGood,
      stationId := some station.stationId, lotId := some product.lot }
  (isGood, station, { st with
    product := product
    eventStore := store
    readings := st.readings ++ [(station.stationId, readings)] })

/-- The station loop from position `idx` on. A stopped station holds the
product and a failed verdict rejects it; both leave the rest of the line alone. -/
def runLine (ctx : LineContext) (d : Nat → StationDraws) :
    Nat → List WorkCenter → LineState → List WorkCenter × LineState
  | _, [], st => ([], st)
  | idx, station :: rest, st =>
    if station.state = .breakdown ∨ station.state = .maintenance then
      (station :: rest, { st with product := { st.product with
        status := .hold
        defectCodes := st.product.defectCodes ++ [station.stationId ++ "_정지"] } })
    else
      let (isGood, station, st) := visit ctx (d idx) idx station st
      if !isGood && st.product.status = .inProcess then
        (station :: rest, reject ctx station (d idx).rework st)
      else
        let (rest, st) := runLine ctx d (idx + 1) rest st
        (station :: rest, st)

/-- Each open order in turn takes one to three units while stock lasts;
`i` is the position of the first order. -/
def processShipments (draw : Nat → RandInt 1 3) :
    Nat → List CustomerOrder → Int → List CustomerOrder × Int
  | _, [], fg => ([], fg)
  | i, o :: rest, fg =>
    if o.isComplete then
      let (rest, fg) := processShipments draw (i + 1) rest fg
      (o :: rest, fg)
    else if 0 < fg then
      let ship := min (min (draw i).val fg) o.remaining
      let (rest, fg) := processShipments draw (i + 1) rest (fg - ship)
      ({ o with delivered := o.delivered + ship } :: rest, fg)
    else
      let (rest, fg) := processShipments draw (i + 1) rest fg
      (o :: rest, fg)

def consumeMaterials (draw : Nat → Unit01) :
    Nat → List (String × Material) → List (String × Material)
  | _, [] => []
  | i, (key, m) :: rest => (key, m.consume (draw i)) :: consumeMaterials draw (i + 1) rest

namespace Factory

def updateAmbient (f : Factory) (d : CycleDraws) : Factory :=
  { f with
    ambientTemp := max 15 (min 35 (f.ambientTemp + d.ambientNoise))
    humidity := max 30 (min 80 (f.humidity + d.humidityNoise)) }

/-- The counters, clock and weather at the start of a cycle, with its two
opening events and the product that enters the line. -/
def beginCycle (f : Factory) (d : CycleDraws) : Factory × Product :=
  let cycle := f.cycle + 1
  let simTime := f.simTimeSec + (f.line.head?.map (·.cycleTimeSec)).getD 0
  let counter := f.productCounter + 1
  let lot := if counter % 200 = 1 then f.lotCounter + 1 else f.lotCounter
  let f := { f with
    cycle := cycle
    simTimeSec := simTime
    shiftMgr := f.shiftMgr.advance }
  let f := f.updateAmbient d
  let store := f.eventStore.emit
    { eventType := .factoryTick, logicalCycle := cycle, simTimeSec := simTime,
      payload := .tick cycle, stationId := none, lotId := none }
  let store := store.emit
    { eventType := .workStarted, logicalCycle := cycle, simTimeSec := simTime,
      payload := .started counter lot, stationId := none, lotId := some lot }
  ({ f with productCounter := counter, lotCounter := lot, eventStore := store },
    { serial := counter, lot := lot, currentStation := 0, status := .inProcess,
      measurements := [], defectCodes := [] })

/-- Takes over what the station loop changed. -/
def afterLine (f : Factory) (line : List WorkCenter) (st : LineState) : Factory :=
  { f with
    line := line
    scrapCount := st.scrapCount
    reworkCount := st.reworkCount
    eventStore := st.eventStore }

/-- A product that passed the whole line: counted, recorded and shipped. -/
def finishGood (f : Factory) (d : CycleDraws) (product : Product) : Factory × Product :=
  let product := { product with status := .good }
  let store := f.eventStore.emit
    { eventType := .workComplete, logicalCycle := f.cycle, simTimeSec := f.simTimeSec,
      payload := .complete product.serial product.lot "GOOD",
      stationId := none, lotId := some product.lot }
  let (orders, fg) := processShipments d.shipment 0 f.orders (f.fgStock + 1)
  ({ f with
      fgStock := fg
      totalProduced := f.totalProduced + 1
      finishedGoods := f.finishedGoods ++ [product]
      eventStore := store
      orders := orders }, product)

/-- A product still IN_PROCESS has met neither a stop nor a failed verdict. -/
def finish (f : Factory) (d : CycleDraws) (product : Product) : Factory × Product :=
  if product.status = .inProcess then f.finishGood d product else (f, product)

def recordHourly (f : Factory) : Factory :=
  if f.cycle % 40 = 0 then
    let total : Int := (f.line.map (fun s => s.goodCount + s.defectCount)).sum
    let good : Int := (f.line.map (·.goodCount)).sum
    let oees : List ℚ := f.line.map (·.oee.oee)
    { f with
      hourlyYield := f.hourlyYield ++ [if 0 < total then (good : ℚ) / total else 1]
      hourlyOee := f.hourlyOee ++ [oees.sum / oees.length]
      hourlyThroughput := f.hourlyThroughput ++ [f.totalProduced] }
  else f

structure CycleResult where
  cycle : Int
  product : Product
  readings : List (String × Readings)
  shift : ShiftInfo

/-- The product's way through the line in this cycle. -/
def passLine (f : Factory) (d : CycleDraws) : List WorkCenter × LineState :=
  let begun := f.beginCycle d
  let ctx : LineContext :=
    { cycle := begun.1.cycle, simTimeSec := begun.1.simTimeSec,
      shiftFactor := f.shiftMgr.current.effectiveFactor, ambientTemp := begun.1.ambientTemp }
  runLine ctx d.station 0 begun.1.line
    { product := begun.2, scrapCount := begun.1.scrapCount, reworkCount := begun.1.reworkCount,
      eventStore := begun.1.eventStore, readings := [] }

/-- What every cycle ends with, whatever became of its product. -/
def endCycle (f : Factory) (d : CycleDraws) (product : Product) : Factory :=
  let f := { f with
    materials := consumeMaterials d.material 0 f.materials
    currentProduct := some product }
  f.recordHourly

def runCycle (f : Factory) (d : CycleDraws) : Factory × CycleResult :=
  let (line, st) := f.passLine d
  let (g, product) := ((f.beginCycle d).1.afterLine line st).finish d st.product
  (g.endCycle d product,
    { cycle := g.cycle, product := product, readings := st.readings,
      shift := f.shiftMgr.current })

/-- Good verdicts among all verdicts of the stations. -/
def firstPassYield (f : Factory) : ℚ :=
  let totalItems : Int := (f.line.map (fun s => s.goodCount + s.defectCount)).sum
  let totalGood : Int := (f.line.map (·.goodCount)).sum
  if 0 < totalItems then totalGood / totalItems else 1

/-- The first station of the lowest OEE. -/
def lowestOee : WorkCenter → List WorkCenter → WorkCenter
  | best, [] => best
  | best, s :: rest => lowestOee (if s.oee.oee < best.oee.oee then s else best) rest

structure KpiSummary where
  cycle : Int
  totalProduced : Int
  fgStock : Int
  scrapCount : Int
  reworkCount : Int
  fpy : ℚ
  avgOee : ℚ
  bottleneck : String
  bottleneckOee : ℚ
  totalEnergyKwh : ℚ
  energyPerUnit : ℚ
  onTimeDelivery : ℚ
  stationOee : List (String × Oee)
  shiftChanges : Nat
deriving DecidableEq, Repr

/-- `get_kpi_summary`, which raises for a line without stations. -/
def getKpiSummary (f : Factory) : Option KpiSummary :=
  match f.line with
  | [] => none
  | first :: rest =>
    let oees : List ℚ := f.line.map (·.oee.oee)
    let bottleneck := lowestOee first rest
    let totalEnergy : ℚ := (f.line.map (·.energyKwh)).sum
    let energyPerUnit := if 0 < f.totalProduced then totalEnergy / f.totalProduced else 0
    let totalDemand : Int := (f.orders.map (·.quantity)).sum
    let totalDelivered : Int := (f.orders.map (·.delivered)).sum
    let onTimeRate : ℚ := if 0 < totalDemand then totalDelivered / totalDemand else 1
    some {
      cycle := f.cycle
      totalProduced := f.totalProduced
      fgStock := f.fgStock
      scrapCount := f.scrapCount
      reworkCount := f.reworkCount
      fpy := roundTo 4 f.firstPassYield
      avgOee := roundTo 4 (oees.sum / oees.length)
      bottleneck := bottleneck.stationId
      bottleneckOee := bottleneck.oee.oee
      totalEnergyKwh := roundTo 1 totalEnergy
      energyPerUnit := roundTo 3 energyPerUnit
      onTimeDelivery := roundTo 4 onTimeRate
      stationOee := f.line.map (fun s => (s.stationId, s.oee))
      shiftChanges := f.shiftMgr.shiftChanges }

end Factory
end ManufacturingMas.Environment
