import ManufacturingMas.Py.Number

namespace ManufacturingMas.Machines
open Py

inductive MachineState where
  | running | idle | setup | breakdown | maintenance | warmup
deriving DecidableEq, Repr

inductive ReadingStatus where
  | normal | warning | critical
deriving DecidableEq, Repr

structure SensorReading where
  name : String
  value : ℚ
  unit : String
  status : ReadingStatus
deriving DecidableEq, Repr

/-- Tool wear along an S-curve; `noise` is the one gaussian draw of `advance`. -/
structure ToolWear where
  currentLife : Int
  maxLife : Int
  wearRate : ℚ
  region : String
deriving DecidableEq, Repr

namespace ToolWear

def new (maxLife : Int) : ToolWear :=
  { currentLife := 0, maxLife := maxLife, wearRate := 0, region := "초기안정" }

def advance (t : ToolWear) (noise : ℚ) : ToolWear :=
  let life := t.currentLife + 1
  let ratio : ℚ := life / t.maxLife
  let (wear, region) : ℚ × String :=
    if ratio < 3/10 then (1/5 + noise, "초기안정")
    else if ratio < 4/5 then (1/2 + 3/10 * (ratio - 3/10) / (1/2) + noise, "선형마모")
    else (4/5 + 3/2 * (ratio - 4/5) / (1/5) + noise, "급격마모")
  { t with currentLife := life, wearRate := max 0 (min wear (5/2)), region := region }

def reset (t : ToolWear) : ToolWear :=
  { t with currentLife := 0, wearRate := 0, region := "초기안정" }

end ToolWear

structure RealisticSensor where
  name : String
  baseline : ℚ
  noiseStd : ℚ
  unit : String
  warnThreshold : ℚ
  criticalThreshold : ℚ
  autocorrelation : ℚ
  driftPerCycle : ℚ
  value : ℚ
  drift : ℚ
  warmupFactor : ℚ
  history : List ℚ
deriving DecidableEq, Repr

namespace RealisticSensor

def new (name : String) (baseline noiseStd : ℚ) (unit : String)
    (warnThreshold criticalThreshold autocorrelation : ℚ) (driftPerCycle : ℚ := 0) :
    RealisticSensor :=
  { name := name, baseline := baseline, noiseStd := noiseStd, unit := unit,
    warnThreshold := warnThreshold, criticalThreshold := criticalThreshold,
    autocorrelation := autocorrelation, driftPerCycle := driftPerCycle,
    value := baseline, drift := 0, warmupFactor := 1, history := [] }

/-- One comparison chain on the absolute value, the critical limit first. -/
def classify (s : RealisticSensor) (value : ℚ) : ReadingStatus :=
  if s.criticalThreshold ≤ |value| then .critical
  else if s.warnThreshold ≤ |value| then .warning
  else .normal

/-- `innovation` is the gaussian draw. -/
def read (s : RealisticSensor) (innovation toolWearRate shiftFactor ambientTemp : ℚ)
    (isWarmup : Bool) : RealisticSensor × SensorReading :=
  let drift := s.drift + s.driftPerCycle
  let warmup := if isWarmup then max (7/10) (s.warmupFactor - 1/20)
    else min 1 (s.warmupFactor + 1/50)
  let ambientEffect := (ambientTemp - 22) * (1/100)
  let wearEffect := toolWearRate * (3/10)
  let shiftNoise := (shiftFactor - 1) * s.noiseStd * (1/2)
  let target := s.baseline + drift + ambientEffect + wearEffect + shiftNoise + innovation
  let value := s.autocorrelation * s.value + (1 - s.autocorrelation) * target
  let history := s.history ++ [value]
  ({ s with
      drift := drift
      warmupFactor := warmup
      value := value
      history := if 100 < history.length then history.drop (history.length - 100) else history },
    { name := s.name, value := roundTo 3 value, unit := s.unit, status := s.classify value })

def injectShock (s : RealisticSensor) (magnitude : ℚ) : RealisticSensor :=
  { s with drift := s.drift + magnitude }

def recover (s : RealisticSensor) (amount : ℚ) : RealisticSensor :=
  { s with drift := max 0 (s.drift - amount) }

end RealisticSensor

/-- The draws of one visit to a station: wear, one per sensor position, power,
the quality verdict and the rework choice. -/
structure StationDraws where
  toolNoise : ℚ
  innovation : Nat → ℚ
  powerNoise : ℚ
  judge : Unit01
  rework : Unit01

abbrev Readings := List (String × SensorReading)

structure WorkCenter where
  stationId : String
  name : String
  stationType : String
  cycleTimeSec : ℚ
  designCycleTime : ℚ
  sensors : List (String × RealisticSensor)
  tool : ToolWear
  state : MachineState
  totalCycles : Int
  goodCount : Int
  defectCount : Int
  plannedTimeSec : ℚ
  runTimeSec : ℚ
  downtimeSec : ℚ
  setupTimeSec : ℚ
  failureCount : Int
  totalRepairSec : ℚ
  lastFailureCycle : Int
  uptimeSinceRepair : Int
  powerKw : ℚ
  energyKwh : ℚ
  speedPct : Int
deriving DecidableEq, Repr

namespace WorkCenter

def new (stationId name stationType : String) (cycleTimeSec : ℚ)
    (sensors : List (String × RealisticSensor)) (tool : ToolWear) : WorkCenter :=
  { stationId := stationId, name := name, stationType := stationType,
    cycleTimeSec := cycleTimeSec, designCycleTime := cycleTimeSec,
    sensors := sensors, tool := tool, state := .idle,
    totalCycles := 0, goodCount := 0, defectCount := 0,
    plannedTimeSec := 0, runTimeSec := 0, downtimeSec := 0, setupTimeSec := 0,
    failureCount := 0, totalRepairSec := 0, lastFailureCycle := 0, uptimeSinceRepair := 0,
    powerKw := 0, energyKwh := 0, speedPct := 100 }

def basePower (stationType : String) : ℚ :=
  if stationType = "PRESS" then 45
  else if stationType = "WELD" then 35
  else if stationType = "HEAT" then 80
  else if stationType = "CNC" then 25
  else if stationType = "ASSY" then 12
  else 20

def calcPower (wc : WorkCenter) (wearRate noise : ℚ) : ℚ :=
  basePower wc.stationType * (wc.speedPct / 100) * (1 + wearRate * (1/10)) + noise

/-- Reads the sensors in dict order; `i` is the position of the first one. -/
def readSensors (innovation : Nat → ℚ) (wear shift ambient : ℚ) (isWarmup : Bool) :
    Nat → List (String × RealisticSensor) → List (String × RealisticSensor) × Readings
  | _, [] => ([], [])
  | i, (key, s) :: rest =>
    let (s', r) := s.read (innovation i) wear shift ambient isWarmup
    let (rest', rs) := readSensors innovation wear shift ambient isWarmup (i + 1) rest
    ((key, s') :: rest', (key, r) :: rs)

def executeCycle (wc : WorkCenter) (shiftFactor ambientTemp : ℚ) (d : StationDraws) :
    WorkCenter × Readings :=
  if wc.state = .breakdown ∨ wc.state = .maintenance ∨ wc.state = .setup then (wc, [])
  else
    let isWarmup : Bool := wc.state = .warmup
    let tool := wc.tool.advance d.toolNoise
    let wearRate := tool.wearRate
    let (sensors, readings) :=
      readSensors d.innovation wearRate shiftFactor ambientTemp isWarmup 0 wc.sensors
    let actualCt := wc.cycleTimeSec * (100 / (max 40 wc.speedPct : Int))
    let power := wc.calcPower wearRate d.powerNoise
    ({ wc with
        state := .running
        tool := tool
        sensors := sensors
        runTimeSec := wc.runTimeSec + actualCt
        plannedTimeSec := wc.plannedTimeSec + wc.designCycleTime
        totalCycles := wc.totalCycles + 1
        uptimeSinceRepair := wc.uptimeSinceRepair + 1
        powerKw := power
        energyKwh := wc.energyKwh + power * (actualCt / 3600) },
      readings)

def recordQuality (wc : WorkCenter) (isGood : Bool) : WorkCenter :=
  if isGood then { wc with goodCount := wc.goodCount + 1 }
  else { wc with defectCount := wc.defectCount + 1 }

def triggerBreakdown (wc : WorkCenter) (repairTimeSec : ℚ) : WorkCenter :=
  { wc with
    state := .breakdown
    failureCount := wc.failureCount + 1
    totalRepairSec := wc.totalRepairSec + repairTimeSec
    downtimeSec := wc.downtimeSec + repairTimeSec
    lastFailureCycle := wc.totalCycles
    uptimeSinceRepair := 0 }

def completeRepair (wc : WorkCenter) : WorkCenter := { wc with state := .warmup }

def startSetup (wc : WorkCenter) (durationSec : ℚ) : WorkCenter :=
  { wc with state := .setup, setupTimeSec := wc.setupTimeSec + durationSec }

def completeSetup (wc : WorkCenter) : WorkCenter :=
  { wc with state := .warmup, tool := wc.tool.reset }

def setSpeed (wc : WorkCenter) (pct : Int) : WorkCenter :=
  { wc with speedPct := max 40 (min 110 pct) }

end WorkCenter

structure Oee where
  availability : ℚ
  performance : ℚ
  quality : ℚ
  oee : ℚ
deriving DecidableEq, Repr

/-- `oee`, the quotients and their product being exact. -/
def WorkCenter.oee (wc : WorkCenter) : Oee :=
  let availability := if 0 < wc.plannedTimeSec then wc.runTimeSec / wc.plannedTimeSec else 1
  let performance :=
    if 0 < wc.runTimeSec then wc.totalCycles * wc.designCycleTime / wc.runTimeSec else 1
  let quality : ℚ := if 0 < wc.totalCycles then wc.goodCount / wc.totalCycles else 1
  { availability := roundTo 4 (min 1 availability)
    performance := roundTo 4 (min 1 performance)
    quality := roundTo 4 (min 1 quality)
    oee := roundTo 4 (min 1 (availability * performance * quality)) }

def createBlankingPress (stationId : String) : WorkCenter :=
  .new stationId "블랭킹 프레스" "PRESS" (9/2)
    [("vibration", .new "진동" (21/10) (1/4) "mm/s" (19/5) 5 (22/25) (3/1000)),
     ("tonnage", .new "프레스압" 150 3 "ton" 170 180 (9/10)),
     ("oil_temp", .new "유압유온" 42 (6/5) "°C" 55 65 (23/25)),
     ("die_clearance", .new "금형간극" (3/20) (1/125) "mm" (11/50) (7/25) (17/20) (1/5000)),
     ("noise_db", .new "소음" 85 2 "dB" 95 105 (4/5))]
    (.new 8000)

def createFormingPress (stationId : String) : WorkCenter :=
  .new stationId "포밍 프레스" "PRESS" 5
    [("vibration", .new "진동" (9/5) (1/5) "mm/s" (7/2) (24/5) (87/100) (1/500)),
     ("tonnage", .new "프레스압" 120 (5/2) "ton" 140 155 (91/100)),
     ("springback", .new "스프링백" (4/5) (3/50) "mm" (6/5) (3/2) (83/100) (3/10000)),
     ("oil_temp", .new "유압유온" 40 1 "°C" 52 62 (23/25)),
     ("stroke_position", .new "스트로크위치" 180 (3/10) "mm" 182 184 (19/20))]
    (.new 6000)

def createSpotWelder (stationId : String) : WorkCenter :=
  .new stationId "스팟 용접" "WELD" 6
    [("weld_current", .new "용접전류" 8500 120 "A" 9200 9800 (43/50)),
     ("weld_force", .new "가압력" (16/5) (2/25) "kN" (19/5) (21/5) (22/25)),
     ("nugget_dia", .new "너겟직경" (11/2) (3/20) "mm" (9/2) 4 (41/50) (-1/1000)),
     ("electrode_tip", .new "전극팁마모" 0 (1/50) "mm" (4/5) (6/5) (9/10) (1/200)),
     ("spatter_rate", .new "스패터율" 2 (4/5) "%" 5 8 (3/4))]
    (.new 3000)

def createHeatTreatment (stationId : String) : WorkCenter :=
  .new stationId "열처리" "HEAT" 15
    [("furnace_temp", .new "노내온도" 850 5 "°C" 880 900 (19/20) (1/100)),
     ("quench_temp", .new "냉각수온" 35 (3/2) "°C" 45 55 (93/100)),
     ("hardness", .new "경도(HRC)" 58 (4/5) "HRC" 54 50 (22/25)),
     ("atmosphere", .new "분위기가스" (3/10) (1/20) "%C" (1/2) (7/10) (9/10)),
     ("energy_rate", .new "에너지소비" 75 3 "kW" 90 100 (17/20))]
    (.new 15000)

def createCncMachine (stationId : String) : WorkCenter :=
  .new stationId "CNC 가공" "CNC" 8
    [("spindle_vib", .new "스핀들진동" (1/2) (2/25) "mm/s" (6/5) 2 (43/50) (1/1000)),
     ("spindle_load", .new "스핀들부하" 45 2 "%" 75 90 (22/25)),
     ("coolant_temp", .new "절삭유온" 24 (4/5) "°C" 30 35 (91/100)),
     ("surface_ra", .new "표면거칠기" (8/5) (3/25) "μm" (5/2) (16/5) (21/25) (1/500)),
     ("dimension_dev", .new "치수편차" 0 (1/200) "mm" (3/100) (1/20) (87/100) (1/10000))]
    (.new 2000)

def createAssemblyStation (stationId : String) : WorkCenter :=
  .new stationId "조립/검사" "ASSY" 10
    [("torque", .new "체결토크" 25 (1/2) "Nm" 28 32 (89/100)),
     ("force", .new "조립압입력" (9/5) (3/50) "kN" (11/5) (5/2) (87/100)),
     ("vision_score", .new "비전점수" 95 (3/2) "점" 88 80 (41/50)),
     ("leak_rate", .new "기밀검사" 0 (3/1000) "cc/min" (1/100) (1/50) (9/10)),
     ("final_weight", .new "중량" 2450 3 "g" 2480 2500 (93/100))]
    (.new 20000)

def createProductionLine : List WorkCenter :=
  [createBlankingPress "WC-01", createFormingPress "WC-02", createSpotWelder "WC-03",
   createHeatTreatment "WC-04", createCncMachine "WC-05", createAssemblyStation "WC-06"]

end ManufacturingMas.Machines
