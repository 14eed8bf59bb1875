import Mathlib.Data.List.DropRight
import ManufacturingMas.Domain.Environment
import ManufacturingMas.Py.Float

/-! The snapshot of a factory that the agents are given. -/

namespace ManufacturingMas

namespace FactorySnapshot
open Py Machines Environment BusinessEvents

structure SensorData where
  value : ℚ
  ma : ℚ
  slope : ℚ
  std : ℚ
deriving DecidableEq, Repr

/-- A station; its `mtbf` is null before the first failure. -/
structure StationData where
  name : String
  type : String
  state : String
  toolLifePct : ℚ
  toolRegion : String
  oee : Oee
  mtbf : Option ℚ
  sensors : List (String × SensorData)
deriving DecidableEq, Repr

/-- A material; its `days_supply` is null where the number of days is infinite. -/
structure MaterialData where
  stock : Int
  safetyStock : Int
  daysSupply : Option ℚ
  needsReorder : Bool
deriving DecidableEq, Repr

/-- The buffer between two stations, given by their positions. -/
structure WipData where
  source : Nat
  target : Nat
  count : Int
  util : ℚ
deriving DecidableEq, Repr

structure OrderData where
  id : String
  customer : String
  qty : Int
  delivered : Int
  remaining : Int
  priority : String
deriving DecidableEq, Repr

structure Snapshot where
  cycle : Int
  stations : List (String × StationData)
  fgStock : Int
  totalProduced : Int
  scrapCount : Int
  materials : List (String × MaterialData)
  wip : List WipData
  orders : List OrderData
  businessEvents : List BusinessEvent
deriving DecidableEq, Repr

/-! ### Statistics of a sensor's history -/

def mean (xs : List ℚ) : ℚ := xs.sum / xs.length

/-- `root` is the square root, in floats; the mean and the squares are exact. -/
def deviation (root : ℚ → ℚ) (xs : List ℚ) : ℚ :=
  root ((xs.map fun x => (x - mean xs) ^ 2).sum / xs.length)

end FactorySnapshot

namespace Machines.RealisticSensor
open Py FactorySnapshot

def ma (s : RealisticSensor) : ℚ :=
  if s.history.isEmpty then s.baseline else mean (s.history.rtake 10)

/-- The least-squares slope over the last ten values. -/
def slope (s : RealisticSensor) : ℚ :=
  if s.history.length < 5 then 0
  else
    let recent := s.history.rtake 10
    let xMean : ℚ := (recent.length - 1) / 2
    let num := (recent.zipIdx.map fun p => ((p.2 : ℚ) - xMean) * (p.1 - mean recent)).sum
    let den := ((List.range recent.length).map fun i => ((i : ℚ) - xMean) ^ 2).sum
    if 0 < den then num / den else 0

def std (root : ℚ → ℚ) (s : RealisticSensor) : ℚ :=
  if s.history.length < 3 then 0 else deviation root (s.history.rtake 20)

end Machines.RealisticSensor

namespace Machines

def MachineState.value : MachineState → String
  | .running => "가동"
  | .idle => "대기"
  | .setup => "셋업"
  | .breakdown => "고장"
  | .maintenance => "정비"
  | .warmup => "워밍업"

def ToolWear.remainingPct (t : ToolWear) : ℚ := max 0 (1 - t.currentLife / t.maxLife) * 100

def WorkCenter.mtbf (wc : WorkCenter) : Option ℚ :=
  if wc.failureCount = 0 then none else some (wc.runTimeSec / wc.failureCount)

def WorkCenter.mttr (wc : WorkCenter) : ℚ :=
  if wc.failureCount = 0 then 0 else wc.totalRepairSec / wc.failureCount

def WorkCenter.yieldRate (wc : WorkCenter) : ℚ :=
  let total := wc.goodCount + wc.defectCount
  if 0 < total then wc.goodCount / total else 1

end Machines

namespace FactorySnapshot
open Py Machines Environment BusinessEvents

def sensorData (root : ℚ → ℚ) (s : RealisticSensor) : SensorData :=
  { value := s.value, ma := s.ma, slope := s.slope, std := s.std root }

/-- The fields of `get_status` that an agent reads, and the sensors under their keys. -/
def stationData (root : ℚ → ℚ) (wc : WorkCenter) : StationData :=
  { name := wc.name, type := wc.stationType, state := wc.state.value
    toolLifePct := roundTo 1 wc.tool.remainingPct, toolRegion := wc.tool.region
    oee := wc.oee, mtbf := wc.mtbf.map (roundTo 1)
    sensors := wc.sensors.map fun p => (p.1, sensorData root p.2) }

/-- The usage of a day with some 400 units. -/
def dailyUsage (m : Material) : PyFloat :=
  ((PyFloat.fin m.consumptionPerUnit).mul (.fin 400)).rounded

def daysOfSupply (m : Material) : Except PyErr PyFloat :=
  if (PyFloat.fin 0).lt (dailyUsage m) then do
    let stock ← PyFloat.ofInt m.stock
    pure (stock.div (dailyUsage m)).rounded
  else pure .posInf

def needsReorder (m : Material) : Except PyErr Bool := do
  let safetyStock ← PyFloat.ofInt m.safetyStock
  pure (PyFloat.le (.fin m.stock) (safetyStock.mul (.fin (3/2))).rounded)

/-- The number of days as it is sent: an infinite one is null. -/
def sentDays : PyFloat → Option ℚ
  | .fin q => some (nearestDouble (roundTo 1 q))
  | _ => none

/-- The entry of a material, which raises where a stock is beyond the floats. -/
def tryMaterialData (m : Material) : Except PyErr MaterialData := do
  let days ← daysOfSupply m
  let needs ← needsReorder m
  pure { stock := m.stock, safetyStock := m.safetyStock, daysSupply := sentDays days
         needsReorder := needs }

/-- The entry of a material where it does not raise. -/
def materialData (m : Material) : MaterialData :=
  (tryMaterialData m).toOption.getD
    { stock := m.stock, safetyStock := m.safetyStock, daysSupply := none, needsReorder := true }

def priorityValue : OrderPriority → String
  | .urgent => "긴급"
  | .normal => "일반"
  | .low => "저"

def orderData (o : CustomerOrder) : OrderData :=
  { id := o.orderId, customer := o.customer, qty := o.quantity, delivered := o.delivered
    remaining := o.remaining, priority := priorityValue o.priority }

/-- The five buffers between the stations, in which the line never puts anything. -/
def emptyBuffers : List WipData :=
  (List.range 5).map fun i => { source := i, target := i + 1, count := 0, util := 0 }

/-- `get_snapshot`, as far as the agents of the line read it, of a factory that has no stock
beyond the floats. -/
def getSnapshot (root : ℚ → ℚ) (f : Factory) : Snapshot :=
  { cycle := f.cycle
    stations := f.line.map fun wc => (wc.stationId, stationData root wc)
    fgStock := f.fgStock, totalProduced := f.totalProduced, scrapCount := f.scrapCount
    materials := f.materials.map fun p => (p.1, materialData p.2)
    wip := emptyBuffers
    orders := f.orders.map orderData
    businessEvents := f.eventStore.tail 48 }

/-- `get_snapshot` of any factory. -/
def tryGetSnapshot (root : ℚ → ℚ) (f : Factory) : Except PyErr Snapshot := do
  let materials ← f.materials.mapM fun p => do
    let data ← tryMaterialData p.2
    pure (p.1, data)
  pure { getSnapshot root f with materials := materials }

end FactorySnapshot
end ManufacturingMas
