import ManufacturingMas.Domain.Inventory
import ManufacturingMas.Domain.Demand
import ManufacturingMas.Domain.Environment

namespace ManufacturingMas.ManufacturingEnv
open Inventory Environment

structure SensorConfig where
  baseline : ℚ
  noiseStd : ℚ
  driftRate : ℚ
deriving DecidableEq, Repr

structure InitialOrder where
  orderId : String
  customer : String
  quantity : Int
  dueDate : String
  priority : String
deriving DecidableEq, Repr

/-- The fields of a scenario that the environment reads. -/
structure ScenarioConfig where
  pressSensors : List (String × SensorConfig)
  warehouseStock : Int
  warehouseSafetyStock : Int
  materialSteelStock : Int
  initialOrders : List InitialOrder
  shipmentInterval : Int
  shipmentBatchSize : Int
deriving DecidableEq, Repr

structure ManufacturingEnvironment where
  scenario : ScenarioConfig
  factory : Factory
  warehouse : FinishedGoodsWarehouse
  demand : Demand.DemandModel
deriving DecidableEq, Repr

def applyScenarioMaterials (sc : ScenarioConfig) (f : Factory) : Factory :=
  { f with materials := f.materials.map (fun (key, m) =>
      if key = "강판" then (key, { m with stock := sc.materialSteelStock }) else (key, m)) }

/-- Sets the baseline and the current value of the press sensors it names. -/
def applyScenarioSensors (sc : ScenarioConfig) (f : Factory) : Factory :=
  match f.line with
  | [] => f
  | press :: rest =>
    let sensors := press.sensors.map (fun (key, s) =>
      match sc.pressSensors.lookup key with
      | some cfg => (key, { s with baseline := cfg.baseline, value := cfg.baseline })
      | none => (key, s))
    { f with line := { press with sensors := sensors } :: rest }

/-- The loop body for one order. An order that is not open is not in the
list the loop runs over. -/
def shipOrder (sc : ScenarioConfig) (cycle : Int) (o : Demand.CustomerOrder)
    (wh : FinishedGoodsWarehouse) : Demand.CustomerOrder × FinishedGoodsWarehouse :=
  let qty := min sc.shipmentBatchSize o.remaining
  if !o.isOpen || o.remaining ≤ 0 || qty ≤ 0 then (o, wh)
  else
    -- `ship` returns the quantity that really left; the loop drops it
    let (_, wh) := wh.ship o.customer qty cycle
    let (_, o) := o.ship qty
    (o, wh)

/-- The shipping loop; one order's shipment leaves the other orders alone. -/
def shipOrders (sc : ScenarioConfig) (cycle : Int) :
    List Demand.CustomerOrder → FinishedGoodsWarehouse →
    List Demand.CustomerOrder × FinishedGoodsWarehouse
  | [], wh => ([], wh)
  | o :: rest, wh =>
    let (o, wh) := shipOrder sc cycle o wh
    let (rest, wh) := shipOrders sc cycle rest wh
    (o :: rest, wh)

namespace ManufacturingEnvironment

def new (sc : ScenarioConfig) (d : InitDraws) : ManufacturingEnvironment :=
  { scenario := sc
    factory := applyScenarioSensors sc (applyScenarioMaterials sc (Factory.new d))
    warehouse := .new sc.warehouseStock sc.warehouseSafetyStock
    demand := { orders := [] } }

def onGoodFinishedUnit (env : ManufacturingEnvironment) : ManufacturingEnvironment :=
  { env with
    warehouse := env.warehouse.receive 1
    factory := if 0 < env.factory.fgStock
      then { env.factory with fgStock := env.factory.fgStock - 1 } else env.factory }

/-- Whether `process_shipments` ships anything at this cycle. -/
def shipsAt (env : ManufacturingEnvironment) (cycle : Int) : Bool :=
  cycle % max 1 env.scenario.shipmentInterval = 0

def processShipments (env : ManufacturingEnvironment) (cycle : Int) : ManufacturingEnvironment :=
  if env.shipsAt cycle then
    let (orders, wh) := shipOrders env.scenario cycle env.demand.orders env.warehouse
    { env with demand := { env.demand with orders := orders }, warehouse := wh }
  else env

def addOrder (env : ManufacturingEnvironment) (o : Demand.CustomerOrder) :
    ManufacturingEnvironment :=
  { env with demand := env.demand.addOrder o }

end ManufacturingEnvironment

/-- The demand order the scenario runner makes of an initial order. -/
def InitialOrder.toDemand (io : InitialOrder) : Demand.CustomerOrder :=
  .new io.orderId io.customer io.quantity io.dueDate
    (if io.priority = "URGENT" then .urgent else .normal)

/-- The environment `run_scenario` starts from: the scenario's own orders are
added to the demand model one by one. -/
def scenarioEnv (sc : ScenarioConfig) (d : InitDraws) : ManufacturingEnvironment :=
  (sc.initialOrders.map (·.toDemand)).foldl (·.addOrder ·) (.new sc d)

end ManufacturingMas.ManufacturingEnv
