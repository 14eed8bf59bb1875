import ManufacturingMas.Py.Value

/-! The scenario loader: the settings of a scenario dict, with a default for each that it
leaves out. Whatever the dict holds under a setting is taken over as it is. -/

namespace ManufacturingMas.Scenario
open Py

/-- `_get` with its default of None. -/
def getPath : Val → List String → Val
  | v, [] => v
  | .dict d, key :: keys => getPath (getD d key .none) keys
  | _, _ :: _ => .none

/-- The dict on which `x.get` is called; no other value has that method. -/
def methods : Val → Except PyErr Dict
  | .dict d => .ok d
  | _ => .error .attributeError

/-- `key in x`. -/
def hasItem (key : String) : Val → Except PyErr Bool
  | .dict d => .ok (Assoc.get d key).isSome
  | .list xs => .ok (xs.any (Val.isStr key))
  | .str s => .ok (contains key.toList s.toList)
  | _ => .error .typeError

/-- `x[key]`. -/
def subscript (x : Val) (key : String) : Except PyErr Val :=
  match x with
  | .dict d =>
    match Assoc.get d key with
    | some v => .ok v
    | none => .error (.other "KeyError")
  | _ => .error .typeError

/-- A float literal of the source. -/
def float (q : ℚ) : Val := .float (.fin q)

structure SensorConfig where
  baseline : Val
  noiseStd : Val
  driftRate : Val

def SensorConfig.fromDict (d : Val) (defaults : SensorConfig) : Except PyErr SensorConfig := do
  let d ← methods d
  pure { baseline := getD d "baseline" defaults.baseline
         noiseStd := getD d "noise_std" defaults.noiseStd
         driftRate := getD d "drift_rate" defaults.driftRate }

structure EventProbabilities where
  newOrder : Val
  vibrationSpike : Val
  equipmentStabilize : Val
  materialArrival : Val
  agvChange : Val
  speedRecovery : Val
  driftRecoveryProb : Val
  driftSpikeProb : Val
  urgentOrderRatio : Val
  spikeMagnitude : List Val

/-- `tuple(x)` of a list, and the default of every other value. -/
def tupleOr (x : Val) (default : List Val) : List Val :=
  match x with
  | .list xs => xs
  | _ => default

def EventProbabilities.fromDict (d : Val) : Except PyErr EventProbabilities := do
  let d ← methods (d.orElse (.dict []))
  pure { newOrder := getD d "new_order" (float (1/5))
         vibrationSpike := getD d "vibration_spike" (float (3/20))
         equipmentStabilize := getD d "equipment_stabilize" (float (3/20))
         materialArrival := getD d "material_arrival" (float (1/10))
         agvChange := getD d "agv_change" (float (1/10))
         speedRecovery := getD d "speed_recovery" (float (1/10))
         driftRecoveryProb := getD d "drift_recovery_prob" (float (1/10))
         driftSpikeProb := getD d "drift_spike_prob" (float (1/20))
         urgentOrderRatio := getD d "urgent_order_ratio" (float (2/5))
         spikeMagnitude := tupleOr
          (getD d "spike_magnitude" (.list [float (3/10), float (6/5)])) [float (3/10), float (6/5)] }

structure InitialOrder where
  orderId : Val
  customer : Val
  quantity : Val
  dueDate : Val
  priority : Val

/-- An order of the dict; three of its entries have no default. -/
def InitialOrder.fromDict (o : Val) : Except PyErr InitialOrder := do
  let orderId ← subscript o "order_id"
  let customer ← subscript o "customer"
  let quantity ← subscript o "quantity"
  let o ← methods o
  pure { orderId := orderId, customer := customer, quantity := quantity
         dueDate := getD o "due_date" (.str "2026-04-05")
         priority := getD o "priority" (.str "NORMAL") }

def defaultOrders : List InitialOrder :=
  [⟨.str "CO-001",.str "현대자동차",.int 500,.str "2026-04-04",.str "NORMAL"⟩,
   ⟨.str "CO-002",.str "기아자동차",.int 300,.str "2026-04-05",.str "NORMAL"⟩]

structure ScenarioConfig where
  name : Val
  description : Val
  pressSensors : List (String × SensorConfig)
  weldSensors : List (String × SensorConfig)
  warehouseStock : Val
  warehouseSafetyStock : Val
  serviceLevelTarget : Val
  demandStd : Val
  leadtimeMean : Val
  leadtimeStd : Val
  avgDemandPerCycle : Val
  materialSteelStock : Val
  materialWeldWire : Val
  materialShieldGas : Val
  materialRestockThreshold : Val
  initialOrders : List InitialOrder
  orderQuantities : Val
  shipmentInterval : Val
  shipmentBatchSize : Val
  taktSec : Val
  agentIntervals : List (String × Val)
  eventIntervalRange : List Val
  events : EventProbabilities
  maxCycles : Val
  summaryInterval : Val

def pressDefaults : List (String × SensorConfig) :=
  [("vibration", ⟨float (9/5),float (3/20),float (1/10)⟩),
   ("oil_temp", ⟨float 42,float (1/2),float (3/100)⟩),
   ("hydraulic_pressure", ⟨float 180,float 2,float (-2/25)⟩),
   ("motor_current", ⟨float 45,float 1,float (1/50)⟩)]

def weldDefaults : List (String × SensorConfig) :=
  [("weld_current", ⟨float 280,float 5,float 0⟩),
   ("weld_voltage", ⟨float 28,float (3/10),float 0⟩),
   ("wire_feed", ⟨float 12,float (1/5),float 0⟩),
   ("gas_flow", ⟨float 18,float (1/2),float 0⟩)]

/-- A sensor as its group of the dict has it, or its default. -/
def sensorFrom (raw : Val) (sensor : String × SensorConfig) :
    Except PyErr (String × SensorConfig) := do
  if ← hasItem sensor.1 raw then
    let entry ← subscript raw sensor.1
    let cfg ← SensorConfig.fromDict entry sensor.2
    pure (sensor.1, cfg)
  else pure sensor

/-- The sensors of one group, by the table of their defaults; the dict adds none. -/
def sensorsFrom (raw : Dict) (group : String) (defaults : List (String × SensorConfig)) :
    Except PyErr (List (String × SensorConfig)) :=
  let sensors := (getPath (.dict raw) ["sensors", group]).orElse (.dict [])
  defaults.mapM (sensorFrom sensors)

/-- `d.get(key, {}) or {}`, of which entries are then read. -/
def sectionOf (d : Dict) (key : String) : Except PyErr Dict :=
  methods ((getD d key (.dict [])).orElse (.dict []))

def agentDefaults : List (String × Val) :=
  [("EA", float 2), ("QA", float 3), ("SA", float 5), ("DA", float 4), ("IA", float 3),
    ("PA", float 2)]

/-- `_from_dict`. -/
def ScenarioConfig.fromDict (raw : Dict) : Except PyErr ScenarioConfig := do
  let pressSensors ← sensorsFrom raw "press" pressDefaults
  let weldSensors ← sensorsFrom raw "weld" weldDefaults
  let wh ← sectionOf raw "warehouse"
  let mat ← sectionOf raw "materials"
  let dem ← sectionOf raw "demand"
  let ordersRaw ← (getD dem "initial_orders" (.list [])).toList
  let orders ← ordersRaw.mapM InitialOrder.fromDict
  let rt ← sectionOf raw "runtime"
  let ai ← sectionOf rt "agent_intervals"
  let events ← EventProbabilities.fromDict (getD raw "events" (.dict []))
  let ex ← sectionOf raw "execution"
  pure
    { name := getD raw "name" (.str "default")
      description := getD raw "description" (.str "")
      pressSensors := pressSensors
      weldSensors := weldSensors
      warehouseStock := getD wh "stock" (.int 120)
      warehouseSafetyStock := getD wh "safety_stock" (.int 45)
      serviceLevelTarget := getD wh "service_level_target" (float (19/20))
      demandStd := getD wh "demand_std" (float 8)
      leadtimeMean := getD wh "leadtime_mean" (float (9/2))
      leadtimeStd := getD wh "leadtime_std" (float 2)
      avgDemandPerCycle := getD wh "avg_demand_per_cycle" (float 4)
      materialSteelStock := getD mat "steel_stock" (.int 850)
      materialWeldWire := getD mat "weld_wire" (float (25/2))
      materialShieldGas := getD mat "shield_gas" (float 95)
      materialRestockThreshold := getD mat "restock_threshold" (.int 50)
      initialOrders := if orders.isEmpty then defaultOrders else orders
      orderQuantities := getD dem "order_quantities"
        (.list [.int 30, .int 50, .int 80, .int 100, .int 150])
      shipmentInterval := getD dem "shipment_interval" (.int 2)
      shipmentBatchSize := getD dem "shipment_batch_size" (.int 3)
      taktSec := getD rt "takt_sec" (float (5/2))
      agentIntervals := agentDefaults.map fun p => (p.1, getD ai p.1 p.2)
      eventIntervalRange := tupleOr
        (getD rt "event_interval_range" (.list [.int 10, .int 30])) [.int 10, .int 30]
      events := events
      maxCycles := getD ex "max_cycles" (.int 0)
      summaryInterval := getD rt "summary_interval" (.int 20) }

end ManufacturingMas.Scenario
