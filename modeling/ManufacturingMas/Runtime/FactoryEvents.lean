import ManufacturingMas.Domain.Environment

/-! What happens to a factory between and besides its cycles: the event loop, the
dynamics of every tick, and the speed that a negotiation sets. -/

namespace ManufacturingMas.FactoryEvents
open Py Machines Environment

/-- What is done to a station from outside. `enterState` stands for whatever sets
a state that none of the methods sets. -/
inductive StationEvent where
  | triggerBreakdown (repairTimeSec : ℚ)
  | completeRepair
  | startSetup (durationSec : ℚ)
  | completeSetup
  | setSpeed (pct : Int)
  | enterState (state : MachineState)
  | toolWearSpike (cycles : Int)
  | qualityDrift (sensor : Nat) (magnitude : ℚ)
  | recoverSensor (sensor : Nat) (amount : ℚ)
deriving DecidableEq, Repr

def StationEvent.apply (e : StationEvent) (wc : WorkCenter) : WorkCenter :=
  match e with
  | .triggerBreakdown repairTimeSec => wc.triggerBreakdown repairTimeSec
  | .completeRepair => wc.completeRepair
  | .startSetup durationSec => wc.startSetup durationSec
  | .completeSetup => wc.completeSetup
  | .setSpeed pct => wc.setSpeed pct
  | .enterState state => { wc with state := state }
  | .toolWearSpike cycles =>
    { wc with tool := { wc.tool with currentLife := wc.tool.currentLife + cycles } }
  | .qualityDrift sensor magnitude =>
    { wc with sensors := wc.sensors.modify sensor fun p => (p.1, p.2.injectShock magnitude) }
  | .recoverSensor sensor amount =>
    { wc with sensors := wc.sensors.modify sensor fun p => (p.1, p.2.recover amount) }

/-- An order as it arrives: for at least one unit, nothing delivered. -/
structure NewOrder where
  orderId : String
  customer : String
  part : String
  quantity : Int
  dueDate : String
  priority : OrderPriority
  positive : 0 < quantity

def NewOrder.toOrder (o : NewOrder) : CustomerOrder :=
  { orderId := o.orderId, customer := o.customer, part := o.part, quantity := o.quantity,
    dueDate := o.dueDate, priority := o.priority, delivered := 0 }

inductive FactoryEvent where
  | runCycle (d : CycleDraws)
  | station (i : Nat) (e : StationEvent)
  | newOrder (o : NewOrder)
  | materialArrival (key : String) (qty : Nat)
  | ambientChange (temp : ℚ)

/-- `mat.stock += qty` for the material of one key. -/
def receiveMaterial (key : String) (qty : Nat) (materials : List (String × Material)) :
    List (String × Material) :=
  materials.map fun p => if p.1 = key then (p.1, { p.2 with stock := p.2.stock + qty }) else p

def FactoryEvent.apply (f : Factory) (e : FactoryEvent) : Factory :=
  match e with
  | .runCycle d => (f.runCycle d).1
  | .station i e => { f with line := f.line.modify i e.apply }
  | .newOrder o => { f with orders := f.orders ++ [o.toOrder] }
  | .materialArrival key qty => { f with materials := receiveMaterial key qty f.materials }
  | .ambientChange temp => { f with ambientTemp := max 15 (min 38 temp) }

/-- The status the product of a cycle ends with; other events have no product. -/
def endStatus (f : Factory) : FactoryEvent → List ProductStatus
  | .runCycle d => [(f.runCycle d).2.product.status]
  | _ => []

/-- The calls that make up the history of a single work center. -/
inductive StationOp where
  | executeCycle (shiftFactor ambientTemp : ℚ) (d : StationDraws)
  | recordQuality (isGood : Bool)
  | event (e : StationEvent)

def StationOp.apply (wc : WorkCenter) (op : StationOp) : WorkCenter :=
  match op with
  | .executeCycle shiftFactor ambientTemp d => (wc.executeCycle shiftFactor ambientTemp d).1
  | .recordQuality isGood => wc.recordQuality isGood
  | .event e => e.apply wc

end ManufacturingMas.FactoryEvents
