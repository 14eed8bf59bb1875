import ManufacturingMas.Domain.FactorySnapshot
import ManufacturingMas.Py.Format
import ManufacturingMas.Runtime.FactoryEvents
import ManufacturingMas.Runtime.ScenarioRuntime

/-! What happens to the scenario runtime: its loop, and the events of its event loop. -/

namespace ManufacturingMas

/-- `get_merged_snapshot`, the block of the warehouse left out: the factory's own
snapshot with the stock of the warehouse. -/
def ManufacturingEnv.ManufacturingEnvironment.getMergedSnapshot (root : ℚ → ℚ)
    (env : ManufacturingEnvironment) : FactorySnapshot.Snapshot :=
  { FactorySnapshot.getSnapshot root env.factory with fgStock := env.warehouse.stock }

namespace ScenarioEvents
open Py Machines Environment ManufacturingEnv ScenarioRuntime FactoryEvents

/-- What the event loop draws for a new order; the counter is its own. -/
structure OrderDraws where
  counter : Nat
  customer : String
  quantity : RandInt 100 500
  urgent : Bool

/-- A new order goes to the factory and to the demand model, each under its own id. -/
def OrderDraws.factoryOrder (o : OrderDraws) : Environment.CustomerOrder :=
  { orderId := "PO-NEW-" ++ zeroPadded 3 o.counter, customer := o.customer
    part := "BRK-PAD-2026A", quantity := o.quantity.val, dueDate := "2026-04-15"
    priority := if o.urgent then .urgent else .normal, delivered := 0 }

def OrderDraws.demandOrder (o : OrderDraws) : Demand.CustomerOrder :=
  .new ("SIM-" ++ zeroPadded 3 o.counter) o.customer o.quantity.val "2026-04-15"
    (if o.urgent then .urgent else .normal)

/-- An iteration of the environment loop, one of the seven events of the event loop, or
the speed that a round of the agents sets. -/
inductive ScenarioEvent where
  | tick (d : TickDraws)
  | breakdown (station : Nat) (repairTimeSec : ℚ)
  | newOrder (o : OrderDraws)
  | toolWearSpike (station : Nat) (cycles : Int)
  | qualityDrift (station sensor : Nat) (drift : ℚ)
  | materialArrival (key : String) (qty : RandInt 300 800)
  | speedRecovery (station : Nat) (amount : RandInt 5 15)
  | ambientChange (change : ℚ)
  | setSpeed (pct : Int)

/-- An event that changes the factory alone, and is counted. -/
def counted (rt : AgentRuntime) (f : Factory) : AgentRuntime :=
  { rt with env := { rt.env with factory := f }, totalEvents := rt.totalEvents + 1 }

/-- An event at one station, where it is one that can happen there. -/
def atStation (rt : AgentRuntime) (i : Nat) (happens : WorkCenter → Bool)
    (change : WorkCenter → WorkCenter) : AgentRuntime :=
  let f := rt.env.factory
  if f.line[i]?.any happens then counted rt { f with line := f.line.modify i change } else rt

def addNewOrder (rt : AgentRuntime) (o : OrderDraws) : AgentRuntime :=
  let factory := { rt.env.factory with orders := rt.env.factory.orders ++ [o.factoryOrder] }
  { rt with
    env := { rt.env with factory := factory, demand := rt.env.demand.addOrder o.demandOrder }
    totalEvents := rt.totalEvents + 1 }

def ScenarioEvent.apply (rt : AgentRuntime) (e : ScenarioEvent) : AgentRuntime :=
  let f := rt.env.factory
  match e with
  | .tick d => rt.envLoop d
  | .breakdown i repairTimeSec =>
    atStation rt i (·.state = .running) (·.triggerBreakdown repairTimeSec)
  | .newOrder o => addNewOrder rt o
  | .toolWearSpike i cycles =>
    atStation rt i (fun _ => true) (StationEvent.apply (.toolWearSpike cycles))
  | .qualityDrift i sensor drift =>
    atStation rt i (fun _ => true) (StationEvent.apply (.qualityDrift sensor drift))
  | .materialArrival key qty =>
    counted rt { f with materials := receiveMaterial key qty.val.toNat f.materials }
  | .speedRecovery i amount =>
    atStation rt i (·.speedPct < 100) fun s => s.setSpeed (min 100 (s.speedPct + amount.val))
  | .ambientChange change =>
    counted rt { f with ambientTemp := max 15 (min 38 (f.ambientTemp + change)) }
  | .setSpeed pct =>
    { rt with env := { rt.env with factory := { f with line := f.line.map (·.setSpeed pct) } } }

end ScenarioEvents
end ManufacturingMas
