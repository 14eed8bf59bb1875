import ManufacturingMas.Domain.ManufacturingEnv

namespace ManufacturingMas.ScenarioRuntime
open Py Machines Environment ManufacturingEnv

/-- The draws of `_apply_dynamics`, by station, sensor and material position. -/
structure DynamicsDraws where
  recovers : Nat → Nat → Unit01
  amount : Nat → Nat → Uniform (1/100) (1/20)
  repair : Nat → Unit01
  restock : Nat → Unit01
  quantity : Nat → RandInt 200 600

structure TickDraws where
  cycle : CycleDraws
  dynamics : DynamicsDraws

/-- The part of the runtime its environment loop owns. Log texts, the snapshot
cache and the MQTT publication are left to the readers of the environment. -/
structure AgentRuntime where
  env : ManufacturingEnvironment
  totalCycles : Int
  totalEvents : Int
  ssBreachCycles : Int
deriving DecidableEq, Repr

namespace AgentRuntime

def new (env : ManufacturingEnvironment) : AgentRuntime :=
  { env := env, totalCycles := 0, totalEvents := 0, ssBreachCycles := 0 }

def recoverSensors (d : DynamicsDraws) (i : Nat) (station : WorkCenter) : WorkCenter :=
  { station with sensors := station.sensors.mapIdx (fun j (key, s) =>
      (key, if (d.recovers i j).val < 1/20 then s.recover (d.amount i j).val else s)) }

def repairStation (d : DynamicsDraws) (i : Nat) (station : WorkCenter) : WorkCenter :=
  if station.state = .breakdown ∧ (d.repair i).val < 1/10 then station.completeRepair
  else station

def restocks (d : DynamicsDraws) (i : Nat) (m : Material) : Bool :=
  m.stock < m.safetyStock && (d.restock i).val < 3/20

def restock (d : DynamicsDraws) (i : Nat) (m : Material) : Material :=
  if restocks d i m then { m with stock := m.stock + (d.quantity i).val } else m

def applyDynamics (rt : AgentRuntime) (d : DynamicsDraws) : AgentRuntime :=
  let f := rt.env.factory
  let line := f.line.mapIdx (fun i s => repairStation d i (recoverSensors d i s))
  let materials := f.materials.mapIdx (fun i (key, m) => (key, restock d i m))
  let arrivals := (f.materials.mapIdx (fun i p => restocks d i p.2)).count true
  { rt with
    env := { rt.env with factory := { f with line := line, materials := materials } }
    totalEvents := rt.totalEvents + arrivals }

/-- One iteration of `_env_loop`. -/
def envLoop (rt : AgentRuntime) (d : TickDraws) : AgentRuntime :=
  let (factory, result) := rt.env.factory.runCycle d.cycle
  let env := { rt.env with factory := factory }
  let env := if result.product.status = .good then env.onGoodFinishedUnit else env
  let env := env.processShipments env.factory.cycle
  let env := { env with warehouse := env.warehouse.recordSnapshot }
  let rt := { rt with
    env := env
    ssBreachCycles := if env.warehouse.ssBreach then rt.ssBreachCycles + 1
      else rt.ssBreachCycles
    totalCycles := env.factory.cycle }
  rt.applyDynamics d.dynamics

/-- The runtime that `run_scenario` starts, for the safety stock that it has the warehouse
calculate. -/
def started (sc : ScenarioConfig) (d : InitDraws) (safetyStock : Int) : AgentRuntime :=
  let env := scenarioEnv sc d
  .new { env with warehouse := { env.warehouse with safetyStock := safetyStock } }

/-- The figures of `get_results` that the environment loop keeps. -/
structure Results where
  totalCycles : Int
  totalEvents : Int
  finalStock : Int
  safetyStock : Int
  serviceLevel : ℚ
  totalShipped : Int
  totalRequested : Int
  ssBreachCount : Int
deriving DecidableEq, Repr

def getResults (rt : AgentRuntime) : Results :=
  let wh := rt.env.warehouse
  { totalCycles := rt.totalCycles, totalEvents := rt.totalEvents, finalStock := wh.stock
    safetyStock := wh.safetyStock, serviceLevel := wh.serviceLevel
    totalShipped := wh.totalShipped, totalRequested := wh.totalRequested
    ssBreachCount := rt.ssBreachCycles }

end AgentRuntime
end ManufacturingMas.ScenarioRuntime
