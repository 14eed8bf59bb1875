import ManufacturingMas.Messaging.MqttBridge
import ManufacturingMas.Runtime.ScenarioEvents

/-! The environment loops of the two runtimes, with what each tick publishes. -/

namespace ManufacturingMas.EnvLoops
open Py Machines Environment ManufacturingEnv ScenarioRuntime FactorySnapshot MqttBridge

/-- The part of the factory's own runtime that its environment loop owns. Log texts, the
snapshot cache and the events pushed to monitors are left out. -/
structure FactoryRuntime where
  factory : Factory
  totalEvents : Int

namespace FactoryRuntime

/-- `_apply_dynamics`, the same as the scenario runtime's. -/
def applyDynamics (rt : FactoryRuntime) (d : DynamicsDraws) : FactoryRuntime :=
  let f := rt.factory
  let line := f.line.mapIdx fun i s =>
    AgentRuntime.repairStation d i (AgentRuntime.recoverSensors d i s)
  let materials := f.materials.mapIdx fun i (key, m) => (key, AgentRuntime.restock d i m)
  let arrivals := (f.materials.mapIdx fun i p => AgentRuntime.restocks d i p.2).count true
  { rt with
    factory := { f with line := line, materials := materials }
    totalEvents := rt.totalEvents + arrivals }

/-- One iteration of `_env_loop` up to its publication. -/
def envLoop (root : ℚ → ℚ) (rt : FactoryRuntime) (d : TickDraws) : FactoryRuntime × Snapshot :=
  let factory := (rt.factory.runCycle d.cycle).1
  ({ rt with factory := factory }.applyDynamics d.dynamics, getSnapshot root factory)

end FactoryRuntime

/-- The environment of the scenario runtime when its loop takes the snapshot: after
production and shipping, before the dynamics. -/
def shippedEnv (rt : AgentRuntime) (d : TickDraws) : ManufacturingEnvironment :=
  let (factory, result) := rt.env.factory.runCycle d.cycle
  let env := { rt.env with factory := factory }
  let env := if result.product.status = .good then env.onGoodFinishedUnit else env
  let env := env.processShipments env.factory.cycle
  { env with warehouse := env.warehouse.recordSnapshot }

/-- The loop goes on from the environment of its snapshot. -/
theorem envLoop_shippedEnv (rt : AgentRuntime) (d : TickDraws) :
    rt.envLoop d = AgentRuntime.applyDynamics
      { rt with
        env := shippedEnv rt d
        ssBreachCycles := if (shippedEnv rt d).warehouse.ssBreach then rt.ssBreachCycles + 1
          else rt.ssBreachCycles
        totalCycles := (shippedEnv rt d).factory.cycle } d.dynamics := rfl

inductive Runtime where
  | factory (rt : FactoryRuntime)
  | agent (rt : AgentRuntime)

/-- One iteration of the loop, and the snapshot it takes. -/
def Runtime.tick (root : ℚ → ℚ) (d : TickDraws) : Runtime → Runtime × Snapshot
  | .factory rt => (.factory (rt.envLoop root d).1, (rt.envLoop root d).2)
  | .agent rt => (.agent (rt.envLoop d), (shippedEnv rt d).getMergedSnapshot root)

/-! ### The publication of a tick -/

def stationValues (sd : StationData) : Dict :=
  sd.sensors.map fun p => (p.1, .float (.fin p.2.value))

/-- The cycle and the sensor values of the stations. -/
def sensorPayload (snap : Snapshot) : Dict :=
  [("cycle", .int snap.cycle),
    ("stations", .dict (snap.stations.map fun p => (p.1, .dict (stationValues p.2))))]

variable {σ : Type}

/-- The last step of both loops. -/
def publishSensors (depth : Nat) (snap : Snapshot) (w : World σ) : Ended (World σ) :=
  (call depth "publish_dict" w "factory/sensors" (sensorPayload snap)).caught

/-- The iterations of the loop, each with its publication. -/
def runLoop (root : ℚ → ℚ) (depth : Nat) :
    List TickDraws → Runtime → World σ → Ended (Runtime × World σ)
  | [], rt, w => .returned (rt, w)
  | d :: ds, rt, w =>
    let (rt, snap) := rt.tick root d
    match publishSensors depth snap w with
    | .returned w => runLoop root depth ds rt w
    | .raised w => .raised (rt, w)
    | .blocked w => .blocked (rt, w)
    | .tooDeep => .tooDeep

/-- The snapshots of a run of the loop, one for each tick. -/
def snapshots (root : ℚ → ℚ) : List TickDraws → Runtime → List Snapshot
  | [], _ => []
  | d :: ds, rt => (rt.tick root d).2 :: snapshots root ds (rt.tick root d).1

end ManufacturingMas.EnvLoops
