import ManufacturingMas.Domain.ManufacturingEnv
import ManufacturingMas.Scenario.Loader

/-! The sensors of a new environment, under a scenario of which nothing is known: what it
says about a sensor is written into the sensor as it is. -/

namespace ManufacturingMas.ScenarioSensors
open Py Machines Scenario

/-- The fields of a sensor that a scenario has settings for, and its current value. -/
structure SensorFields where
  baseline : Val
  noiseStd : Val
  driftPerCycle : Val
  value : Val

def SensorFields.ofSensor (s : RealisticSensor) : SensorFields :=
  { baseline := float s.baseline, noiseStd := float s.noiseStd
    driftPerCycle := float s.driftPerCycle, value := float s.value }

structure Station where
  stationType : String
  sensors : List (String × SensorFields)

def Station.ofWorkCenter (wc : WorkCenter) : Station :=
  { stationType := wc.stationType, sensors := wc.sensors.map fun p => (p.1, .ofSensor p.2) }

/-- The line as `Factory()` builds it. -/
def builtLine : List Station := createProductionLine.map .ofWorkCenter

/-- `_apply_scenario_sensors`, which knows the first station only. -/
def applyScenarioSensors (pressSensors : List (String × SensorConfig)) :
    List Station → List Station
  | [] => []
  | press :: rest =>
    let sensors := press.sensors.map fun p => (p.1, match Assoc.get pressSensors p.1 with
      | some cfg => { p.2 with baseline := cfg.baseline, value := cfg.baseline }
      | none => p.2)
    { press with sensors := sensors } :: rest

/-- The sensors of `ManufacturingEnvironment(scenario)`. -/
def environmentLine (sc : ScenarioConfig) : List Station :=
  applyScenarioSensors sc.pressSensors builtLine

/-! ### Scenarios of numbers -/

/-- The settings of a scenario of numbers. -/
def ofNumbers (cfg : ManufacturingEnv.SensorConfig) : SensorConfig :=
  { baseline := float cfg.baseline, noiseStd := float cfg.noiseStd
    driftRate := float cfg.driftRate }

theorem get_ofNumbers (d : List (String × ManufacturingEnv.SensorConfig)) (key : String) :
    Assoc.get (d.map fun p => (p.1, ofNumbers p.2)) key = (d.lookup key).map ofNumbers := by
  induction d with
  | nil => rfl
  | cons p d ih =>
    obtain ⟨k,cfg⟩ := p
    rw [List.map_cons, Assoc.get_cons, List.lookup_cons]
    by_cases hkey : key = k
    · subst hkey
      simp
    · rw [if_neg (fun h => hkey h.symm), ih, beq_false_of_ne hkey]

/-- The environment of a scenario of numbers has the same sensors. -/
theorem environment_line (sc : ManufacturingEnv.ScenarioConfig) (d : Environment.InitDraws) :
    (ManufacturingEnv.ManufacturingEnvironment.new sc d).factory.line.map .ofWorkCenter =
      applyScenarioSensors (sc.pressSensors.map fun p => (p.1, ofNumbers p.2)) builtLine := by
  change Station.ofWorkCenter _ :: builtLine.tail = _ :: builtLine.tail
  refine congrArg (· :: builtLine.tail) ?_
  unfold Station.ofWorkCenter
  dsimp only
  rw [List.map_map, List.map_map]
  refine congrArg (Station.mk _) (List.map_congr_left fun p _ => ?_)
  obtain ⟨key,s⟩ := p
  simp only [Function.comp_apply, get_ofNumbers]
  cases sc.pressSensors.lookup key <;> rfl

end ManufacturingMas.ScenarioSensors
