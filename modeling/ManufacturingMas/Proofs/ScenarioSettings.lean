import ManufacturingMas.Domain.ScenarioSensors
import ManufacturingMas.Lib.Traverse

/-! Which of a scenario's sensor settings reach the sensors of the line. -/

namespace ManufacturingMas.Proofs.ScenarioSettings
open Py Scenario ScenarioSensors

variable {raw : Dict} {sc : ScenarioConfig} {name : String} {s : SensorFields}

/-! ### What the loader reads -/

/-- A field of an entry of the dict, or its default. -/
def fieldOr (entry : Val) (field : String) (default : Val) : Val :=
  match entry with
  | .dict d => getD d field default
  | _ => default

def configured (entry : Val) (defaults : SensorConfig) : SensorConfig :=
  { baseline := fieldOr entry "baseline" defaults.baseline
    noiseStd := fieldOr entry "noise_std" defaults.noiseStd
    driftRate := fieldOr entry "drift_rate" defaults.driftRate }

theorem fromDict_ok {entry : Val} {defaults cfg : SensorConfig}
    (h : SensorConfig.fromDict entry defaults = .ok cfg) : cfg = configured entry defaults := by
  cases entry with
  | dict d =>
    cases h
    rfl
  | _ => cases h

theorem subscript_ok {x entry : Val} {key : String} (h : subscript x key = .ok entry) :
    ∃ d, x = .dict d ∧ Assoc.get d key = some entry := by
  unfold subscript at h
  split at h
  · rename_i d
    split at h
    · rename_i v hget
      cases h
      exact ⟨d,rfl,hget⟩
    · cases h
  · cases h

/-- An entry that is not in its group leaves the default. -/
theorem configured_missing {group : Val} {key : String} (defaults : SensorConfig)
    (h : ∀ d, group = .dict d → Assoc.get d key = none) :
    configured (getPath group [key]) defaults = defaults := by
  cases group with
  | dict d =>
    change configured (getD d key .none) defaults = defaults
    rw [getD_of_none (h d rfl)]
    rfl
  | _ => rfl

/-- A sensor that is read from a group that is there. -/
theorem sensorFrom_group_ok {group : Val} {p q : String × SensorConfig}
    (h : sensorFrom group p = .ok q) : q = (p.1, configured (getPath group [p.1]) p.2) := by
  unfold sensorFrom at h
  obtain ⟨found,hfound,hrest⟩ := Traverse.bind_ok_iff.mp h
  cases found with
  | false =>
    cases hrest
    rw [configured_missing]
    rintro d rfl
    simpa [hasItem] using hfound
  | true =>
    obtain ⟨entry,hentry,hrest⟩ := Traverse.bind_ok_iff.mp hrest
    obtain ⟨cfg,hcfg,hpair⟩ := Traverse.bind_ok_iff.mp hrest
    cases hpair
    obtain ⟨d,rfl,hget⟩ := subscript_ok hentry
    change (p.1, cfg) = (p.1, configured (getD d p.1 .none) p.2)
    rw [getD_of_some hget, fromDict_ok hcfg]

/-- A sensor of a group that the loader could read; a false group counts as empty. -/
theorem sensorFrom_ok {group : Val} {p q : String × SensorConfig}
    (h : sensorFrom (group.orElse (.dict [])) p = .ok q) :
    q = (p.1, configured (getPath group [p.1]) p.2) := by
  unfold Val.orElse at h
  by_cases htruthy : group.truthy
  · rw [if_pos htruthy] at h
    exact sensorFrom_group_ok h
  · rw [if_neg htruthy] at h
    cases h
    rw [configured_missing]
    rintro d rfl
    have hempty : d = [] := by simpa [Val.truthy] using htruthy
    rw [hempty]
    rfl

/-- The entry of a sensor in the scenario. -/
def entryOf (raw : Dict) (group name : String) : Val :=
  getPath (.dict raw) ["sensors", group, name]

theorem entryOf_eq (raw : Dict) (group name : String) :
    entryOf raw group name = getPath (getPath (.dict raw) ["sensors", group]) [name] := by
  unfold entryOf
  change getPath (getD raw "sensors" .none) [group, name] =
    getPath (getPath (getD raw "sensors" .none) [group]) [name]
  cases getD raw "sensors" .none <;> rfl

theorem sensorsFrom_ok {group : String} {defaults out : List (String × SensorConfig)}
    (h : sensorsFrom raw group defaults = .ok out) :
    Assoc.get out name =
      (Assoc.get defaults name).map (configured (entryOf raw group name)) := by
  have hall := Traverse.mapM_ok_iff.mp h
  clear h
  induction hall with
  | nil => rfl
  | @cons p q defaults out hsensor hrest ih =>
    have hq := sensorFrom_ok hsensor
    rw [← entryOf_eq] at hq
    obtain ⟨key,d⟩ := p
    subst hq
    rw [Assoc.get_cons, Assoc.get_cons, ih]
    by_cases hkey : key = name
    · subst hkey
      rw [if_pos rfl, if_pos rfl]
      rfl
    · rw [if_neg hkey, if_neg hkey]

/-- The scenario configures no sensor without a default. -/
theorem default_of_sensor {group : String} {defaults out : List (String × SensorConfig)}
    {cfg : SensorConfig} (h : sensorsFrom raw group defaults = .ok out)
    (hcfg : Assoc.get out name = some cfg) : ∃ d, Assoc.get defaults name = some d := by
  rw [sensorsFrom_ok h] at hcfg
  obtain ⟨d,hd,-⟩ := Option.map_eq_some_iff.mp hcfg
  exact ⟨d,hd⟩

/-- The two sensor tables of a loaded scenario. -/
theorem fromDict_sensors (h : ScenarioConfig.fromDict raw = .ok sc) :
    sensorsFrom raw "press" pressDefaults = .ok sc.pressSensors ∧
      sensorsFrom raw "weld" weldDefaults = .ok sc.weldSensors := by
  simp only [ScenarioConfig.fromDict, Traverse.bind_ok_iff] at h
  obtain ⟨press,hpress,weld,hweld,_,-,_,-,_,-,_,-,_,-,_,-,_,-,_,-,_,-,hsc⟩ := h
  cases hsc
  exact ⟨hpress,hweld⟩

/-! ### What the sensors get -/

/-- `x == y` between numbers, or one and the same value. -/
def Same (x y : Val) : Prop := x = y ∨ ∃ a, x.compared = .ok a ∧ y.compared = .ok a

theorem same_float_iff {p q : ℚ} : Same (float p) (float q) ↔ p = q := by
  constructor
  · rintro (heq | ⟨a,hp,hq⟩)
    · exact PyFloat.fin.inj (Val.float.inj heq)
    · exact PyFloat.fin.inj (Except.ok.inj (hp.trans hq.symm))
  · intro h
    exact .inl (congrArg float h)

def Configured (cfg : SensorConfig) (s : SensorFields) : Prop :=
  Same s.baseline cfg.baseline ∧ Same s.noiseStd cfg.noiseStd ∧ Same s.driftPerCycle cfg.driftRate

def sensorAt (stations : List Station) (i : Nat) (name : String) : Option SensorFields :=
  stations[i]?.bind fun station => Assoc.get station.sensors name

/-- The position of the welding station on the line. -/
def weldingStation : Nat := builtLine.findIdx fun station => station.stationType = "WELD"

/-- The settings of a scenario take effect on a line: on the sensors of the first station
and of the welding station that it names, and on no others. -/
structure SettingsTakeEffect (sc : ScenarioConfig) (line : List Station) : Prop where
  press : ∀ name cfg, Assoc.get sc.pressSensors name = some cfg →
    (sensorAt builtLine 0 name).isSome → ∃ s, sensorAt line 0 name = some s ∧ Configured cfg s
  weld : ∀ name cfg, Assoc.get sc.weldSensors name = some cfg →
    (sensorAt builtLine weldingStation name).isSome →
      ∃ s, sensorAt line weldingStation name = some s ∧ Configured cfg s
  others : ∀ i name, (i = 0 → Assoc.get sc.pressSensors name = none) →
    (i = weldingStation → Assoc.get sc.weldSensors name = none) →
      sensorAt line i name = sensorAt builtLine i name

/-- The value of a setting, or the number that the loader has for it. -/
def setting (raw : Dict) (group name field : String) (default : ℚ) : Val :=
  fieldOr (entryOf raw group name) field (float default)

/-- A scenario that wants, of what it cannot set, what is built: the noise and the drift of
the two press sensors, and all of the welding current. -/
structure WantsBuilt (raw : Dict) : Prop where
  vibrationNoise : Same (float (1/4)) (setting raw "press" "vibration" "noise_std" (3/20))
  vibrationDrift : Same (float (3/1000)) (setting raw "press" "vibration" "drift_rate" (1/10))
  oilNoise : Same (float (6/5)) (setting raw "press" "oil_temp" "noise_std" (1/2))
  oilDrift : Same (float 0) (setting raw "press" "oil_temp" "drift_rate" (3/100))
  currentBaseline : Same (float 8500) (setting raw "weld" "weld_current" "baseline" 280)
  currentNoise : Same (float 120) (setting raw "weld" "weld_current" "noise_std" 5)
  currentDrift : Same (float 0) (setting raw "weld" "weld_current" "drift_rate" 0)

theorem weldingStation_eq : weldingStation = 2 := by decide +kernel

/-- The sensors of the first station and of the welding station that a scenario can name. -/
theorem built_vibration : sensorAt builtLine 0 "vibration" =
    some ⟨float (21/10),float (1/4),float (3/1000),float (21/10)⟩ := by
  simp [sensorAt, builtLine, Machines.createProductionLine, Machines.createBlankingPress,
    Machines.WorkCenter.new, Station.ofWorkCenter, SensorFields.ofSensor,
    Machines.RealisticSensor.new]

theorem built_oil : sensorAt builtLine 0 "oil_temp" =
    some ⟨float 42,float (6/5),float 0,float 42⟩ := by
  simp [sensorAt, builtLine, Machines.createProductionLine, Machines.createBlankingPress,
    Machines.WorkCenter.new, Station.ofWorkCenter, SensorFields.ofSensor,
    Machines.RealisticSensor.new]

theorem built_current : sensorAt builtLine 2 "weld_current" =
    some ⟨float 8500,float 120,float 0,float 8500⟩ := by
  simp [sensorAt, builtLine, Machines.createProductionLine, Machines.createSpotWelder,
    Machines.WorkCenter.new, Station.ofWorkCenter, SensorFields.ofSensor,
    Machines.RealisticSensor.new]

theorem press_name {d : SensorConfig} (h : Assoc.get pressDefaults name = some d)
    (hbuilt : (sensorAt builtLine 0 name).isSome) : name = "vibration" ∨ name = "oil_temp" := by
  have hmem := Assoc.mem_of_get h
  simp only [pressDefaults, List.mem_cons, Prod.mk.injEq, List.not_mem_nil, or_false] at hmem
  rcases hmem with ⟨rfl,-⟩ | ⟨rfl,-⟩ | ⟨rfl,-⟩ | ⟨rfl,-⟩
  · exact .inl rfl
  · exact .inr rfl
  · exact absurd hbuilt (by decide +kernel)
  · exact absurd hbuilt (by decide +kernel)

theorem weld_name {d : SensorConfig} (h : Assoc.get weldDefaults name = some d)
    (hbuilt : (sensorAt builtLine 2 name).isSome) : name = "weld_current" := by
  have hmem := Assoc.mem_of_get h
  simp only [weldDefaults, List.mem_cons, Prod.mk.injEq, List.not_mem_nil, or_false] at hmem
  rcases hmem with ⟨rfl,-⟩ | ⟨rfl,-⟩ | ⟨rfl,-⟩ | ⟨rfl,-⟩
  · rfl
  · exact absurd hbuilt (by decide +kernel)
  · exact absurd hbuilt (by decide +kernel)
  · exact absurd hbuilt (by decide +kernel)

/-- A sensor of the first station with what the environment writes into it. -/
def written : Option SensorConfig → SensorFields → SensorFields
  | some cfg, s => { s with baseline := cfg.baseline, value := cfg.baseline }
  | none, s => s

theorem sensorAt_first (sc : ScenarioConfig) (name : String) :
    sensorAt (environmentLine sc) 0 name =
      (sensorAt builtLine 0 name).map (written (Assoc.get sc.pressSensors name)) := by
  refine Eq.trans ?_ (Assoc.get_map (fun key => written (Assoc.get sc.pressSensors key)) _ name)
  refine congrArg (Assoc.get · name) (List.map_congr_left fun p _ => congrArg (Prod.mk p.1) ?_)
  cases Assoc.get sc.pressSensors p.1 <;> rfl

/-- The environment writes nothing into the sensors of the other stations. -/
theorem sensorAt_rest (sc : ScenarioConfig) {i : Nat} (hi : i ≠ 0) (name : String) :
    sensorAt (environmentLine sc) i name = sensorAt builtLine i name := by
  obtain ⟨i,rfl⟩ := Nat.exists_eq_succ_of_ne_zero hi
  rfl

theorem others_built (sc : ScenarioConfig) (i : Nat) (name : String)
    (hname : i = 0 → Assoc.get sc.pressSensors name = none) :
    sensorAt (environmentLine sc) i name = sensorAt builtLine i name := by
  by_cases hi : i = 0
  · subst hi
    rw [sensorAt_first, hname rfl]
    cases sensorAt builtLine 0 name <;> rfl
  · exact sensorAt_rest sc hi name

/-- A press sensor of both is configured exactly if its noise and its drift are built so. -/
theorem press_configured_iff {cfg : SensorConfig} {built : SensorFields}
    (hcfg : Assoc.get sc.pressSensors name = some cfg)
    (hbuilt : sensorAt builtLine 0 name = some built) :
    (∃ s, sensorAt (environmentLine sc) 0 name = some s ∧ Configured cfg s) ↔
      Same built.noiseStd cfg.noiseStd ∧ Same built.driftPerCycle cfg.driftRate := by
  rw [sensorAt_first, hcfg, hbuilt, Option.map_some]
  constructor
  · rintro ⟨s,hs,-,hnoise,hdrift⟩
    cases hs
    exact ⟨hnoise,hdrift⟩
  · rintro ⟨hnoise,hdrift⟩
    exact ⟨_,rfl,.inl rfl,hnoise,hdrift⟩

theorem weld_configured_iff {cfg : SensorConfig} {built : SensorFields}
    (hbuilt : sensorAt builtLine 2 name = some built) :
    (∃ s, sensorAt (environmentLine sc) 2 name = some s ∧ Configured cfg s) ↔
      Configured cfg built := by
  rw [sensorAt_rest sc (by decide), hbuilt]
  constructor
  · rintro ⟨s,hs,hcfg⟩
    cases hs
    exact hcfg
  · intro hcfg
    exact ⟨_,rfl,hcfg⟩

/-- The settings of a loaded scenario take effect exactly if those that are not passed on
are what is built anyway. -/
theorem scenario_sensors_iff (h : ScenarioConfig.fromDict raw = .ok sc) :
    SettingsTakeEffect sc (environmentLine sc) ↔ WantsBuilt raw := by
  obtain ⟨hpress,hweld⟩ := fromDict_sensors h
  have hvibration : Assoc.get sc.pressSensors "vibration" = _ := sensorsFrom_ok hpress
  have hoil : Assoc.get sc.pressSensors "oil_temp" = _ := sensorsFrom_ok hpress
  have hcurrent : Assoc.get sc.weldSensors "weld_current" = _ := sensorsFrom_ok hweld
  constructor
  · intro heffect
    have hv := (press_configured_iff hvibration built_vibration).mp
      (heffect.press _ _ hvibration (by rw [built_vibration]; rfl))
    have ho := (press_configured_iff hoil built_oil).mp
      (heffect.press _ _ hoil (by rw [built_oil]; rfl))
    have hc := heffect.weld _ _ hcurrent (by rw [weldingStation_eq, built_current]; rfl)
    rw [weldingStation_eq] at hc
    obtain ⟨hbaseline,hnoise,hdrift⟩ := (weld_configured_iff built_current).mp hc
    exact ⟨hv.1,hv.2,ho.1,ho.2,hbaseline,hnoise,hdrift⟩
  · intro hwants
    constructor
    · intro name cfg hcfg hbuilt
      obtain ⟨d,hd⟩ := default_of_sensor hpress hcfg
      rcases press_name hd hbuilt with rfl | rfl
      · cases hcfg.symm.trans hvibration
        exact (press_configured_iff hvibration built_vibration).mpr
          ⟨hwants.vibrationNoise,hwants.vibrationDrift⟩
      · cases hcfg.symm.trans hoil
        exact (press_configured_iff hoil built_oil).mpr ⟨hwants.oilNoise,hwants.oilDrift⟩
    · intro name cfg hcfg hbuilt
      rw [weldingStation_eq] at hbuilt ⊢
      obtain ⟨d,hd⟩ := default_of_sensor hweld hcfg
      cases weld_name hd hbuilt
      cases hcfg.symm.trans hcurrent
      exact (weld_configured_iff built_current).mpr
        ⟨hwants.currentBaseline,hwants.currentNoise,hwants.currentDrift⟩
    · intro i name hname _
      exact others_built sc i name hname

/-- A scenario that writes down what is built, but for a baseline that it can set. -/
def builtScenario : Dict :=
  [("sensors", .dict [
    ("press", .dict [
      ("vibration", .dict [("baseline", float (5/2)), ("noise_std", float (1/4)),
        ("drift_rate", float (3/1000))]),
      ("oil_temp", .dict [("noise_std", float (6/5)), ("drift_rate", float 0)])]),
    ("weld", .dict [("weld_current", .dict [("baseline", .int 8500), ("noise_std", .int 120)])])])]

theorem builtScenario_settings : ∃ sc, ScenarioConfig.fromDict builtScenario = .ok sc ∧
    (SettingsTakeEffect sc (environmentLine sc) ↔ WantsBuilt builtScenario) :=
  ⟨_,rfl,scenario_sensors_iff rfl⟩

/-- A press that gets worse faster than the one that is built. -/
def worseningPress : Dict :=
  [("sensors", .dict [("press", .dict [("vibration", .dict [("baseline", float (5/2)),
    ("noise_std", float (3/10)), ("drift_rate", float (3/10))])])])]

/-- Its vibration keeps the drift of 0.003 per cycle that is built. -/
theorem drift_not_passed_on : ¬ ∀ raw sc, ScenarioConfig.fromDict raw = .ok sc →
    SettingsTakeEffect sc (environmentLine sc) := by
  intro h
  have hpress := (h worseningPress _ rfl).press "vibration" ⟨float (5/2),float (3/10),float (3/10)⟩
    rfl (by rw [built_vibration]; rfl)
  obtain ⟨s,hs,-,-,hdrift⟩ := hpress
  have hbuilt : s.driftPerCycle = float (3/1000) := by
    rw [sensorAt_first, built_vibration] at hs
    cases hs
    rfl
  rw [hbuilt, same_float_iff] at hdrift
  norm_num at hdrift

end ManufacturingMas.Proofs.ScenarioSettings
