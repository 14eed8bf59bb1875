import ManufacturingMas.Agents.QualityAgent
import ManufacturingMas.Lib.Runs
import ManufacturingMas.Proofs.FactoryCycle

/-! What the quality agent makes of the line whose snapshots it is given. -/

namespace ManufacturingMas.Proofs.QualityWatch
open Py Machines Environment Agents FactorySnapshot FactoryCycle

/-- The factory, the agent, and what the agent made of the last snapshot. -/
structure Watch where
  factory : Factory
  agent : QualityAgent
  seen : Option QualityObservation

def Watch.start (d : InitDraws) : Watch := { factory := .new d, agent := .new, seen := none }

/-- A cycle of the factory, whose snapshot the agent is given. -/
def Watch.cycle (root : ℚ → ℚ) (w : Watch) (d : CycleDraws) : Watch :=
  let factory := (w.factory.runCycle d).1
  match QualityAgent.sense root (getSnapshot root factory) w.agent with
  | .ok obs agent => { factory := factory, agent := agent, seen := some obs }
  | .error _ agent => { factory := factory, agent := agent, seen := none }

/-! ### The keys of the sensors -/

def sensorKeys (s : WorkCenter) : String × List String := (s.stationId, s.sensors.map Prod.fst)

theorem runCycle_keys (f : Factory) (d : CycleDraws) :
    (f.runCycle d).1.line.map sensorKeys = f.line.map sensorKeys :=
  runCycle_nameplates f d fun plate => (plate.stationId,plate.sensorNames)

/-- No reading under these keys has limits. -/
def Unlimited (keys : String × List String) : Prop :=
  ∀ name ∈ keys.2, Assoc.get QualityAgent.specLimits s!"{keys.1}.{name}" = none

/-- The stations name their sensors in one language, and the table of limits in another. -/
theorem production_unlimited : ∀ keys ∈ createProductionLine.map sensorKeys, Unlimited keys := by
  unfold Unlimited
  decide +kernel

/-! ### What readings without limits lead to -/

/-- The agent's capabilities are the given ones, and none is observed. -/
def Blind (histories : List (String × List ℚ)) (r : QualityAgent × QualityObservation) : Prop :=
  r.1.cpkHistory = histories ∧ r.2.cpkStatus = []

variable {root : ℚ → ℚ} {histories : List (String × List ℚ)}

theorem senseSensor_blind {sid : String} {r : QualityAgent × QualityObservation}
    {sensor : String × SensorData} (h : Blind histories r)
    (hlimits : Assoc.get QualityAgent.specLimits s!"{sid}.{sensor.1}" = none) :
    Blind histories (QualityAgent.senseSensor root sid r sensor) := by
  unfold QualityAgent.senseSensor
  dsimp only
  rw [hlimits]
  exact h

theorem senseStation_blind {r : QualityAgent × QualityObservation} {station : String × StationData}
    (h : Blind histories r) (hlimits : Unlimited (station.1, station.2.sensors.map Prod.fst)) :
    Blind histories (QualityAgent.senseStation root r station) := by
  unfold QualityAgent.senseStation
  dsimp only
  have hsensors : Blind histories (station.2.sensors.foldl
      (QualityAgent.senseSensor root station.1) (r.1, { r.2 with
        yieldByStation := Assoc.set r.2.yieldByStation station.1
          (roundTo 1 (station.2.oee.quality * 100)) })) :=
    List.foldlRecOn _ _ h fun _ hr sensor hmem =>
      senseSensor_blind hr (hlimits sensor.1 (List.mem_map_of_mem hmem))
  split
  · exact hsensors
  · exact hsensors

theorem collect_blind (qa : QualityAgent) {snapshot : Snapshot}
    (h : ∀ p ∈ snapshot.stations, Unlimited (p.1, p.2.sensors.map Prod.fst)) :
    Blind qa.cpkHistory (QualityAgent.collect root qa snapshot) :=
  List.foldlRecOn _ _ (motive := Blind qa.cpkHistory) ⟨rfl,rfl⟩ fun _ hr p hmem =>
    senseStation_blind hr (h p hmem)

/-- Two capabilities would stop `sense`; it returns because there is none. -/
theorem sense_blind (qa : QualityAgent) {snapshot : Snapshot}
    (h : ∀ p ∈ snapshot.stations, Unlimited (p.1, p.2.sensors.map Prod.fst)) :
    ∃ obs qa', QualityAgent.sense root snapshot qa = .ok obs qa' ∧
      Blind qa.cpkHistory (qa', obs) := by
  have hblind : Blind qa.cpkHistory (QualityAgent.collect root qa snapshot) := collect_blind qa h
  have hsummary : QualityAgent.summarizeSpc (QualityAgent.collect root qa snapshot).2.cpkStatus =
      .ok ⟨"QA-SPC",0,[],none⟩ := by
    rw [hblind.2]
    rfl
  exact ⟨_,_,QualityAgent.sense_ok_iff.mpr ⟨_,hsummary,rfl,rfl⟩,hblind⟩

/-! ### Any number of cycles -/

/-- The line has the sensors it was built with, and the agent has not met a limit. -/
structure Unaware (w : Watch) : Prop where
  keys : w.factory.line.map sensorKeys = createProductionLine.map sensorKeys
  histories : w.agent.cpkHistory = []
  seen : ∀ obs, w.seen = some obs → obs.cpkStatus = []

theorem getSnapshot_unlimited {f : Factory}
    (h : f.line.map sensorKeys = createProductionLine.map sensorKeys) :
    ∀ p ∈ (getSnapshot root f).stations, Unlimited (p.1, p.2.sensors.map Prod.fst) := by
  intro p hmem
  obtain ⟨s,hs,rfl⟩ := List.mem_map.mp hmem
  have hkeys : (s.stationId, (stationData root s).sensors.map Prod.fst) = sensorKeys s := by
    simp [sensorKeys, stationData]
  rw [hkeys]
  exact production_unlimited _ (h ▸ List.mem_map_of_mem hs)

theorem cycle_unaware (w : Watch) (d : CycleDraws) (h : Unaware w) :
    Unaware (w.cycle root d) := by
  have hkeys : (w.factory.runCycle d).1.line.map sensorKeys =
      createProductionLine.map sensorKeys := (runCycle_keys w.factory d).trans h.keys
  obtain ⟨obs,qa,hsense,hhist,hstatus⟩ := sense_blind w.agent (getSnapshot_unlimited hkeys)
  have hcycle : w.cycle root d = ⟨(w.factory.runCycle d).1,qa,some obs⟩ := by
    unfold Watch.cycle
    dsimp only
    rw [hsense]
  rw [hcycle]
  refine ⟨hkeys,hhist.trans h.histories,?_⟩
  intro _ hseen
  cases hseen
  exact hstatus

def channels : List String := QualityAgent.specLimits.map Prod.fst

/-- The last observation has an entry for every channel. -/
def SeesChannels (w : Watch) : Prop :=
  ∃ obs, w.seen = some obs ∧ ∀ key ∈ channels, ∃ info, Assoc.get obs.cpkStatus key = some info

/-- The `worst_cpk` of the proposal. -/
def proposedWorst (printer : Printer) (qa : QualityAgent) : Option Val :=
  match qa.handleCfp printer with
  | .ok proposal => Assoc.get (getD proposal "proposal_metrics" .none).asDict "worst_cpk"
  | .error _ => none

/-- The proposal names the least of the latest capabilities of the channels. -/
def ProposesLeast (printer : Printer) (w : Watch) : Prop :=
  ∃ least, IsLeast
      {x | ∃ key ∈ channels, Assoc.get (QualityAgent.latest w.agent.cpkHistory) key = some x} least ∧
    proposedWorst printer w.agent = some (.float (.fin (roundTo 3 least)))

theorem proposedWorst_blind (printer : Printer) {qa : QualityAgent} (h : qa.cpkHistory = []) :
    proposedWorst printer qa = some (.float (.fin 2)) := by
  unfold proposedWorst QualityAgent.handleCfp QualityAgent.worstCpk
  rw [h]
  with_unfolding_all rfl

theorem run_unaware (root : ℚ → ℚ) (d : InitDraws) (ds : List CycleDraws) :
    Unaware (Runs.run (Watch.cycle root) (.start d) ds) := by
  have hstart : Unaware (.start d) := ⟨rfl,rfl,fun _ h => by cases h⟩
  exact Runs.run_invariant cycle_unaware hstart

theorem Unaware.not_sees {w : Watch} (h : Unaware w) : ¬ SeesChannels w := by
  rintro ⟨obs,hseen,hentries⟩
  obtain ⟨info,hinfo⟩ := hentries "WC-01.진동" (by decide)
  rw [h.seen obs hseen] at hinfo
  cases hinfo

theorem Unaware.not_proposes {w : Watch} (h : Unaware w) (printer : Printer) :
    ¬ ProposesLeast printer w := by
  rintro ⟨least,⟨⟨key,_,hkey⟩,_⟩,_⟩
  rw [h.histories] at hkey
  cases hkey

/-- Over any number of cycles the agent sees no channel it has limits for, and its
proposal names the default instead of the least capability. -/
theorem line_never_seen (root : ℚ → ℚ) (printer : Printer) (d : InitDraws)
    (ds : List CycleDraws) :
    let w := Runs.run (Watch.cycle root) (.start d) ds
    ¬ SeesChannels w ∧ ¬ ProposesLeast printer w ∧
      proposedWorst printer w.agent = some (.float (.fin 2)) := by
  intro w
  have hw : Unaware w := run_unaware root d ds
  exact ⟨hw.not_sees,hw.not_proposes printer,proposedWorst_blind printer hw.histories⟩

/-- The square root to six digits. -/
def sixDigitRoot (q : ℚ) : ℚ := Nat.sqrt ⌊q * 10 ^ 12⌋.toNat / 10 ^ 6

/-- Ten cycles in which every product is good. -/
theorem ten_cycles_unseen :
    let w := Runs.run (Watch.cycle sixDigitRoot)
      (.start ⟨0,0,fun _ => ⟨300,by decide,by decide⟩⟩)
      (List.replicate 10 UnitBalance.quietTick.cycle)
    ¬ (SeesChannels w ∧ ProposesLeast .blank w) := by
  intro w
  have hw : Unaware w := run_unaware _ _ _
  exact fun h => hw.not_sees h.1

end ManufacturingMas.Proofs.QualityWatch
