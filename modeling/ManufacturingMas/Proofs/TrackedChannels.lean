import ManufacturingMas.Agents.QualityAgent
import ManufacturingMas.Lib.Runs

/-! Whether the quality agent's sensing returns, and what it sums up. -/

namespace ManufacturingMas.Proofs.TrackedChannels
open Py Agents FactorySnapshot QualityAgent Stateful

/-! ### The tracked channels -/

/-- No sensor has limits. -/
def Untracked (snapshot : Snapshot) : Prop :=
  ∀ p ∈ snapshot.stations, ∀ sensor ∈ p.2.sensors,
    Assoc.get specLimits s!"{p.1}.{sensor.1}" = none

variable {root : ℚ → ℚ}

theorem senseSensor_status (sid : String) (r : QualityAgent × QualityObservation)
    (sensor : String × SensorData) :
    (senseSensor root sid r sensor).2.cpkStatus = [] ↔
      r.2.cpkStatus = [] ∧ Assoc.get specLimits s!"{sid}.{sensor.1}" = none := by
  unfold senseSensor
  dsimp only
  cases Assoc.get specLimits s!"{sid}.{sensor.1}" with
  | none => simp
  | some limits =>
    exact iff_of_false Assoc.set_ne_nil (by simp)

theorem sensors_status (sid : String) (sensors : List (String × SensorData))
    (r : QualityAgent × QualityObservation) :
    (sensors.foldl (senseSensor root sid) r).2.cpkStatus = [] ↔ r.2.cpkStatus = [] ∧
      ∀ sensor ∈ sensors, Assoc.get specLimits s!"{sid}.{sensor.1}" = none := by
  induction sensors generalizing r with
  | nil => simp
  | cons sensor sensors ih =>
    rw [List.foldl_cons, ih, senseSensor_status, List.forall_mem_cons, and_assoc]

theorem senseStation_status (r : QualityAgent × QualityObservation)
    (station : String × StationData) :
    (senseStation root r station).2.cpkStatus = [] ↔ r.2.cpkStatus = [] ∧
      ∀ sensor ∈ station.2.sensors, Assoc.get specLimits s!"{station.1}.{sensor.1}" = none := by
  unfold senseStation
  dsimp only
  split
  · exact sensors_status station.1 station.2.sensors _
  · exact sensors_status station.1 station.2.sensors _

/-- Nothing is tracked exactly if no sensor has limits. -/
theorem collect_status (qa : QualityAgent) (snapshot : Snapshot) :
    (collect root qa snapshot).2.cpkStatus = [] ↔ Untracked snapshot := by
  have hstations : ∀ (stations : List (String × StationData)) r,
      (stations.foldl (senseStation root) r).2.cpkStatus = [] ↔ r.2.cpkStatus = [] ∧
        ∀ p ∈ stations, ∀ sensor ∈ p.2.sensors,
          Assoc.get specLimits s!"{p.1}.{sensor.1}" = none := by
    intro stations
    induction stations with
    | nil => simp
    | cons station stations ih =>
      intro r
      rw [List.foldl_cons, ih, senseStation_status, List.forall_mem_cons, and_assoc]
  exact (hstations snapshot.stations (qa, emptyObservation)).trans (and_iff_right rfl)

/-! ### Readings whose squares are floats -/

variable {average : List ℚ → Except PyErr PyFloat}

/-- The statistics of these readings, which are made from `n` of them on, do not raise. -/
def Squared (average : List ℚ → Except PyErr PyFloat) (n : Nat) (data : List ℚ) : Prop :=
  n ≤ data.length → ∃ ys, squares average data = .ok ys

/-- A station's reading under its channel. -/
def reading (sid : String) (sensor : String × SensorData) : String × ℚ :=
  (s!"{sid}.{sensor.1}", sensor.2.value)

/-- The readings of a snapshot in the order in which they are recorded. -/
def readings (snapshot : Snapshot) : List (String × ℚ) :=
  snapshot.stations.flatMap fun p => p.2.sensors.map (reading p.1)

def recordReading (histories : List (String × List ℚ)) (r : String × ℚ) :
    List (String × List ℚ) :=
  History.record 200 histories r.1 r.2

/-- No statistics of these readings raise, recorded one after another. -/
def Steady (average : List ℚ → Except PyErr PyFloat) (histories : List (String × List ℚ))
    (rs : List (String × ℚ)) : Prop :=
  Runs.Along recordReading
    (fun d r => Squared average 9 (History.entries (recordReading d r) r.1)) histories rs

/-- A statistic that has a fixed value for fewer readings. -/
theorem statistic_ends {α : Type} {n : Nat} {data : List ℚ} {few v : α}
    (h : data.length < n → few = v) (qa : QualityAgent) :
    Ends (Stateful.ofExcept
      (if data.length < n then .ok few else do
        let _ ← squares average data
        pure v) : EStateM PyErr QualityAgent α) qa (Squared average n data) v qa := by
  refine ends_ofExcept (fun hs => ?_) fun hs => ?_
  · split
    · rename_i hfew
      rw [h hfew]
    · rename_i hmany
      obtain ⟨ys,hys⟩ := hs (not_lt.mp hmany)
      rw [hys]
      rfl
  · obtain ⟨hmany,hnone⟩ := Classical.not_imp.mp hs
    rw [if_neg (not_lt.mpr hmany)]
    cases hys : squares average data with
    | error e => exact ⟨e,rfl⟩
    | ok ys => exact absurd ⟨ys,hys⟩ hnone

theorem runRules_ends (data : List ℚ) (qa : QualityAgent) :
    Ends (Stateful.ofExcept (tryCheckRunRules average root data)) qa (Squared average 9 data)
      (checkRunRules root data) qa :=
  statistic_ends (fun hfew => (if_pos hfew).symm) qa

theorem cpk_ends (limits : ℚ × ℚ) (data : List ℚ) (qa : QualityAgent) :
    Ends (Stateful.ofExcept (tryCalcCpk average root limits data)) qa (Squared average 10 data)
      (calcCpk root limits data) qa :=
  statistic_ends (fun hfew => (if_pos hfew).symm) qa

/-- A sensor's round is the exact one where its statistics do not raise. -/
theorem sensor_ends (sid : String) (qa : QualityAgent) (obs : QualityObservation)
    (sensor : String × SensorData) :
    Ends (trySenseSensor average root sid obs sensor) qa
      (Squared average 9 (History.entries
        (recordReading qa.measurementHistory (reading sid sensor)) (reading sid sensor).1))
      (senseSensor root sid (qa, obs) sensor).2 (senseSensor root sid (qa, obs) sensor).1 := by
  unfold trySenseSensor senseSensor
  dsimp only [reading, recordReading]
  cases Assoc.get specLimits s!"{sid}.{sensor.1}" with
  | none =>
    refine (ends_modify.bind (ends_get.bind (ends_pure.bind ((runRules_ends _ _).map _)))).congr ?_
    simp only [true_and]
  | some limits =>
    refine (ends_modify.bind (ends_get.bind ((cpk_ends limits _ _).bind (ends_modify.bind
      (ends_get.bind (ends_pure.bind ((runRules_ends _ _).map _))))))).congr ?_
    simp only [true_and]
    exact and_iff_right_of_imp fun hs hmany => hs (by omega)

theorem sensor_measurements (sid : String) (r : QualityAgent × QualityObservation)
    (sensor : String × SensorData) :
    (senseSensor root sid r sensor).1.measurementHistory =
      recordReading r.1.measurementHistory (reading sid sensor) := by
  unfold senseSensor
  dsimp only
  cases Assoc.get specLimits s!"{sid}.{sensor.1}" <;> rfl

theorem sensors_ends (sid : String) (qa : QualityAgent) (obs : QualityObservation)
    (sensors : List (String × SensorData)) :
    Ends (trySenseSensors average root sid obs sensors) qa
      (Steady average qa.measurementHistory (sensors.map (reading sid)))
      (sensors.foldl (senseSensor root sid) (qa, obs)).2
      (sensors.foldl (senseSensor root sid) (qa, obs)).1 := by
  induction sensors generalizing qa obs with
  | nil => exact ends_pure
  | cons sensor sensors ih =>
    have hrest := ih (senseSensor root sid (qa, obs) sensor).1
      (senseSensor root sid (qa, obs) sensor).2
    rw [sensor_measurements] at hrest
    exact (sensor_ends sid qa obs sensor).bind hrest

theorem sensors_measurements (sid : String) (r : QualityAgent × QualityObservation)
    (sensors : List (String × SensorData)) :
    (sensors.foldl (senseSensor root sid) r).1.measurementHistory =
      Runs.run recordReading r.1.measurementHistory (sensors.map (reading sid)) := by
  induction sensors generalizing r with
  | nil => rfl
  | cons sensor sensors ih =>
    rw [List.foldl_cons, ih, sensor_measurements, List.map_cons, Runs.run_cons]

theorem station_ends (qa : QualityAgent) (obs : QualityObservation)
    (station : String × StationData) :
    Ends (trySenseStation average root obs station) qa
      (Steady average qa.measurementHistory (station.2.sensors.map (reading station.1)))
      (senseStation root (qa, obs) station).2 (senseStation root (qa, obs) station).1 := by
  have hsensors := @sensors_ends root average station.1 qa
    { obs with yieldByStation :=
        Assoc.set obs.yieldByStation station.1 (roundTo 1 (station.2.oee.quality * 100)) }
    station.2.sensors
  unfold trySenseStation senseStation
  dsimp only
  split
  · exact hsensors.map _
  · exact hsensors.map _

theorem station_measurements (r : QualityAgent × QualityObservation)
    (station : String × StationData) :
    (senseStation root r station).1.measurementHistory =
      Runs.run recordReading r.1.measurementHistory
        (station.2.sensors.map (reading station.1)) := by
  unfold senseStation
  dsimp only
  split
  · exact sensors_measurements station.1 _ station.2.sensors
  · exact sensors_measurements station.1 _ station.2.sensors

theorem stations_ends (qa : QualityAgent) (obs : QualityObservation)
    (stations : List (String × StationData)) :
    Ends (trySenseStations average root obs stations) qa
      (Steady average qa.measurementHistory
        (stations.flatMap fun p => p.2.sensors.map (reading p.1)))
      (stations.foldl (senseStation root) (qa, obs)).2
      (stations.foldl (senseStation root) (qa, obs)).1 := by
  induction stations generalizing qa obs with
  | nil => exact ends_pure
  | cons station stations ih =>
    have hrest := ih (senseStation root (qa, obs) station).1
      (senseStation root (qa, obs) station).2
    rw [station_measurements] at hrest
    exact ((station_ends qa obs station).bind hrest).congr (Runs.along_append _ _).symm

theorem collect_measurements (qa : QualityAgent) (snapshot : Snapshot) :
    (collect root qa snapshot).1.measurementHistory =
      Runs.run recordReading qa.measurementHistory (readings snapshot) := by
  have hstations : ∀ (stations : List (String × StationData)) r,
      (stations.foldl (senseStation root) r).1.measurementHistory =
        Runs.run recordReading r.1.measurementHistory
          (stations.flatMap fun p => p.2.sensors.map (reading p.1)) := by
    intro stations
    induction stations with
    | nil => exact fun _ => rfl
    | cons station stations ih =>
      intro r
      rw [List.foldl_cons, ih, station_measurements, List.flatMap_cons, Runs.run_append]
  exact hstations snapshot.stations (qa, emptyObservation)

/-- Sensing is the exact one where no statistics raise. -/
theorem trySense_of_steady {qa : QualityAgent} {snapshot : Snapshot}
    (h : Steady average qa.measurementHistory (readings snapshot)) :
    trySense average root snapshot qa = sense root snapshot qa := by
  unfold trySense
  rw [bind_apply, (stations_ends qa emptyObservation snapshot.stations).returns h]
  rfl

theorem trySense_raises {qa : QualityAgent} {snapshot : Snapshot}
    (h : ¬ Steady average qa.measurementHistory (readings snapshot)) :
    ∃ e qa', trySense average root snapshot qa = .error e qa' := by
  obtain ⟨e,qa',herror⟩ := (@stations_ends root average qa emptyObservation snapshot.stations).raises h
  unfold trySense
  rw [bind_apply, herror]
  exact ⟨e,qa',rfl⟩

/-! ### The summary -/

/-- The least capability of the entries, None where there are none. -/
def IsWorst (entries : List (String × CpkInfo)) (v : Val) : Prop :=
  if entries = [] then v = .none
  else ∃ q, v = .float (.fin q) ∧ (∃ entry ∈ entries, entry.2.cpk = q) ∧
    ∀ entry ∈ entries, q ≤ entry.2.cpk

/-- Sensing returns, and names the least capability. -/
def Summarized (average : List ℚ → Except PyErr PyFloat) (root : ℚ → ℚ) (qa : QualityAgent)
    (snapshot : Snapshot) : Prop :=
  ∃ obs qa' summary worst, trySense average root snapshot qa = .ok obs qa' ∧
    obs.qaSubSpc = some summary ∧ Assoc.get summary.toDict "worst_cpk" = some worst ∧
    IsWorst obs.cpkStatus worst

theorem get_worst (s : SpcSummary) : Assoc.get s.toDict "worst_cpk" =
    some ((s.worstCpk.map fun info => Val.dict info.toDict).getD .none) := by
  simp [SpcSummary.toDict]

/-- One entry is summarized as itself, and two raise. -/
theorem summarized_of_steady {qa : QualityAgent} {snapshot : Snapshot}
    (hsteady : Steady average qa.measurementHistory (readings snapshot)) :
    Summarized average root qa snapshot ↔ Untracked snapshot := by
  have hstatus : (collect root qa snapshot).2.cpkStatus = [] ↔ Untracked snapshot :=
    collect_status qa snapshot
  unfold Summarized
  rw [← hstatus, trySense_of_steady hsteady]
  constructor
  · rintro ⟨obs,qa',summary,worst,hsense,hsummary,hget,hworst⟩
    obtain ⟨made,hmade,rfl,_⟩ := sense_ok_iff.mp hsense
    cases hsummary
    rw [get_worst] at hget
    dsimp only at hworst
    generalize (collect root qa snapshot).2.cpkStatus = entries at hmade hworst ⊢
    rcases entries with _ | ⟨entry,_ | ⟨entry',entries⟩⟩
    · rfl
    · cases hmade
      cases hget
      obtain ⟨q,hq,_⟩ := hworst
      cases hq
    · cases hmade
  · intro hnone
    have hmade : summarizeSpc (collect root qa snapshot).2.cpkStatus =
        .ok ⟨"QA-SPC",0,[],none⟩ := by
      rw [hnone]
      rfl
    refine ⟨_,_,_,.none,sense_ok_iff.mpr ⟨_,hmade,rfl,rfl⟩,rfl,get_worst _,?_⟩
    unfold IsWorst
    rw [if_pos hnone]

theorem summarized_iff (qa : QualityAgent) (snapshot : Snapshot) :
    Summarized average root qa snapshot ↔
      Untracked snapshot ∧ Steady average qa.measurementHistory (readings snapshot) := by
  by_cases hsteady : Steady average qa.measurementHistory (readings snapshot)
  · rw [and_iff_left hsteady]
    exact summarized_of_steady hsteady
  · refine iff_of_false ?_ fun h => hsteady h.2
    rintro ⟨obs,qa',_,_,hsense,_⟩
    obtain ⟨e,qa'',hraises⟩ := trySense_raises hsteady
    rw [hraises] at hsense
    cases hsense

/-- The agent after it has sensed, or tried to. -/
def senseStep (average : List ℚ → Except PyErr PyFloat) (root : ℚ → ℚ) (qa : QualityAgent)
    (snapshot : Snapshot) : QualityAgent :=
  finalState (trySense average root snapshot qa)

theorem senseStep_measurements {qa : QualityAgent} {snapshot : Snapshot}
    (h : Steady average qa.measurementHistory (readings snapshot)) :
    (senseStep average root qa snapshot).measurementHistory =
      Runs.run recordReading qa.measurementHistory (readings snapshot) := by
  have hkeeps : ∀ obs : QualityObservation, Keeps (fun qa : QualityAgent => qa) (do
      let summary ← Stateful.ofExcept (summarizeSpc obs.cpkStatus)
      pure { obs with qaSubSpc := some summary } : EStateM PyErr QualityAgent QualityObservation) :=
    fun obs => (keeps_ofExcept _).bind fun _ => keeps_pure _
  unfold senseStep
  rw [trySense_of_steady h]
  exact (congrArg measurementHistory (finalState_bind hkeeps qa)).trans
    (collect_measurements qa snapshot)

/-- Over any sequence of snapshots, sensing returns and sums up correctly exactly if no sensor in
any of them has limits and no statistics of the readings raise. -/
theorem always_summarized_iff (average : List ℚ → Except PyErr PyFloat) (root : ℚ → ℚ)
    (qa : QualityAgent) (snapshots : List Snapshot) :
    Runs.Along (senseStep average root) (Summarized average root) qa snapshots ↔
      (∀ snapshot ∈ snapshots, Untracked snapshot) ∧
        Steady average qa.measurementHistory (snapshots.flatMap readings) := by
  induction snapshots generalizing qa with
  | nil => exact iff_of_true trivial ⟨by simp,trivial⟩
  | cons snapshot snapshots ih =>
    have hsplit : Steady average qa.measurementHistory ((snapshot :: snapshots).flatMap readings) ↔
        Steady average qa.measurementHistory (readings snapshot) ∧
          Steady average (Runs.run recordReading qa.measurementHistory (readings snapshot))
            (snapshots.flatMap readings) := Runs.along_append _ _
    rw [Runs.along_cons, ih, summarized_iff, hsplit, List.forall_mem_cons]
    constructor
    · rintro ⟨⟨huntracked,hsteady⟩,hall,hrest⟩
      rw [senseStep_measurements hsteady] at hrest
      exact ⟨⟨huntracked,hall⟩,hsteady,hrest⟩
    · rintro ⟨⟨huntracked,hall⟩,hsteady,hrest⟩
      rw [← @senseStep_measurements root average _ _ hsteady] at hrest
      exact ⟨⟨huntracked,hsteady⟩,hall,hrest⟩

/-- A press with these sensors, each at 1. -/
def pressWith (names : List String) : Snapshot :=
  let station : StationData :=
    { name := "블랭킹 프레스", type := "PRESS", state := "가동", toolLifePct := 80
      toolRegion := "정상", oee := ⟨1,1,1,1⟩, mtbf := none
      sensors := names.map fun name => (name, ⟨1,1,0,0⟩) }
  ⟨1,[("WC-01", station)],0,0,0,[],[],[],[]⟩

theorem sense_raises {qa : QualityAgent} {snapshot : Snapshot}
    (h : 2 ≤ (collect root qa snapshot).2.cpkStatus.length) :
    sense root snapshot qa = .error .typeError (collect root qa snapshot).1 := by
  unfold sense
  rw [bind_apply]
  change (Stateful.ofExcept (summarizeSpc _) >>= _ : EStateM _ _ _) _ = _
  unfold summarizeSpc
  rw [if_pos h]
  rfl

/-- The mean of floats in exact arithmetic. -/
def plainAverage (xs : List ℚ) : Except PyErr PyFloat := .ok (.nearest (mean xs))

theorem squared_of_few {n : Nat} {data : List ℚ} (h : data.length < n) : Squared average n data :=
  fun hmany => absurd hmany (not_le.mpr h)

/-- Two channels with limits raise, and one is summed up by its whole entry. -/
theorem two_channels_raise :
    (∃ qa, trySense plainAverage (fun _ => 0) (pressWith ["진동", "금형간극"]) .new =
        .error .typeError qa) ∧
      ¬ Summarized plainAverage (fun _ => 0) .new (pressWith ["진동", "금형간극"]) ∧
      ¬ Summarized plainAverage (fun _ => 0) .new (pressWith ["진동"]) := by
  have htwo : 2 ≤ (collect (fun _ => 0) .new (pressWith ["진동", "금형간극"])).2.cpkStatus.length := by
    decide +kernel
  have hsteady : Steady plainAverage [] (readings (pressWith ["진동", "금형간극"])) :=
    ⟨squared_of_few (by decide +kernel),squared_of_few (by decide +kernel),trivial⟩
  have hraises := (@trySense_of_steady _ _ .new _ hsteady).trans (sense_raises htwo)
  refine ⟨⟨_,hraises⟩,?_,?_⟩
  · rintro ⟨obs,qa,_,_,hsense,_⟩
    rw [hraises] at hsense
    cases hsense
  · have htracked : ¬ Untracked (pressWith ["진동"]) := by
      unfold Untracked
      decide +kernel
    rw [summarized_iff]
    exact fun h => htracked h.1

end ManufacturingMas.Proofs.TrackedChannels
