import ManufacturingMas.Agents.EquipmentAgent
import ManufacturingMas.Lib.Loops

/-! What the equipment agent does about the scores that it has found. -/

namespace ManufacturingMas.Proofs.EquipmentDuties
open Py Agents FactorySnapshot EquipmentAgent

/-! ### The scores before they are rounded -/

/-- A sensor's reading with its score as it is computed, a double. -/
structure Score where
  station : String
  sensor : String
  value : ℚ
  anomaly : ℚ
  trend : String
deriving DecidableEq, Repr

/-- The alarm that is raised for it, with the score to two digits. -/
def Score.alarm (s : Score) : Alarm :=
  ⟨s.station,s.sensor,s.value,nearestDouble (roundTo 2 s.anomaly),s.trend⟩

/-- The history of a sensor with its latest reading. -/
def recordReading (station : String) (histories : List (String × List ℚ))
    (sensor : String × SensorData) : List (String × List ℚ) :=
  History.record 200 histories s!"{station}.{sensor.1}" sensor.2.value

def sensorScore (station stationType : String) (histories : List (String × List ℚ))
    (sensor : String × SensorData) : Score :=
  let (sname, s) := sensor
  let history := History.entries (recordReading station histories sensor) s!"{station}.{sname}"
  { station := station, sensor := sname, value := s.value
    anomaly := scaleAnomalyForType stationType sname (computeRawAnomaly s.value s.ma s.std history)
    trend := if 0 < s.slope then "상승" else "하강" }

/-- The scores of a station's sensors. -/
def sensorScores (station stationType : String) :
    List (String × List ℚ) → List (String × SensorData) → List Score
  | _, [] => []
  | histories, sensor :: sensors =>
    sensorScore station stationType histories sensor ::
      sensorScores station stationType (recordReading station histories sensor) sensors

/-- The scores of all stations. -/
def scores : List (String × List ℚ) → List (String × StationData) → List Score
  | _, [] => []
  | histories, (sid, s) :: stations =>
    sensorScores sid (stationTypeOf s) histories s.sensors ++
      scores (s.sensors.foldl (recordReading sid) histories) stations

/-- The alarms of all scores above 0.7. -/
def alarmsOf (found : List Score) : List Alarm :=
  (found.filter fun s => anomalyAlarmThreshold < s.anomaly).map Score.alarm

theorem alarmsOf_append (found rest : List Score) :
    alarmsOf (found ++ rest) = alarmsOf found ++ alarmsOf rest := by
  simp [alarmsOf]

theorem mem_alarmsOf {found : List Score} {alarm : Alarm} :
    alarm ∈ alarmsOf found ↔ ∃ s ∈ found, anomalyAlarmThreshold < s.anomaly ∧ s.alarm = alarm := by
  simp [alarmsOf, and_assoc]

theorem scanSensor_alarms (station stationType : String) (scan : StationScan)
    (sensor : String × SensorData) :
    (scanSensor station stationType scan sensor).alarms =
        scan.alarms ++ alarmsOf [sensorScore station stationType scan.trendHistory sensor] ∧
      (scanSensor station stationType scan sensor).trendHistory =
        recordReading station scan.trendHistory sensor := by
  obtain ⟨sname,s⟩ := sensor
  unfold scanSensor alarmsOf sensorScore recordReading
  dsimp only
  generalize scaleAnomalyForType stationType sname _ = anomaly
  by_cases hraised : anomalyAlarmThreshold < anomaly
  · rw [if_pos hraised]
    split_ifs <;> simp [hraised, Score.alarm]
  · rw [if_neg hraised]
    split_ifs <;> simp [hraised]

theorem scan_alarms (station stationType : String) (sensors : List (String × SensorData))
    (scan : StationScan) :
    (sensors.foldl (scanSensor station stationType) scan).alarms =
        scan.alarms ++ alarmsOf (sensorScores station stationType scan.trendHistory sensors) ∧
      (sensors.foldl (scanSensor station stationType) scan).trendHistory =
        sensors.foldl (recordReading station) scan.trendHistory := by
  induction sensors generalizing scan with
  | nil => simp [sensorScores, alarmsOf]
  | cons sensor sensors ih =>
    obtain ⟨hstep,hrecord⟩ := scanSensor_alarms station stationType scan sensor
    obtain ⟨halarms,hhistory⟩ := ih (scanSensor station stationType scan sensor)
    rw [List.foldl_cons, halarms, hhistory, hstep, hrecord]
    refine ⟨?_,rfl⟩
    have hcons := alarmsOf_append [sensorScore station stationType scan.trendHistory sensor]
      (sensorScores station stationType (recordReading station scan.trendHistory sensor) sensors)
    rw [List.append_assoc, ← hcons]
    rfl

/-- Sensing raises the alarms of the scores, and warns of the tools near their end. -/
theorem sense_alarms (stations : List (String × StationData))
    (r : EquipmentAgent × EquipmentObservation) :
    (stations.foldl senseStation r).2.alarms =
        r.2.alarms ++ alarmsOf (scores r.1.trendHistory stations) ∧
      (stations.foldl senseStation r).2.toolWarnings =
        r.2.toolWarnings ++ stations.filterMap fun p => toolWarning p.1 p.2 := by
  induction stations generalizing r with
  | nil => simp [scores, alarmsOf]
  | cons station stations ih =>
    obtain ⟨ea,obs⟩ := r
    obtain ⟨sid,s⟩ := station
    obtain ⟨halarms,hwarnings⟩ := ih (senseStation (ea,obs) (sid,s))
    obtain ⟨hscan,hhistory⟩ := scan_alarms sid (stationTypeOf s) s.sensors
      { trendHistory := ea.trendHistory, healthScore := 100, maxAnomaly := 0, worstSensor := ""
        alarms := obs.alarms, trendAlerts := obs.trendAlerts }
    rw [List.foldl_cons, halarms, hwarnings]
    refine ⟨?_,?_⟩
    · rw [scores, alarmsOf_append, ← List.append_assoc]
      exact congrArg₂ (· ++ ·) hscan (congrArg (fun h => alarmsOf (scores h stations)) hhistory)
    · unfold senseStation
      dsimp only
      rw [List.filterMap_cons]
      cases toolWarning sid s with
      | none => simp
      | some w => simp

/-! ### The contents of a decision -/

/-- What a list of alarms and the urgent tools among the warnings put into a decision. -/
structure Contents (alarms : List Alarm) (warnings : List ToolWarning) (d : EquipmentDecision) :
    Prop where
  slowed : ∀ sid, (∃ pct, (sid, pct) ∈ d.speedAdjustments) ↔
    ∃ a ∈ alarms, a.station = sid ∧ anomalyAlarmThreshold < a.anomaly
  repaired : ∀ sid, (∃ m ∈ d.maintenanceActions, m.station = sid) ↔
    (∃ a ∈ alarms, a.station = sid ∧ anomalyCriticalThreshold < a.anomaly) ∨
      ∃ w ∈ warnings, w.station = sid ∧ w.urgency = "긴급"
  critical : (∃ alert ∈ d.alertsToSend, alert.severity = "CRITICAL") ↔
    ∃ a ∈ alarms, anomalyCriticalThreshold < a.anomaly
  alerted : d.alertsToSend = [] ↔ d.maintenanceActions = []

theorem exists_mem_append {α : Type} {P : α → Prop} (xs : List α) (x : α) :
    (∃ y ∈ xs ++ [x], P y) ↔ (∃ y ∈ xs, P y) ∨ P x := by
  simp [or_and_right, exists_or]

theorem reasonAlarm_contents (printer : Printer) (alarms : List Alarm) (r : Reasoning)
    (alarm : Alarm) (h : Contents alarms [] r.1) :
    Contents (alarms ++ [alarm]) [] (reasonAlarm printer r alarm).1 := by
  obtain ⟨d,base⟩ := r
  obtain ⟨hslowed,hrepaired,hcritical,halerted⟩ := h
  unfold reasonAlarm
  dsimp only at hslowed hrepaired hcritical halerted ⊢
  by_cases hhigh : anomalyCriticalThreshold < alarm.anomaly
  · have hraised := alarm_lt_critical.trans hhigh
    rw [if_pos hhigh]
    refine ⟨?_,?_,?_,by simp⟩
    · intro sid
      rw [exists_mem_append, ← hslowed sid]
      simp [hraised, exists_or, eq_comm]
    · intro sid
      rw [exists_mem_append, exists_mem_append, hrepaired sid]
      simp [hhigh]
    · rw [exists_mem_append, exists_mem_append, hcritical]
      simp [hhigh]
  · rw [if_neg hhigh]
    by_cases hraised : anomalyAlarmThreshold < alarm.anomaly
    · rw [if_pos hraised]
      refine ⟨?_,?_,?_,halerted⟩
      · intro sid
        rw [exists_mem_append, ← hslowed sid]
        simp [hraised, exists_or, eq_comm]
      · intro sid
        rw [hrepaired sid, exists_mem_append]
        simp [hhigh]
      · rw [hcritical, exists_mem_append]
        simp [hhigh]
    · rw [if_neg hraised]
      refine ⟨?_,?_,?_,halerted⟩
      · intro sid
        rw [hslowed sid, exists_mem_append]
        simp [hraised]
      · intro sid
        rw [hrepaired sid, exists_mem_append]
        simp [hhigh]
      · rw [hcritical, exists_mem_append]
        simp [hhigh]

theorem reasonTool_contents (alarms : List Alarm) (warnings : List ToolWarning) (r : Reasoning)
    (w : ToolWarning) (h : Contents alarms warnings r.1) :
    Contents alarms (warnings ++ [w]) (reasonTool r w).1 := by
  obtain ⟨d,base⟩ := r
  obtain ⟨hslowed,hrepaired,hcritical,halerted⟩ := h
  unfold reasonTool
  dsimp only at hslowed hrepaired hcritical halerted ⊢
  by_cases hurgent : w.urgency = "긴급"
  · rw [if_pos hurgent]
    refine ⟨hslowed,?_,?_,by simp⟩
    · intro sid
      rw [exists_mem_append, exists_mem_append, hrepaired sid, or_assoc]
      simp [hurgent]
    · rw [exists_mem_append, hcritical]
      simp
  · rw [if_neg hurgent]
    refine ⟨hslowed,?_,hcritical,halerted⟩
    intro sid
    rw [hrepaired sid, exists_mem_append]
    simp [hurgent]

theorem reasonHealth_contents {alarms : List Alarm} {warnings : List ToolWarning} (r : Reasoning)
    (health : StationHealth) (h : Contents alarms warnings r.1) :
    Contents alarms warnings (reasonHealth r health).1 := by
  obtain ⟨d,base⟩ := r
  unfold reasonHealth
  dsimp only
  split
  · exact ⟨h.slowed,h.repaired,h.critical,h.alerted⟩
  · exact h

theorem assess_contents (printer : Printer) (base : BaseAgent EquipmentDecision)
    (obs : EquipmentObservation) :
    Contents obs.alarms obs.toolWarnings (assess printer base obs).1 := by
  unfold assess
  dsimp only
  generalize hstart : ((⟨[],[],[],"LOW"⟩, base) : Reasoning) = start
  have halarms : Contents obs.alarms [] (obs.alarms.foldl (reasonAlarm printer) start).1 := by
    refine Folds.foldl_invariant (I := fun alarms (r : Reasoning) => Contents alarms [] r.1)
      (reasonAlarm_contents printer) ?_ obs.alarms
    rw [← hstart]
    constructor <;> simp
  have htools : Contents obs.alarms obs.toolWarnings
      (obs.toolWarnings.foldl reasonTool (obs.alarms.foldl (reasonAlarm printer) start)).1 :=
    Folds.foldl_invariant (I := fun warnings (r : Reasoning) => Contents obs.alarms warnings r.1)
      (reasonTool_contents obs.alarms) halarms obs.toolWarnings
  exact Folds.foldl_invariant
    (I := fun _ (r : Reasoning) => Contents obs.alarms obs.toolWarnings r.1)
    (fun _ => reasonHealth_contents) htools _

/-- There is a decision exactly if something is to be maintained. -/
theorem reason_some_iff (printer : Printer) (ea : EquipmentAgent) (obs : EquipmentObservation)
    (d : EquipmentDecision) :
    (ea.reason printer obs).1 = some d ↔
      (assess printer ea.base obs).1.maintenanceActions ≠ [] ∧
        d = (assess printer ea.base obs).1 := by
  have halerted := (assess_contents printer ea.base obs).alerted
  unfold reason
  generalize assess printer ea.base obs = r at halerted ⊢
  obtain ⟨found,base⟩ := r
  dsimp only at halerted ⊢
  by_cases hnone : found.maintenanceActions = []
  · rw [if_pos ⟨List.isEmpty_iff.mpr hnone,List.isEmpty_iff.mpr (halerted.mpr hnone)⟩]
    simp [hnone]
  · rw [if_neg fun hempty => hnone (List.isEmpty_iff.mp hempty.1)]
    simp [hnone, eq_comm]

/-! ### Which alarms are handled -/

/-- The decision slows the station of the score down, and where the score is above 0.9 it also
has a maintenance action for the station and a critical alert. -/
def Handled (decision : Option EquipmentDecision) (s : Score) : Prop :=
  ∃ d, decision = some d ∧ (∃ pct, (s.station, pct) ∈ d.speedAdjustments) ∧
    (anomalyCriticalThreshold < s.anomaly → (∃ m ∈ d.maintenanceActions, m.station = s.station) ∧
      ∃ alert ∈ d.alertsToSend, alert.severity = "CRITICAL")

/-- No alarm that `sense` raises is discarded by `reason`. -/
def AlarmsHandled (printer : Printer) (ea : EquipmentAgent) (snapshot : Snapshot) : Prop :=
  ∀ s ∈ scores ea.trendHistory snapshot.stations, anomalyAlarmThreshold < s.anomaly →
    Handled ((ea.sense snapshot).1.reason printer (ea.sense snapshot).2).1 s

/-- A score that is still above 0.9 when it is rounded. -/
def Severe (s : Score) : Prop := 181/200 < s.anomaly

/-- A score that is still above 0.7 when it is rounded. -/
def Marked (s : Score) : Prop := 141/200 < s.anomaly

/-- Some score is severe or some tool urgent, the station has a marked score, and where the
score is above 0.9 some score is severe, and one of the station's is or its tool is urgent. -/
def Heeded (found : List Score) (stations : List (String × StationData)) (s : Score) : Prop :=
  ((∃ t ∈ found, Severe t) ∨ ∃ p ∈ stations, p.2.toolLifePct < 5) ∧
  (∃ t ∈ found, t.station = s.station ∧ Marked t) ∧
  (anomalyCriticalThreshold < s.anomaly →
    ((∃ t ∈ found, t.station = s.station ∧ Severe t) ∨
      ∃ p ∈ stations, p.1 = s.station ∧ p.2.toolLifePct < 5) ∧
    ∃ t ∈ found, Severe t)

/-- Only what is above the tie is rounded up from an even number of hundredths. -/
theorem lt_roundTo_iff {q : ℚ} {n : ℤ} (heven : n % 2 = 0)
    (hnext : nearestDouble (n / 100) < nearestDouble ((n + 1) / 100)) :
    nearestDouble (n / 100) < nearestDouble (roundTo 2 q) ↔ ((n : ℚ) + 1/2) / 100 < q := by
  have hround : roundTo 2 q = roundHalfEven (q * 100) / 100 := by
    unfold roundTo
    norm_num
  have hscaled : ((n : ℚ) + 1/2) / 100 < q ↔ n < roundHalfEven (q * 100) := by
    rw [div_lt_iff₀ (by norm_num)]
    exact (lt_roundHalfEven_iff heven).symm
  rw [hround, hscaled]
  generalize roundHalfEven (q * 100) = r
  constructor
  · intro h
    by_contra hle
    have hcast : (r : ℚ) ≤ n := by exact_mod_cast not_lt.mp hle
    exact absurd h (nearestDouble_mono (div_le_div_of_nonneg_right hcast (by norm_num))).not_gt
  · intro h
    have hcast : (n : ℚ) + 1 ≤ r := by exact_mod_cast Int.add_one_le_of_lt h
    exact hnext.trans_le
      (nearestDouble_mono (div_le_div_of_nonneg_right hcast (by norm_num)))

theorem exists_alarm_iff {P : String → Prop} (found : List Score) {n : ℤ} (heven : n % 2 = 0)
    (hn : 70 ≤ n) (hnext : nearestDouble (n / 100) < nearestDouble ((n + 1) / 100)) :
    (∃ a ∈ alarmsOf found, P a.station ∧ nearestDouble (n / 100) < a.anomaly) ↔
      ∃ s ∈ found, P s.station ∧ ((n : ℚ) + 1/2) / 100 < s.anomaly := by
  constructor
  · rintro ⟨a,ha,hstation,hanomaly⟩
    obtain ⟨s,hs,_,rfl⟩ := mem_alarmsOf.mp ha
    exact ⟨s,hs,hstation,(lt_roundTo_iff heven hnext).mp hanomaly⟩
  · rintro ⟨s,hs,hstation,hanomaly⟩
    have hcast : (70 : ℚ) ≤ n := by exact_mod_cast hn
    have hthreshold : anomalyAlarmThreshold < 141/200 := by decide +kernel
    have hraised : anomalyAlarmThreshold < s.anomaly := by linarith
    exact ⟨s.alarm,mem_alarmsOf.mpr ⟨s,hs,hraised,rfl⟩,hstation,
      (lt_roundTo_iff heven hnext).mpr hanomaly⟩

theorem exists_severe_iff {P : String → Prop} (found : List Score) :
    (∃ a ∈ alarmsOf found, P a.station ∧ anomalyCriticalThreshold < a.anomaly) ↔
      ∃ s ∈ found, P s.station ∧ Severe s := by
  have hninety : anomalyCriticalThreshold = nearestDouble ((90 : ℤ) / 100) := by decide +kernel
  have htie : (181/200 : ℚ) = ((90 : ℤ) + 1/2) / 100 := by norm_num
  unfold Severe
  rw [hninety, htie]
  exact exists_alarm_iff found (by decide) (by decide) (by decide +kernel)

theorem exists_marked_iff {P : String → Prop} (found : List Score) :
    (∃ a ∈ alarmsOf found, P a.station ∧ anomalyAlarmThreshold < a.anomaly) ↔
      ∃ s ∈ found, P s.station ∧ Marked s := by
  have hseventy : anomalyAlarmThreshold = nearestDouble ((70 : ℤ) / 100) := by decide +kernel
  have htie : (141/200 : ℚ) = ((70 : ℤ) + 1/2) / 100 := by norm_num
  unfold Marked
  rw [hseventy, htie]
  exact exists_alarm_iff found (by decide) (by decide) (by decide +kernel)

theorem exists_urgent_iff {P : String → Prop} (stations : List (String × StationData)) :
    (∃ w ∈ stations.filterMap fun p => toolWarning p.1 p.2, P w.station ∧ w.urgency = "긴급") ↔
      ∃ p ∈ stations, P p.1 ∧ p.2.toolLifePct < 5 := by
  constructor
  · rintro ⟨w,hw,hstation,hurgent⟩
    obtain ⟨p,hp,hwarning⟩ := List.mem_filterMap.mp hw
    unfold toolWarning at hwarning
    split at hwarning
    · cases hwarning
      dsimp only at hstation hurgent
      refine ⟨p,hp,hstation,?_⟩
      by_contra hlife
      rw [if_neg hlife] at hurgent
      exact absurd hurgent (by decide)
    · cases hwarning
  · rintro ⟨p,hp,hstation,hlife⟩
    have hwarning : toolWarning p.1 p.2 = some ⟨p.1,p.2.toolLifePct,p.2.toolRegion,"긴급"⟩ := by
      unfold toolWarning
      rw [if_pos (by linarith), if_pos hlife]
    exact ⟨_,List.mem_filterMap.mpr ⟨p,hp,hwarning⟩,hstation,rfl⟩

/-- What the assessment of a snapshot contains, in terms of its scores and tools. -/
theorem sensed_contents (printer : Printer) (ea : EquipmentAgent) (snapshot : Snapshot) :
    Contents (alarmsOf (scores ea.trendHistory snapshot.stations))
      (snapshot.stations.filterMap fun p => toolWarning p.1 p.2)
      (assess printer (ea.sense snapshot).1.base (ea.sense snapshot).2).1 := by
  have hcontents := assess_contents printer (ea.sense snapshot).1.base (ea.sense snapshot).2
  obtain ⟨halarms,hwarnings⟩ := sense_alarms snapshot.stations
    (ea, { stationHealth := [], alarms := [], toolWarnings := [], trendAlerts := [] })
  have halarms' : (ea.sense snapshot).2.alarms =
      alarmsOf (scores ea.trendHistory snapshot.stations) := halarms
  have hwarnings' : (ea.sense snapshot).2.toolWarnings =
      snapshot.stations.filterMap fun p => toolWarning p.1 p.2 := hwarnings
  rw [halarms', hwarnings'] at hcontents
  exact hcontents

/-- Something is to be maintained exactly if a score is severe or a tool urgent. -/
theorem actions_ne_nil_iff (printer : Printer) (ea : EquipmentAgent) (snapshot : Snapshot) :
    (assess printer (ea.sense snapshot).1.base (ea.sense snapshot).2).1.maintenanceActions ≠ [] ↔
      (∃ t ∈ scores ea.trendHistory snapshot.stations, Severe t) ∨
        ∃ p ∈ snapshot.stations, p.2.toolLifePct < 5 := by
  have hrepaired := (sensed_contents printer ea snapshot).repaired
  have hsevere := fun sid => exists_severe_iff (P := (· = sid))
    (scores ea.trendHistory snapshot.stations)
  have hurgent := fun sid => exists_urgent_iff (P := (· = sid)) snapshot.stations
  simp only [hsevere, hurgent] at hrepaired
  constructor
  · intro hsome
    obtain ⟨m,hm⟩ := List.exists_mem_of_ne_nil _ hsome
    rcases (hrepaired m.station).mp ⟨m,hm,rfl⟩ with ⟨t,ht,_,hs⟩ | ⟨p,hp,_,hlife⟩
    · exact .inl ⟨t,ht,hs⟩
    · exact .inr ⟨p,hp,hlife⟩
  · intro h
    have hexists : ∃ sid, ∃ m ∈ (assess printer (ea.sense snapshot).1.base
        (ea.sense snapshot).2).1.maintenanceActions, m.station = sid := by
      rcases h with ⟨t,ht,hs⟩ | ⟨p,hp,hlife⟩
      · exact ⟨t.station,(hrepaired _).mpr (.inl ⟨t,ht,rfl,hs⟩)⟩
      · exact ⟨p.1,(hrepaired _).mpr (.inr ⟨p,hp,rfl,hlife⟩)⟩
    obtain ⟨_,m,hm,_⟩ := hexists
    exact List.ne_nil_of_mem hm

theorem handled_iff (printer : Printer) (ea : EquipmentAgent) (snapshot : Snapshot) (s : Score) :
    Handled ((ea.sense snapshot).1.reason printer (ea.sense snapshot).2).1 s ↔
      Heeded (scores ea.trendHistory snapshot.stations) snapshot.stations s := by
  obtain ⟨hslowed,hrepaired,hcritical,_⟩ := sensed_contents printer ea snapshot
  have hactions := actions_ne_nil_iff printer ea snapshot
  have hany := exists_severe_iff (P := fun _ => True) (scores ea.trendHistory snapshot.stations)
  simp only [true_and] at hany
  unfold Handled Heeded
  simp only [reason_some_iff]
  rw [← hactions, ← exists_marked_iff (P := (· = s.station)), ← hslowed,
    ← exists_severe_iff (P := (· = s.station)), ← exists_urgent_iff (P := (· = s.station)),
    ← hrepaired, ← hany, ← hcritical]
  constructor
  · rintro ⟨d,⟨hsome,rfl⟩,hspeed,hrest⟩
    exact ⟨hsome,hspeed,hrest⟩
  · rintro ⟨hsome,hspeed,hrest⟩
    exact ⟨_,⟨hsome,rfl⟩,hspeed,hrest⟩

/-- A press that vibrates three and a half deviations off its mean. -/
def shakingPress : StationData :=
  { name := "블랭킹 프레스", type := "PRESS", state := "가동", toolLifePct := 80, toolRegion := "정상"
    oee := ⟨1,1,1,1⟩, mtbf := none, sensors := [("vibration", ⟨7/2,0,0,1⟩)] }

def shakingLine : Snapshot := ⟨1,[("WC-01", shakingPress)],0,0,0,[],[],[],[]⟩

end ManufacturingMas.Proofs.EquipmentDuties
