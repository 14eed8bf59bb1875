import ManufacturingMas.Agents.DemandAgent
import ManufacturingMas.Agents.EquipmentAgent
import ManufacturingMas.Agents.InventoryAgent
import ManufacturingMas.Agents.QualityAgent
import ManufacturingMas.Lib.Loops

/-! The figures that the alerts of four agents carry, and what the same cycle observed. -/

namespace ManufacturingMas.Proofs.AlertFigures
open Py Agents FactorySnapshot Messaging Stateful Writes

/-! ### Alerts of a cycle -/

section
variable {α ο δ τ : Type} {c : AgentClass α ο δ} {outbox : α → List SentMessage} {π : α → τ}
  {key : String} {figure : τ → Val}

/-- The alerts that a cycle adds to an agent's outbox. -/
def alertsSent (outbox : α → List SentMessage) (c : AgentClass α ο δ) (a : α)
    (snapshot : Snapshot) : List SentMessage :=
  ((outbox (c.afterCycle a snapshot)).drop (outbox a).length).filter fun m => m.intent = .alert

/-- What an agent is after a history of cycles. -/
def afterHistory (c : AgentClass α ο δ) (a : α) (history : List Snapshot) : α :=
  history.foldl c.afterCycle a

/-- A message whose entry under a key is a dict that shows the same figures. -/
def Shows (key : String) (figures : Dict) (m : SentMessage) : Prop :=
  ∃ d, Assoc.get m.body key = some (.dict d) ∧ ∀ k, Assoc.get d k = Assoc.get figures k

/-- What `c` does to its outbox and to the part `π` of its state. Acting sends messages
that show `figure` of that part; nothing but sensing changes it. -/
structure Announces (c : AgentClass α ο δ) (outbox : α → List SentMessage) (π : α → τ)
    (key : String) (figure : τ → Val) : Prop where
  sense : ∀ s, Keeps outbox (c.sense s)
  reason : ∀ o, Keeps (fun a => (outbox a, π a)) (c.reason o)
  record : ∀ d a, (outbox (c.record d a), π (c.record d a)) = (outbox a, π a)
  act : ∀ d a, ∃ sent, outbox (finalState (c.act d a)) = outbox a ++ sent ∧
    ∀ m ∈ sent, Assoc.get m.body key = some (figure (π a))
  kept : ∀ d, Keeps π (c.act d)

/-- How a cycle ends: where sensing returns, the rest adds to the outbox only. -/
theorem Announces.cycle (h : Announces c outbox π key figure) (a : α) (snapshot : Snapshot) :
    π (c.afterCycle a snapshot) = π (finalState (c.sense snapshot a)) ∧
      ∃ sent, outbox (c.afterCycle a snapshot) = outbox a ++ sent ∧
        ∀ m ∈ sent, Assoc.get m.body key = some (figure (π (finalState (c.sense snapshot a)))) := by
  have hsense := h.sense snapshot a
  unfold AgentClass.afterCycle AgentClass.runCycle
  rw [bind_apply]
  cases hobs : c.sense snapshot a with
  | error e a₁ =>
    rw [hobs] at hsense
    exact ⟨rfl,[],by simpa [finalState] using hsense,by simp⟩
  | ok obs a₁ =>
    rw [hobs] at hsense
    have hreason := h.reason obs a₁
    dsimp only
    rw [bind_apply]
    cases hdecision : c.reason obs a₁ with
    | error e a₂ =>
      rw [hdecision] at hreason
      obtain ⟨hout,hπ⟩ := Prod.mk.inj hreason
      exact ⟨hπ,[],by simpa [finalState] using hout.trans hsense,by simp⟩
    | ok decision a₂ =>
      rw [hdecision] at hreason
      -- the decision is recorded, if there is one, and then acted on
      have hrest : ∀ a₃, outbox a₃ = outbox a → π a₃ = π a₁ →
          π (finalState ((do c.act decision; pure decision : EStateM PyErr α (Option δ)) a₃)) =
              π a₁ ∧
            ∃ sent, outbox (finalState
                ((do c.act decision; pure decision : EStateM PyErr α (Option δ)) a₃)) =
              outbox a ++ sent ∧ ∀ m ∈ sent, Assoc.get m.body key = some (figure (π a₁)) := by
        intro a₃ hout hπ
        obtain ⟨sent,hsent,hfigures⟩ := h.act decision a₃
        have hkept := h.kept decision a₃
        have hend : finalState ((do c.act decision; pure decision :
            EStateM PyErr α (Option δ)) a₃) = finalState (c.act decision a₃) :=
          finalState_bind (fun _ => keeps_pure decision) a₃
        rw [hend, hkept, hsent, hout]
        exact ⟨hπ,sent,rfl,hπ ▸ hfigures⟩
      obtain ⟨hout,hπ⟩ := Prod.mk.inj hreason
      cases decision with
      | none => exact hrest a₂ (hout.trans hsense) hπ
      | some d =>
        obtain ⟨hout',hπ'⟩ := Prod.mk.inj (h.record d a₂)
        exact hrest (c.record d a₂) (hout'.trans (hout.trans hsense)) (hπ'.trans hπ)

/-- An alert of a cycle shows what its sensing left in the part. -/
theorem Announces.alert (h : Announces c outbox π key figure) {a : α} {snapshot : Snapshot}
    {m : SentMessage} (hm : m ∈ alertsSent outbox c a snapshot) :
    Assoc.get m.body key = some (figure (π (finalState (c.sense snapshot a)))) := by
  obtain ⟨-,sent,hout,hfigures⟩ := h.cycle a snapshot
  unfold alertsSent at hm
  rw [hout, List.drop_left, List.mem_filter] at hm
  exact hfigures m hm.1

/-- The keys of an agent's figures after a history of cycles, each of which writes some. -/
theorem history_keys {figures : α → Dict} {keys : Snapshot → List String}
    (hcycle : ∀ a s, ∃ e : Dict, e.map Prod.fst = keys s ∧
      figures (c.afterCycle a s) = Assoc.update (figures a) e)
    {a : α} (hnone : figures a = []) (history : List Snapshot) :
    ∀ k, Assoc.get (figures (afterHistory c a history)) k ≠ none ↔ ∃ s ∈ history, k ∈ keys s := by
  refine Folds.foldl_invariant (I := fun history b => ∀ k, Assoc.get (figures b) k ≠ none ↔
    ∃ s ∈ history, k ∈ keys s) ?_ (by simp [hnone]) history
  intro history b s hb k
  obtain ⟨e,hkeys,hwrites⟩ := hcycle b s
  have hnow : Assoc.get (figures (c.afterCycle b s)) k ≠ none ↔
      k ∈ keys s ∨ Assoc.get (figures b) k ≠ none := by
    rw [hwrites, ne_eq, Assoc.get_update_eq_none_iff, hkeys, not_and_or, not_not]
  rw [hnow, hb k, or_comm]
  simp only [List.mem_append, List.mem_singleton, or_and_right, exists_or, exists_eq_left]

/-- A message with an agent's figures after a cycle shows those of the cycle exactly if
the cycle wrote every figure that there was. -/
theorem shows_iff_kept (figures : α → Dict) {observed : α → Snapshot → Dict}
    {keys : Snapshot → List String}
    (hcycle : ∀ a s, ∃ e : Dict, e.map Prod.fst = keys s ∧
      figures (c.afterCycle a s) = Assoc.update (figures a) e ∧
      observed a s = Assoc.update [] e)
    {a : α} (hnone : figures a = []) (history : List Snapshot) (snapshot : Snapshot)
    {m : SentMessage} (hm : Assoc.get m.body key =
      some (.dict (figures (c.afterCycle (afterHistory c a history) snapshot)))) :
    Shows key (observed (afterHistory c a history) snapshot) m ↔
      ∀ s ∈ history, keys s ⊆ keys snapshot := by
  obtain ⟨e,hkeys,hwrites,hobserved⟩ := hcycle (afterHistory c a history) snapshot
  have hwritten : ∀ a s, ∃ e : Dict, e.map Prod.fst = keys s ∧
      figures (c.afterCycle a s) = Assoc.update (figures a) e := by
    intro a s
    obtain ⟨e,hkeys,hwrites,-⟩ := hcycle a s
    exact ⟨e,hkeys,hwrites⟩
  have hold := history_keys hwritten hnone history
  have hshown : Shows key (observed (afterHistory c a history) snapshot) m ↔
      ∀ k, Assoc.get (Assoc.update (figures (afterHistory c a history)) e) k =
        Assoc.get (Assoc.update [] e) k := by
    rw [← hwrites, ← hobserved]
    constructor
    · rintro ⟨d,hd,hsame⟩
      cases hm.symm.trans hd
      exact hsame
    · intro hsame
      exact ⟨_,hm,hsame⟩
  rw [hshown, Assoc.update_fresh_iff, hkeys]
  constructor
  · intro h s hs k hk
    exact h k ((hold k).mpr ⟨s,hs,hk⟩)
  · intro h k hk
    obtain ⟨s,hs,hks⟩ := (hold k).mp hk
    exact h s hs hks

end

/-- Alerts are added to the outbox, each with the agent's own entry in its body. -/
theorem sendAlerts_outbox {δ : Type} (agentId : String) (extra : Dict) (alerts : List AgentAlert)
    (b : BaseAgent δ) : (b.sendAlerts agentId extra alerts).outbox = b.outbox ++
      alerts.map fun alert => ⟨alert.target,.alert,[("source", .str agentId),
        ("severity", .str alert.severity), ("summary", .str alert.message)] ++ extra⟩ := by
  induction alerts generalizing b with
  | nil => exact (List.append_nil _).symm
  | cons alert alerts ih =>
    refine (ih _).trans ?_
    rw [List.map_cons]
    exact List.append_assoc _ _ _

/-- The alerts that `sendAlerts` adds show what follows the three common entries. -/
theorem sendAlerts_shows {δ : Type} {agentId key : String} {extra : Dict} {v : Val}
    (hkey : key ∉ ["source","severity","summary"]) (hextra : Assoc.get extra key = some v)
    (alerts : List AgentAlert) (b : BaseAgent δ) :
    ∃ sent, (b.sendAlerts agentId extra alerts).outbox = b.outbox ++ sent ∧
      ∀ m ∈ sent, Assoc.get m.body key = some v := by
  refine ⟨_,sendAlerts_outbox agentId extra alerts b,fun m hm => ?_⟩
  obtain ⟨alert,-,rfl⟩ := List.mem_map.mp hm
  simp only [List.mem_cons, List.not_mem_nil, or_false, not_or] at hkey
  obtain ⟨hsource,hseverity,hsummary⟩ := hkey
  simp only [List.cons_append, List.nil_append, Assoc.get_cons]
  rw [if_neg (Ne.symm hsource), if_neg (Ne.symm hseverity), if_neg (Ne.symm hsummary), hextra]

/-- What no round of a reasoning loop sends, the loop does not send. -/
theorem loop_outbox {δ ρ ι : Type} {f : ρ × BaseAgent δ → ι → ρ × BaseAgent δ}
    (hstep : ∀ r x, (f r x).2.outbox = r.2.outbox) (xs : List ι) (r : ρ × BaseAgent δ) :
    (xs.foldl f r).2.outbox = r.2.outbox := by
  induction xs generalizing r with
  | nil => rfl
  | cons x xs ih => exact (ih _).trans (hstep r x)

/-! ### The equipment agent -/

def stationIds (snapshot : Snapshot) : List String := snapshot.stations.map Prod.fst

/-- Numbers under keys as a message shows them. -/
def floatDict (d : List (String × ℚ)) : Dict := d.map fun p => (p.1, .float (.fin p.2))

theorem floatDict_set (d : List (String × ℚ)) (p : String × ℚ) :
    floatDict (Assoc.set d p.1 p.2) = Assoc.set (floatDict d) p.1 (.float (.fin p.2)) :=
  Assoc.map_set (fun q : ℚ => (.float (.fin q) : Val)) d p.1 p.2

/-- The remaining lives that one cycle estimates: those of an agent that had none before. -/
def observedEstimates (ea : EquipmentAgent) (snapshot : Snapshot) : Dict :=
  floatDict ({ ea with rulEstimates := [] }.sense snapshot).1.rulEstimates

def putEstimates (d : List (String × ℚ)) (r : EquipmentAgent × EquipmentObservation) :
    EquipmentAgent × EquipmentObservation :=
  ({ r.1 with rulEstimates := d }, r.2)

/-- A station's round of sensing writes its estimate. -/
theorem senseStation_writes (r : EquipmentAgent × EquipmentObservation)
    (station : String × StationData) :
    ∃ ws, ws.map Prod.fst = [station.1] ∧ WritesAs putEstimates (fun d p => Assoc.set d p.1 p.2) ws
      (fun r => EquipmentAgent.senseStation r station) r :=
  ⟨(EquipmentAgent.senseStation (putEstimates [] r) station).1.rulEstimates,rfl,fun _ => rfl⟩

theorem equipment_writes (ea : EquipmentAgent) (snapshot : Snapshot) :
    ∃ e : Dict, e.map Prod.fst = stationIds snapshot ∧ ∀ d : List (String × ℚ),
      floatDict ({ ea with rulEstimates := d }.sense snapshot).1.rulEstimates =
        Assoc.update (floatDict d) e := by
  obtain ⟨ws,hkeys,hwrites⟩ := Writes.loop senseStation_writes snapshot.stations
    (ea, { stationHealth := [], alarms := [], toolWarnings := [], trendAlerts := [] })
  refine ⟨ws.map fun p => (p.1, .float (.fin p.2)),?_,fun d => ?_⟩
  · rw [List.map_map]
    refine Eq.trans hkeys ?_
    exact List.flatMap_pure_eq_map Prod.fst _
  · have hsense := congrArg (fun r => floatDict r.1.rulEstimates) (hwrites d)
    exact hsense.trans (Assoc.view_writes floatDict_set d ws)

/-- The health that sensing returns for a station shows its estimate, rounded. -/
theorem estimate_reported (ea : EquipmentAgent) (snapshot : Snapshot) :
    ∀ sid health, Assoc.get (ea.sense snapshot).2.stationHealth sid = some health →
      ∃ rul, Assoc.get (ea.sense snapshot).1.rulEstimates sid = some rul ∧
        roundTo 1 rul = health.rulHours := by
  unfold EquipmentAgent.sense
  refine List.foldlRecOn (motive := fun (r : EquipmentAgent × EquipmentObservation) =>
    ∀ sid health, Assoc.get r.2.stationHealth sid = some health →
      ∃ rul, Assoc.get r.1.rulEstimates sid = some rul ∧ roundTo 1 rul = health.rulHours)
    _ _ (fun _ _ hnone => by cases hnone) fun r hr station _ sid health hhealth => ?_
  by_cases hsid : sid = station.1
  · subst hsid
    rw [show (EquipmentAgent.senseStation r station).2.stationHealth =
      Assoc.set r.2.stationHealth station.1 _ from rfl, Assoc.get_set_self] at hhealth
    cases hhealth
    exact ⟨_,Assoc.get_set_self,rfl⟩
  · rw [show (EquipmentAgent.senseStation r station).2.stationHealth =
      Assoc.set r.2.stationHealth station.1 _ from rfl, Assoc.get_set_of_ne hsid] at hhealth
    obtain ⟨rul,hrul,hround⟩ := hr sid health hhealth
    exact ⟨rul,(Assoc.get_set_of_ne hsid).trans hrul,hround⟩

theorem equipment_sense_base (ea : EquipmentAgent) (snapshot : Snapshot) :
    (ea.sense snapshot).1.base = ea.base :=
  List.foldlRecOn (motive := fun (r : EquipmentAgent × EquipmentObservation) =>
    r.1.base = ea.base) _ _ rfl fun _ hr _ _ => hr

theorem equipment_assess_outbox (printer : Printer) (base : BaseAgent EquipmentDecision)
    (obs : EquipmentObservation) :
    (EquipmentAgent.assess printer base obs).2.outbox = base.outbox := by
  have halarm : ∀ (r : EquipmentAgent.Reasoning) alarm,
      (EquipmentAgent.reasonAlarm printer r alarm).2.outbox = r.2.outbox := by
    intro r alarm
    unfold EquipmentAgent.reasonAlarm
    dsimp only
    split
    · rfl
    · split <;> rfl
  have htool : ∀ (r : EquipmentAgent.Reasoning) tw,
      (EquipmentAgent.reasonTool r tw).2.outbox = r.2.outbox := by
    intro r tw
    unfold EquipmentAgent.reasonTool
    dsimp only
    split <;> rfl
  have hhealth : ∀ (r : EquipmentAgent.Reasoning) health,
      (EquipmentAgent.reasonHealth r health).2.outbox = r.2.outbox := by
    intro r health
    unfold EquipmentAgent.reasonHealth
    dsimp only
    split <;> rfl
  unfold EquipmentAgent.assess
  exact (loop_outbox hhealth _ _).trans ((loop_outbox htool _ _).trans (loop_outbox halarm _ _))

theorem equipment_announces (printer : Printer) :
    Announces (EquipmentAgent.agentClass printer) (fun ea => ea.base.outbox)
      (fun ea => ea.rulEstimates) "rul_estimates"
      (fun d => .dict (floatDict d)) where
  sense s ea := congrArg BaseAgent.outbox (equipment_sense_base ea s)
  reason obs ea := by
    have hbase := equipment_assess_outbox printer ea.base obs
    change ((ea.reason printer obs).2.base.outbox,(ea.reason printer obs).2.rulEstimates) = _
    unfold EquipmentAgent.reason
    dsimp only
    split <;> exact congrArg (·,ea.rulEstimates) hbase
  record _ _ := rfl
  act d ea := by
    cases d with
    | none => exact ⟨[],(List.append_nil _).symm,by simp⟩
    | some d => exact sendAlerts_shows (by decide) rfl _ _
  kept d ea := by cases d <;> rfl

/-! ### The quality agent -/

/-- The channel of a sensor, where it has limits. -/
def limitedChannel (sid name : String) : List String :=
  if (Assoc.get QualityAgent.specLimits s!"{sid}.{name}").isSome then [s!"{sid}.{name}"] else []

def limitedChannels (snapshot : Snapshot) : List String :=
  snapshot.stations.flatMap fun station =>
    station.2.sensors.flatMap fun sensor => limitedChannel station.1 sensor.1

/-- The last entry of each history, as an alert shows them. -/
def lastFigures (histories : List (String × List ℚ)) : Dict :=
  histories.map fun p => (p.1, .float (.fin (p.2.getLast?.getD 0)))

/-- The capabilities that one cycle calculates: those of an agent without any before. -/
def observedCpk (root : ℚ → ℚ) (qa : QualityAgent) (snapshot : Snapshot) : Dict :=
  lastFigures (QualityAgent.collect root { qa with cpkHistory := [] } snapshot).1.cpkHistory

theorem lastFigures_record (d : List (String × List ℚ)) (p : String × ℚ) :
    lastFigures (History.record 50 d p.1 p.2) =
      Assoc.set (lastFigures d) p.1 (.float (.fin p.2)) := by
  have hlast : ∀ xs : List ℚ, (Ring.push 50 xs p.2).getLast?.getD 0 = p.2 := by
    intro xs
    rw [Ring.getLast?_push (by decide), Option.getD_some]
  unfold lastFigures History.record
  rw [Assoc.map_set (fun xs : List ℚ => (.float (.fin (xs.getLast?.getD 0)) : Val)), hlast]

def putHistories (d : List (String × List ℚ)) (qa : QualityAgent) : QualityAgent :=
  { qa with cpkHistory := d }

/-- What a sensor's round does to the agent; the observation is not read for it. -/
def measure (root : ℚ → ℚ) (sid : String) (qa : QualityAgent) (sensor : String × SensorData) :
    QualityAgent :=
  (QualityAgent.senseSensor root sid (qa, QualityAgent.emptyObservation) sensor).1

theorem senseSensor_fst (root : ℚ → ℚ) (sid : String) (r : QualityAgent × QualityObservation)
    (sensor : String × SensorData) :
    measure root sid r.1 sensor = (QualityAgent.senseSensor root sid r sensor).1 := by
  unfold measure QualityAgent.senseSensor
  dsimp only
  cases Assoc.get QualityAgent.specLimits s!"{sid}.{sensor.1}" <;> rfl

theorem senseStation_fst (root : ℚ → ℚ) (r : QualityAgent × QualityObservation)
    (station : String × StationData) :
    station.2.sensors.foldl (measure root station.1) r.1 =
      (QualityAgent.senseStation root r station).1 := by
  let started : QualityAgent × QualityObservation :=
    (r.1, { r.2 with
      yieldByStation :=
        Assoc.set r.2.yieldByStation station.1 (roundTo 1 (station.2.oee.quality * 100)) })
  have hsensors : station.2.sensors.foldl (measure root station.1) started.1 =
      (station.2.sensors.foldl (QualityAgent.senseSensor root station.1) started).1 :=
    List.foldl_hom Prod.fst (senseSensor_fst root station.1)
  unfold QualityAgent.senseStation
  dsimp only
  split
  · exact hsensors
  · exact hsensors

theorem collect_fst (root : ℚ → ℚ) (qa : QualityAgent) (snapshot : Snapshot) :
    (QualityAgent.collect root qa snapshot).1 = snapshot.stations.foldl
      (fun qa station => station.2.sensors.foldl (measure root station.1) qa) qa :=
  (List.foldl_hom Prod.fst (senseStation_fst root)).symm

/-- A sensor's round writes the capability of its channel, if it has limits. -/
theorem measure_writes (root : ℚ → ℚ) (sid : String) (qa : QualityAgent)
    (sensor : String × SensorData) :
    ∃ ws, ws.map Prod.fst = limitedChannel sid sensor.1 ∧
      WritesAs putHistories (fun d p => History.record 50 d p.1 p.2) ws
        (fun qa => measure root sid qa sensor) qa := by
  unfold limitedChannel WritesAs measure QualityAgent.senseSensor
  dsimp only
  cases Assoc.get QualityAgent.specLimits s!"{sid}.{sensor.1}" with
  | none => exact ⟨[],rfl,fun _ => rfl⟩
  | some limits =>
    let key := s!"{sid}.{sensor.1}"
    let measured := History.record 200 qa.measurementHistory key sensor.2.value
    exact ⟨[(key,QualityAgent.calcCpk root limits (History.entries measured key))],rfl,fun _ => rfl⟩

theorem quality_writes (root : ℚ → ℚ) (qa : QualityAgent) (snapshot : Snapshot) :
    ∃ e : Dict, e.map Prod.fst = limitedChannels snapshot ∧ ∀ d : List (String × List ℚ),
      lastFigures (QualityAgent.collect root { qa with cpkHistory := d } snapshot).1.cpkHistory =
        Assoc.update (lastFigures d) e := by
  obtain ⟨ws,hkeys,hwrites⟩ := Writes.loop
    (fun qa station => Writes.loop (measure_writes root station.1) station.2.sensors qa)
    snapshot.stations qa
  refine ⟨ws.map fun p => (p.1, .float (.fin p.2)),?_,fun d => ?_⟩
  · rw [List.map_map]
    exact hkeys
  · rw [collect_fst]
    have hcollect := congrArg (fun qa => lastFigures qa.cpkHistory) (hwrites d)
    exact hcollect.trans (Assoc.view_writes lastFigures_record d ws)

/-- A status shows the last capability of its channel, rounded. -/
def Reported (r : QualityAgent × QualityObservation) : Prop :=
  ∀ key info, Assoc.get r.2.cpkStatus key = some info →
    ∃ cpk, (History.entries r.1.cpkHistory key).getLast? = some cpk ∧ roundTo 3 cpk = info.cpk

/-- So does every status that sensing returns. -/
theorem cpk_reported (root : ℚ → ℚ) (qa : QualityAgent) (snapshot : Snapshot) :
    Reported (QualityAgent.collect root qa snapshot) := by
  have hsensor : ∀ sid r sensor, Reported r →
      Reported (QualityAgent.senseSensor root sid r sensor) := by
    intro sid r sensor hr
    unfold QualityAgent.senseSensor
    dsimp only
    cases Assoc.get QualityAgent.specLimits s!"{sid}.{sensor.1}" with
    | none => exact hr
    | some limits =>
      intro key info hinfo
      change Assoc.get (Assoc.set r.2.cpkStatus s!"{sid}.{sensor.1}" _) key = some info at hinfo
      by_cases hkey : key = s!"{sid}.{sensor.1}"
      · subst hkey
        rw [Assoc.get_set_self] at hinfo
        cases hinfo
        refine ⟨_,?_,rfl⟩
        exact (congrArg List.getLast? (History.entries_record_self _ _ _ _)).trans
          (Ring.getLast?_push (by decide) _ _)
      · rw [Assoc.get_set_of_ne hkey] at hinfo
        obtain ⟨cpk,hcpk,hround⟩ := hr key info hinfo
        exact ⟨cpk,(congrArg List.getLast? (History.entries_record_of_ne hkey _ _ _)).trans hcpk,
          hround⟩
  have hstation : ∀ r station, Reported r → Reported (QualityAgent.senseStation root r station) := by
    intro r station hr
    unfold QualityAgent.senseStation
    dsimp only
    split
    · exact List.foldlRecOn (motive := Reported) _ _ hr fun r hr sensor _ =>
        hsensor station.1 r sensor hr
    · exact List.foldlRecOn (motive := Reported) _ _ hr fun r hr sensor _ =>
        hsensor station.1 r sensor hr
  exact List.foldlRecOn (motive := Reported) _ _ (fun _ _ hnone => by cases hnone)
    fun r hr station _ => hstation r station hr

theorem collect_base (root : ℚ → ℚ) (qa : QualityAgent) (snapshot : Snapshot) :
    (QualityAgent.collect root qa snapshot).1.base = qa.base := by
  have hsensor : ∀ sid (qa : QualityAgent) sensor, (measure root sid qa sensor).base = qa.base := by
    intro sid qa sensor
    unfold measure QualityAgent.senseSensor
    dsimp only
    cases Assoc.get QualityAgent.specLimits s!"{sid}.{sensor.1}" <;> rfl
  rw [collect_fst]
  refine List.foldlRecOn (motive := fun (qa' : QualityAgent) => qa'.base = qa.base) _ _ rfl
    fun qa' hqa station _ => ?_
  exact List.foldlRecOn (motive := fun (qa' : QualityAgent) => qa'.base = qa.base) _ _ hqa
    fun qa'' hqa sensor _ => (hsensor station.1 qa'' sensor).trans hqa

/-- What sensing leaves, also where its summary raises. -/
theorem quality_sense_final (root : ℚ → ℚ) (qa : QualityAgent) (snapshot : Snapshot) :
    finalState (QualityAgent.sense root snapshot qa) = (QualityAgent.collect root qa snapshot).1 := by
  refine finalState_bind (fun obs => ?_) qa
  exact (keeps_ofExcept (QualityAgent.summarizeSpc obs.cpkStatus)).bind fun _ => keeps_pure _

theorem quality_assess_outbox (qa : QualityAgent) (obs : QualityObservation) :
    (QualityAgent.assess qa obs).2.outbox = qa.base.outbox := by
  have hentry : ∀ (r : QualityAgent.Reasoning) entry,
      (QualityAgent.reasonCpk r entry).2.outbox = r.2.outbox := fun _ _ => rfl
  have hviolation : ∀ (r : QualityAgent.Reasoning) v,
      (QualityAgent.reasonViolation r v).2.outbox = r.2.outbox := fun _ _ => rfl
  have hcpk : (QualityAgent.assessCpk qa.inspectionMode obs qa.base).2.outbox =
      qa.base.outbox := by
    unfold QualityAgent.assessCpk
    dsimp only
    split
    · rfl
    · exact loop_outbox hentry _ _
  have htrend : ∀ r : QualityAgent.Reasoning,
      (QualityAgent.assessTrend obs r).2.outbox = r.2.outbox := by
    intro r
    unfold QualityAgent.assessTrend
    dsimp only
    split <;> rfl
  unfold QualityAgent.assess
  exact (htrend _).trans ((loop_outbox hviolation _ _).trans hcpk)

theorem quality_announces (root : ℚ → ℚ) :
    Announces (QualityAgent.agentClass root) (fun qa => qa.base.outbox)
      (fun qa => qa.cpkHistory) "cpk_summary" (fun d => .dict (lastFigures d)) where
  sense s qa := by
    change (finalState (QualityAgent.sense root s qa)).base.outbox = _
    rw [quality_sense_final, collect_base]
  reason obs qa := by
    have hbase := quality_assess_outbox qa obs
    change ((qa.reason obs).2.base.outbox,(qa.reason obs).2.cpkHistory) = _
    unfold QualityAgent.reason
    dsimp only
    split <;> exact congrArg (·,qa.cpkHistory) hbase
  record _ _ := rfl
  act d qa := by
    cases d with
    | none => exact ⟨[],(List.append_nil _).symm,by simp⟩
    | some d => exact sendAlerts_shows (by decide) rfl _ _
  kept d qa := by cases d <;> rfl

/-! ### The inventory agent -/

/-- A station, or None, as an alert shows it. -/
def stationFigure (station : Option String) : Val := (station.map Val.str).getD .none

theorem inventory_assess_outbox (base : BaseAgent InventoryDecision) (obs : InventoryObservation) :
    (InventoryAgent.assess base obs).2.outbox = base.outbox := by
  have hwip : ∀ (r : InventoryAgent.Reasoning) wa,
      (InventoryAgent.reasonWip r wa).2.outbox = r.2.outbox := by
    intro r wa
    unfold InventoryAgent.reasonWip
    dsimp only
    split <;> rfl
  have hbottleneck : ∀ r : InventoryAgent.Reasoning,
      (InventoryAgent.reasonBottleneck obs r).2.outbox = r.2.outbox := by
    intro r
    unfold InventoryAgent.reasonBottleneck
    dsimp only
    split
    · rfl
    · split <;> rfl
  have hscrap : ∀ r : InventoryAgent.Reasoning,
      (InventoryAgent.reasonScrap obs r).2.outbox = r.2.outbox := by
    intro r
    unfold InventoryAgent.reasonScrap
    dsimp only
    split <;> rfl
  unfold InventoryAgent.assess
  exact (hscrap _).trans ((hbottleneck _).trans (loop_outbox hwip _ _))

theorem inventory_announces :
    Announces InventoryAgent.agentClass (fun ia => ia.base.outbox)
      (fun ia => ia.bottleneckStation) "bottleneck" stationFigure where
  sense _ _ := rfl
  reason obs ia := by
    have hbase := inventory_assess_outbox ia.base obs
    change ((ia.reason obs).2.base.outbox,(ia.reason obs).2.bottleneckStation) = _
    unfold InventoryAgent.reason
    dsimp only
    split <;> exact congrArg (·,ia.bottleneckStation) hbase
  record _ _ := rfl
  act d ia := by
    cases d with
    | none => exact ⟨[],(List.append_nil _).symm,by simp⟩
    | some d => exact sendAlerts_shows (by decide) rfl _ _
  kept d ia := by cases d <;> rfl

/-! ### The demand agent -/

/-- What was ordered and what of it is delivered, over the orders of a snapshot. -/
def totalOrdered (snapshot : Snapshot) : Int := (snapshot.orders.map fun o => o.qty).sum
def totalDelivered (snapshot : Snapshot) : Int := (snapshot.orders.map fun o => o.delivered).sum

/-- The share of what was ordered that is delivered; all of it where nothing was. -/
def deliveryRate (snapshot : Snapshot) : ℚ :=
  if totalOrdered snapshot = 0 then 1 else totalDelivered snapshot / totalOrdered snapshot

/-- The mean order beside what the line makes in a day of 480 cycles, at most 1.5. -/
def capacityUse (snapshot : Snapshot) : ℚ :=
  if 0 < snapshot.cycle then
    let mean : ℚ := totalOrdered snapshot / max 1 snapshot.orders.length
    let made : ℚ := snapshot.totalProduced / snapshot.cycle * 480
    min (3/2) (mean / max 1 made)
  else 0

theorem senseOrders_totalDemand (fgStock : Int) (orders : List OrderData) (obs : DemandObservation) :
    (orders.foldl (DemandAgent.senseOrder fgStock) obs).totalDemand =
      obs.totalDemand + (orders.map fun o => o.qty).sum := by
  have horder : ∀ obs o, (DemandAgent.senseOrder fgStock obs o).totalDemand =
      obs.totalDemand + o.qty := by
    intro obs o
    unfold DemandAgent.senseOrder
    dsimp only
    split <;> split <;> rfl
  induction orders generalizing obs with
  | nil => exact (Int.add_zero _).symm
  | cons o orders ih =>
    rw [List.foldl_cons, ih, horder, List.map_cons, List.sum_cons, Int.add_assoc]

/-- The agent keeps the use of the capacity. -/
theorem demand_sense_capacity (da : DemandAgent) (snapshot : Snapshot) :
    (da.sense snapshot).1.capacityUtil = capacityUse snapshot := by
  change (DemandAgent.observe snapshot).capacityUtilization = _
  unfold DemandAgent.observe
  dsimp only
  rw [senseOrders_totalDemand, Int.zero_add]
  change DemandAgent.capacityOf snapshot (totalOrdered snapshot) = _
  unfold DemandAgent.capacityOf capacityUse
  by_cases hcycle : 0 < snapshot.cycle
  · have hone : max 1 snapshot.cycle = snapshot.cycle := max_eq_right hcycle
    rw [if_pos hcycle, if_pos hcycle, hone]
    cases horders : snapshot.orders with
    | nil => simp [totalOrdered, horders]
    | cons o orders => simp
  · rw [if_neg hcycle, if_neg hcycle]

theorem demand_assess_outbox (base : BaseAgent DemandDecision) (obs : DemandObservation) :
    (DemandAgent.assess base obs).2.outbox = base.outbox := by
  have hrisk : ∀ (r : DemandAgent.Reasoning) risk,
      (DemandAgent.reasonRisk r risk).2.outbox = r.2.outbox := fun _ _ => rfl
  have honTime : ∀ r : DemandAgent.Reasoning,
      (DemandAgent.reasonOnTime obs r).2.outbox = r.2.outbox := by
    intro r
    unfold DemandAgent.reasonOnTime
    dsimp only
    split <;> rfl
  have hcapacity : ∀ r : DemandAgent.Reasoning,
      (DemandAgent.reasonCapacity obs r).2.outbox = r.2.outbox := by
    intro r
    unfold DemandAgent.reasonCapacity
    dsimp only
    split <;> rfl
  unfold DemandAgent.assess
  exact (hcapacity _).trans ((honTime _).trans (loop_outbox hrisk _ _))

theorem demand_announces :
    Announces DemandAgent.agentClass (fun da => da.base.outbox)
      (fun da => da.capacityUtil) "on_time_rate" (fun q => .float (.fin q)) where
  sense _ _ := rfl
  reason obs da := by
    have hbase := demand_assess_outbox da.base obs
    change ((da.reason obs).2.base.outbox,(da.reason obs).2.capacityUtil) = _
    unfold DemandAgent.reason
    dsimp only
    split <;> exact congrArg (·,da.capacityUtil) hbase
  record _ _ := rfl
  act d da := by
    cases d with
    | none => exact ⟨[],(List.append_nil _).symm,by simp⟩
    | some d => exact sendAlerts_shows (by decide) rfl _ _
  kept d da := by cases d <;> rfl

/-! ### Alerts of the four agents -/

section
variable (printer : Printer) (root : ℚ → ℚ) (history : List Snapshot) (snapshot : Snapshot)

def equipmentAfter : EquipmentAgent := afterHistory (EquipmentAgent.agentClass printer) .new history

def qualityAfter : QualityAgent := afterHistory (QualityAgent.agentClass root) .new history

def equipmentAlerts : List SentMessage :=
  alertsSent (fun ea => ea.base.outbox) (EquipmentAgent.agentClass printer)
    (equipmentAfter printer history) snapshot

def qualityAlerts : List SentMessage :=
  alertsSent (fun qa => qa.base.outbox) (QualityAgent.agentClass root)
    (qualityAfter root history) snapshot

def inventoryAlerts : List SentMessage :=
  alertsSent (fun ia => ia.base.outbox) InventoryAgent.agentClass
    (afterHistory InventoryAgent.agentClass .new history) snapshot

def demandAlerts : List SentMessage :=
  alertsSent (fun da => da.base.outbox) DemandAgent.agentClass
    (afterHistory DemandAgent.agentClass .new history) snapshot

/-- The figures of an alert are those of the cycle that sent it, by agent. -/
def CarriesEstimates (m : SentMessage) : Prop :=
  Shows "rul_estimates" (observedEstimates (equipmentAfter printer history) snapshot) m

def CarriesCpk (m : SentMessage) : Prop :=
  Shows "cpk_summary" (observedCpk root (qualityAfter root history) snapshot) m

def CarriesBottleneck (m : SentMessage) : Prop :=
  Assoc.get m.body "bottleneck" =
    some (stationFigure (InventoryAgent.observe snapshot).bottleneck)

def CarriesRate (m : SentMessage) : Prop :=
  Assoc.get m.body "on_time_rate" = some (.float (.fin (deliveryRate snapshot)))

/-- Every alert of the four agents carries the figures of its cycle. -/
def AlertsCarry : Prop :=
  (∀ m ∈ equipmentAlerts printer history snapshot, CarriesEstimates printer history snapshot m) ∧
  (∀ m ∈ qualityAlerts root history snapshot, CarriesCpk root history snapshot m) ∧
  (∀ m ∈ inventoryAlerts history snapshot, CarriesBottleneck snapshot m) ∧
  (∀ m ∈ demandAlerts history snapshot, CarriesRate snapshot m)

end

section
variable {printer : Printer} {root : ℚ → ℚ} {history : List Snapshot} {snapshot : Snapshot}
  {m : SentMessage}

/-- An estimate of an earlier cycle stays for a station that the snapshot does not have. -/
theorem equipment_alert_iff (hm : m ∈ equipmentAlerts printer history snapshot) :
    CarriesEstimates printer history snapshot m ↔
      ∀ s ∈ history, stationIds s ⊆ stationIds snapshot := by
  have hcycle : ∀ ea s, ∃ e : Dict, e.map Prod.fst = stationIds s ∧
      floatDict ((EquipmentAgent.agentClass printer).afterCycle ea s).rulEstimates =
        Assoc.update (floatDict ea.rulEstimates) e ∧
      observedEstimates ea s = Assoc.update [] e := by
    intro ea s
    obtain ⟨e,hkeys,hwrites⟩ := equipment_writes ea s
    have hafter := ((equipment_announces printer).cycle ea s).1
    refine ⟨e,hkeys,?_,hwrites []⟩
    exact (congrArg floatDict hafter).trans (hwrites ea.rulEstimates)
  have hshown := (equipment_announces printer).alert hm
  rw [← ((equipment_announces printer).cycle _ _).1] at hshown
  exact shows_iff_kept (fun ea => floatDict ea.rulEstimates) hcycle rfl history snapshot hshown

/-- So does the capability of a channel that the snapshot does not have. -/
theorem quality_alert_iff (hm : m ∈ qualityAlerts root history snapshot) :
    CarriesCpk root history snapshot m ↔
      ∀ s ∈ history, limitedChannels s ⊆ limitedChannels snapshot := by
  have hcycle : ∀ qa s, ∃ e : Dict, e.map Prod.fst = limitedChannels s ∧
      lastFigures ((QualityAgent.agentClass root).afterCycle qa s).cpkHistory =
        Assoc.update (lastFigures qa.cpkHistory) e ∧
      observedCpk root qa s = Assoc.update [] e := by
    intro qa s
    obtain ⟨e,hkeys,hwrites⟩ := quality_writes root qa s
    have hafter := ((quality_announces root).cycle qa s).1
    have hsense : (finalState ((QualityAgent.agentClass root).sense s qa)).cpkHistory =
        (QualityAgent.collect root qa s).1.cpkHistory :=
      congrArg QualityAgent.cpkHistory (quality_sense_final root qa s)
    refine ⟨e,hkeys,?_,hwrites []⟩
    exact (congrArg lastFigures (hafter.trans hsense)).trans (hwrites qa.cpkHistory)
  have hshown := (quality_announces root).alert hm
  rw [← ((quality_announces root).cycle _ _).1] at hshown
  exact shows_iff_kept (fun qa => lastFigures qa.cpkHistory) hcycle rfl history snapshot hshown

theorem inventory_alert (hm : m ∈ inventoryAlerts history snapshot) :
    CarriesBottleneck snapshot m := inventory_announces.alert hm

/-- What a demand alert calls a delivery rate is the use of the capacity. -/
theorem demand_alert_iff (hm : m ∈ demandAlerts history snapshot) :
    CarriesRate snapshot m ↔ capacityUse snapshot = deliveryRate snapshot := by
  have hshown := demand_announces.alert hm
  have hsense := demand_sense_capacity (afterHistory DemandAgent.agentClass .new history) snapshot
  unfold CarriesRate
  rw [hshown]
  change some (Val.float (.fin ((DemandAgent.sense _ snapshot).1.capacityUtil))) = _ ↔ _
  rw [hsense, Option.some.injEq, Val.float.injEq, PyFloat.fin.injEq]

end

/-- An order of 100 of which half is delivered, with nothing in stock. -/
def halfDelivered : Snapshot :=
  { cycle := 1, stations := [], fgStock := 0, totalProduced := 1, scrapCount := 0, materials := []
    wip := [], orders := [⟨"PO-1","현대자동차",100,50,50,"일반"⟩], businessEvents := [] }

end ManufacturingMas.Proofs.AlertFigures
