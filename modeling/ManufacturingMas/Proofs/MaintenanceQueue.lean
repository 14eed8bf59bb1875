import ManufacturingMas.Lib.Runs
import ManufacturingMas.Proofs.EquipmentDuties
import ManufacturingMas.Proofs.MetricNumbers

/-! What maintenance the equipment agent proposes after its cycles. -/

namespace ManufacturingMas.Proofs.MaintenanceQueue
open Py Agents FactorySnapshot EquipmentAgent EquipmentDuties MetricNumbers

/-! ### A proposal -/

/-- A proposal whose metrics are all floats has a comparison block. -/
theorem normalize_floats (printer : Printer) {raw : Dict}
    (h : ∀ p ∈ ScoreParts.merged raw, ∃ x, p.2 = Val.float x) :
    ∃ block, normalizeComparisonMetrics printer raw = .ok block := by
  apply normalize_ok
  intro axis
  obtain ⟨k,_,hread⟩ := firstOf_mem (ScoreParts.merged raw) axis.key axis.aliases
  unfold normalizedAxis Axis.read
  rw [hread]
  cases hget : Assoc.get (ScoreParts.merged raw) k with
  | none =>
    rw [getD_of_none hget]
    exact ⟨_,rfl⟩
  | some v =>
    obtain ⟨x,rfl⟩ : ∃ x, v = Val.float x := h _ (Assoc.mem_of_get hget)
    rw [getD_of_some hget]
    exact ⟨x,rfl⟩

theorem handleCfp_queue (printer : Printer) (ea : EquipmentAgent) :
    ∃ proposal, ea.handleCfp printer = .ok proposal ∧ Assoc.get proposal "maintenance_needed" =
      some (.list (ea.maintenanceQueue.map fun m => .dict m.toDict)) := by
  unfold handleCfp mergeIntoProposal
  dsimp only
  generalize hraw : ([("agent", Val.str "EA"), _, _, _, _, _, _] : Dict) = raw
  have hget : Assoc.get raw "maintenance_needed" =
      some (.list (ea.maintenanceQueue.map fun m => .dict m.toDict)) := by
    rw [← hraw]
    simp
  obtain ⟨block,hblock⟩ : ∃ block, normalizeComparisonMetrics printer raw = .ok block := by
    apply normalize_floats
    rw [← hraw]
    simp [ScoreParts.merged, getD, Val.asDict, Assoc.update]
  rw [hblock]
  refine ⟨_,rfl,?_⟩
  rw [Assoc.get_set_of_ne (by decide)]
  exact hget

theorem toDict_injective : Function.Injective fun m : MaintenanceAction => Val.dict m.toDict := by
  intro m n h
  obtain ⟨station,action,reason⟩ := m
  obtain ⟨station',action',reason'⟩ := n
  simpa [MaintenanceAction.toDict] using h

/-! ### Cycles -/

/-- The agent, and the maintenance actions that its latest assessment has found. -/
structure Shift where
  agent : EquipmentAgent
  found : List MaintenanceAction

def Shift.start : Shift := { agent := .new, found := [] }

/-- One cycle of sensing, reasoning and acting. -/
def Shift.cycle (printer : Printer) (s : Shift) (snapshot : Snapshot) : Shift :=
  let (sensed, obs) := s.agent.sense snapshot
  { agent := (agentClass printer).afterCycle s.agent snapshot
    found := (assess printer sensed.base obs).1.maintenanceActions }

/-- A proposal asks for the maintenance that was found last. -/
def Current (printer : Printer) (s : Shift) : Prop :=
  ∃ proposal, s.agent.handleCfp printer = .ok proposal ∧
    Assoc.get proposal "maintenance_needed" =
      some (.list (s.found.map fun m => .dict m.toDict))

theorem current_iff (printer : Printer) (s : Shift) :
    Current printer s ↔ s.agent.maintenanceQueue = s.found := by
  obtain ⟨proposal,hproposal,hqueue⟩ := handleCfp_queue printer s.agent
  have hmap : ∀ ms ns : List MaintenanceAction,
      (some (Val.list (ms.map fun m => .dict m.toDict)) =
        some (.list (ns.map fun m => .dict m.toDict))) ↔ ms = ns := by
    intro ms ns
    rw [Option.some.injEq, Val.list.injEq]
    exact (List.map_injective_iff.mpr toDict_injective).eq_iff
  constructor
  · rintro ⟨proposal',hproposal',hfound⟩
    rw [hproposal] at hproposal'
    cases hproposal'
    rw [hqueue] at hfound
    exact (hmap _ _).mp hfound
  · intro heq
    exact ⟨proposal,hproposal,hqueue.trans ((hmap _ _).mpr heq)⟩

theorem sense_queue (ea : EquipmentAgent) (snapshot : Snapshot) :
    (ea.sense snapshot).1.maintenanceQueue = ea.maintenanceQueue :=
  Folds.foldl_invariant (f := senseStation)
    (I := fun _ (r : EquipmentAgent × EquipmentObservation) =>
      r.1.maintenanceQueue = ea.maintenanceQueue) (fun _ _ _ h => h) rfl _

theorem reason_queue (printer : Printer) (ea : EquipmentAgent) (obs : EquipmentObservation) :
    (ea.reason printer obs).2.maintenanceQueue = ea.maintenanceQueue := by
  unfold reason
  dsimp only
  split <;> rfl

/-- The queue after a cycle is that of the decision, if there is one. -/
theorem afterCycle_queue (printer : Printer) (ea : EquipmentAgent) (snapshot : Snapshot) :
    ((agentClass printer).afterCycle ea snapshot).maintenanceQueue =
      match ((ea.sense snapshot).1.reason printer (ea.sense snapshot).2).1 with
      | none => ea.maintenanceQueue
      | some d => d.maintenanceActions := by
  have hkept : ((ea.sense snapshot).1.reason printer (ea.sense snapshot).2).2.maintenanceQueue =
      ea.maintenanceQueue := (reason_queue printer _ _).trans (sense_queue ea snapshot)
  unfold AgentClass.afterCycle AgentClass.runCycle agentClass
  simp only [bind, EStateM.bind]
  cases ((ea.sense snapshot).1.reason printer (ea.sense snapshot).2).1 with
  | none => exact hkept
  | some d => rfl

/-- A cycle writes the queue exactly if it has found something. -/
theorem cycle_queue (printer : Printer) (s : Shift) (snapshot : Snapshot) :
    (s.cycle printer snapshot).agent.maintenanceQueue =
      if (s.cycle printer snapshot).found = [] then s.agent.maintenanceQueue
      else (s.cycle printer snapshot).found := by
  have hsome := reason_some_iff printer (s.agent.sense snapshot).1 (s.agent.sense snapshot).2
  unfold Shift.cycle
  dsimp only
  rw [afterCycle_queue]
  cases hdecision : ((s.agent.sense snapshot).1.reason printer (s.agent.sense snapshot).2).1 with
  | none =>
    have hempty : (assess printer (s.agent.sense snapshot).1.base
        (s.agent.sense snapshot).2).1.maintenanceActions = [] := by
      by_contra hne
      have hreturned := (hsome _).mpr ⟨hne,rfl⟩
      rw [hdecision] at hreturned
      cases hreturned
    rw [if_pos hempty]
  | some d =>
    obtain ⟨hne,rfl⟩ := (hsome d).mp hdecision
    rw [if_neg hne]

/-- No score is severe and no tool urgent. -/
def Quiet (ea : EquipmentAgent) (snapshot : Snapshot) : Prop :=
  (∀ s ∈ scores ea.trendHistory snapshot.stations, ¬ Severe s) ∧
    ∀ p ∈ snapshot.stations, ¬ p.2.toolLifePct < 5

theorem found_nil_iff (printer : Printer) (s : Shift) (snapshot : Snapshot) :
    (s.cycle printer snapshot).found = [] ↔ Quiet s.agent snapshot := by
  have h := not_congr (actions_ne_nil_iff printer s.agent snapshot)
  rw [not_ne_iff, not_or] at h
  refine h.trans ?_
  unfold Quiet
  push Not
  exact Iff.rfl

/-- A station that vibrates no more than usual, with a die that has this much of its life left. -/
def station (toolLifePct : ℚ) : StationData :=
  { name := "블랭킹 프레스", type := "PRESS", state := "가동", toolLifePct := toolLifePct
    toolRegion := "급격마모", oee := ⟨1,1,1,1⟩, mtbf := none, sensors := [] }

def lineAt (toolLifePct : ℚ) : Snapshot := ⟨1,[("WC-01", station toolLifePct)],0,0,0,[],[],[],[]⟩

end ManufacturingMas.Proofs.MaintenanceQueue
