import ManufacturingMas.Agents.DemandAgent
import ManufacturingMas.Agents.EquipmentAgent
import ManufacturingMas.Agents.InventoryAgent
import ManufacturingMas.Agents.QualityAgent
import ManufacturingMas.Agents.SupplyAgent
import ManufacturingMas.Lib.Runs

/-! What the agents keep of their cycles, and how long it gets. -/

namespace ManufacturingMas.Proofs.AgentMemory
open Py Agents FactorySnapshot History Stateful

/-! ### The two logs of the base class -/

/-- The logs that the base class cuts. -/
def LogsCut {δ : Type} (b : BaseAgent δ) : Prop :=
  b.reasoningLog.length ≤ 50 ∧ b.decisions.length ≤ 100

section
variable {δ : Type} {b : BaseAgent δ}

theorem LogsCut.new : LogsCut (.new : BaseAgent δ) := ⟨by simp [BaseAgent.new],by simp [BaseAgent.new]⟩

theorem LogsCut.log (h : LogsCut b) (text : String) : LogsCut (b.logReasoning text) :=
  ⟨Ring.length_push_le 50 _ text,h.2⟩

theorem LogsCut.decision (h : LogsCut b) (d : δ) : LogsCut (b.recordDecision d) :=
  ⟨h.1,Ring.length_push_le 100 _ d⟩

theorem LogsCut.alerts (h : LogsCut b) (agentId : String) (extra : Dict)
    (alerts : List AgentAlert) : LogsCut (b.sendAlerts agentId extra alerts) := by
  obtain ⟨hlog,hdecisions⟩ := BaseAgent.sendAlerts_logs agentId extra alerts b
  unfold LogsCut
  rw [hlog, hdecisions]
  exact h

/-- What every step of a reasoning loop cuts, the loop cuts. -/
theorem LogsCut.loop {ρ α : Type} {f : ρ × BaseAgent δ → α → ρ × BaseAgent δ}
    (keep : ∀ r x, LogsCut r.2 → LogsCut (f r x).2) (xs : List α) {r : ρ × BaseAgent δ}
    (h : LogsCut r.2) : LogsCut (xs.foldl f r).2 :=
  List.foldlRecOn (motive := fun r => LogsCut r.2) xs f h fun r hr x _ => keep r x hr

end

/-! ### The equipment agent -/

/-- All that the equipment agent cuts. -/
def EquipmentCut (ea : EquipmentAgent) : Prop :=
  LogsCut ea.base ∧ Within 200 ea.trendHistory

theorem scanSensor_within {station stationType : String} {scan : EquipmentAgent.StationScan}
    (h : Within 200 scan.trendHistory) (sensor : String × SensorData) :
    Within 200 (EquipmentAgent.scanSensor station stationType scan sensor).trendHistory := by
  unfold EquipmentAgent.scanSensor
  dsimp only
  split <;> split <;> split <;> exact record_within h _ _

theorem equipment_sense {ea : EquipmentAgent} (h : EquipmentCut ea) (snapshot : Snapshot) :
    EquipmentCut (ea.sense snapshot).1 := by
  refine List.foldlRecOn (motive := fun (r : EquipmentAgent × EquipmentObservation) =>
    EquipmentCut r.1) _ _ h fun r hr station _ => ?_
  refine ⟨hr.1,?_⟩
  exact List.foldlRecOn (motive := fun (scan : EquipmentAgent.StationScan) =>
    Within 200 scan.trendHistory) _ _ hr.2 fun _ hscan sensor _ => scanSensor_within hscan sensor

theorem equipment_assess (printer : Printer) {base : BaseAgent EquipmentDecision}
    (h : LogsCut base) (obs : EquipmentObservation) :
    LogsCut (EquipmentAgent.assess printer base obs).2 := by
  have halarm : ∀ (r : EquipmentAgent.Reasoning) alarm, LogsCut r.2 →
      LogsCut (EquipmentAgent.reasonAlarm printer r alarm).2 := by
    intro r alarm hr
    unfold EquipmentAgent.reasonAlarm
    dsimp only
    split
    · exact hr.log _
    · split
      · exact hr.log _
      · exact hr
  have htool : ∀ (r : EquipmentAgent.Reasoning) tw, LogsCut r.2 →
      LogsCut (EquipmentAgent.reasonTool r tw).2 := by
    intro r tw hr
    unfold EquipmentAgent.reasonTool
    dsimp only
    split
    · exact hr.log _
    · exact hr
  have hhealth : ∀ (r : EquipmentAgent.Reasoning) health, LogsCut r.2 →
      LogsCut (EquipmentAgent.reasonHealth r health).2 := by
    intro r health hr
    unfold EquipmentAgent.reasonHealth
    dsimp only
    split
    · exact hr.log _
    · exact hr
  unfold EquipmentAgent.assess
  have halarmed := LogsCut.loop halarm obs.alarms (r := (⟨[],[],[],"LOW"⟩, base)) h
  have htooled := LogsCut.loop htool obs.toolWarnings halarmed
  exact LogsCut.loop hhealth _ htooled

theorem equipment_cycle (printer : Printer) {ea : EquipmentAgent} (h : EquipmentCut ea)
    (snapshot : Snapshot) :
    EquipmentCut ((EquipmentAgent.agentClass printer).afterCycle ea snapshot) := by
  refine AgentClass.afterCycle_keeps (P := EquipmentCut) (fun s ea hea => equipment_sense hea s) ?_
    (fun d ea hea => ⟨hea.1.decision d,hea.2⟩) ?_ h snapshot
  · intro obs ea hea
    have hbase := equipment_assess printer hea.1 obs
    change EquipmentCut (ea.reason printer obs).2
    unfold EquipmentAgent.reason
    dsimp only
    split
    · exact ⟨hbase.log _,hea.2⟩
    · exact ⟨hbase,hea.2⟩
  · intro decision ea hea
    cases decision with
    | none => exact hea
    | some d => exact ⟨hea.1.alerts _ _ _,hea.2⟩

/-! ### The quality agent -/

/-- All that the quality agent cuts. -/
def QualityCut (qa : QualityAgent) : Prop :=
  LogsCut qa.base ∧ Within 200 qa.measurementHistory ∧ Within 50 qa.cpkHistory

theorem senseSensor_cut {root : ℚ → ℚ} {sid : String} {r : QualityAgent × QualityObservation}
    (h : QualityCut r.1) (sensor : String × SensorData) :
    QualityCut (QualityAgent.senseSensor root sid r sensor).1 := by
  obtain ⟨hlogs,hmeasured,hcpk⟩ := h
  unfold QualityAgent.senseSensor
  dsimp only
  cases Assoc.get QualityAgent.specLimits s!"{sid}.{sensor.1}" with
  | none => exact ⟨hlogs,record_within hmeasured _ _,hcpk⟩
  | some limits => exact ⟨hlogs,record_within hmeasured _ _,record_within hcpk _ _⟩

theorem senseStation_cut {root : ℚ → ℚ} {r : QualityAgent × QualityObservation}
    (h : QualityCut r.1) (station : String × StationData) :
    QualityCut (QualityAgent.senseStation root r station).1 := by
  unfold QualityAgent.senseStation
  dsimp only
  have hsensors := List.foldlRecOn (motive := fun (r : QualityAgent × QualityObservation) =>
    QualityCut r.1) station.2.sensors (QualityAgent.senseSensor root station.1)
    (b := (r.1, { r.2 with
      yieldByStation := Assoc.set r.2.yieldByStation station.1
        (roundTo 1 (station.2.oee.quality * 100)) })) h
    fun _ hr sensor _ => senseSensor_cut hr sensor
  split
  · exact hsensors
  · exact hsensors

theorem quality_sense (root : ℚ → ℚ) (snapshot : Snapshot) :
    Preserves QualityCut (QualityAgent.sense root snapshot) := by
  unfold QualityAgent.sense
  refine (preserves_modifyGet ?_).bind fun obs =>
    (preserves_ofExcept _).bind fun _ => preserves_pure _
  intro qa hqa
  exact List.foldlRecOn (motive := fun (r : QualityAgent × QualityObservation) =>
    QualityCut r.1) _ _ hqa fun _ hr station _ => senseStation_cut hr station

theorem quality_assess {qa : QualityAgent} (h : LogsCut qa.base) (obs : QualityObservation) :
    LogsCut (qa.assess obs).2 := by
  have hcpk : LogsCut (QualityAgent.assessCpk qa.inspectionMode obs qa.base).2 := by
    unfold QualityAgent.assessCpk
    dsimp only
    split
    · exact h
    · exact LogsCut.loop (f := QualityAgent.reasonCpk) (fun _ _ hr => hr.log _) _ h
  have hviolations := LogsCut.loop (f := QualityAgent.reasonViolation) (fun _ _ hr => hr.log _)
    obs.spcViolations hcpk
  unfold QualityAgent.assess QualityAgent.assessTrend
  dsimp only
  split
  · exact hviolations.log _
  · exact hviolations

theorem quality_cycle (root : ℚ → ℚ) {qa : QualityAgent} (h : QualityCut qa)
    (snapshot : Snapshot) :
    QualityCut ((QualityAgent.agentClass root).afterCycle qa snapshot) := by
  refine AgentClass.afterCycle_keeps (P := QualityCut) (quality_sense root) ?_
    (fun d qa hqa => ⟨hqa.1.decision d,hqa.2⟩) ?_ h snapshot
  · intro obs qa hqa
    have hbase := quality_assess hqa.1 obs
    change QualityCut (qa.reason obs).2
    unfold QualityAgent.reason
    dsimp only
    split
    · exact ⟨hbase.log _,hqa.2⟩
    · exact ⟨hbase,hqa.2⟩
  · intro decision qa hqa
    cases decision with
    | none => exact hqa
    | some d => exact ⟨hqa.1.alerts _ _ _,hqa.2⟩

/-! ### The supply agent -/

/-- All that the supply agent cuts. -/
def SupplyCut (sa : SupplyAgent) : Prop :=
  LogsCut sa.base ∧ Within 100 sa.consumptionHistory

theorem senseMaterials_cut (obs : SupplyObservation) (materials : List (String × MaterialData)) :
    Preserves SupplyCut (SupplyAgent.senseMaterials obs materials) := by
  have hmaterial : ∀ obs material,
      Preserves SupplyCut (SupplyAgent.senseMaterial obs material) := by
    intro obs material
    unfold SupplyAgent.senseMaterial
    refine (preserves_modify fun sa hsa => ⟨hsa.1,record_within hsa.2 _ _⟩).bind fun _ => ?_
    exact Preserves.bind (fun _ hs => hs) fun sa => preserves_ofExcept _
  induction materials generalizing obs with
  | nil => exact preserves_pure obs
  | cons material materials ih => exact (hmaterial obs material).bind ih

theorem supply_log (text : String) : Preserves SupplyCut (SupplyAgent.logReasoning text) :=
  preserves_modify fun _ hsa => ⟨hsa.1.log text,hsa.2⟩

theorem supply_reason (printer : Printer) (obs : SupplyObservation) :
    Preserves SupplyCut (SupplyAgent.reason printer obs) := by
  have hshortages : ∀ shortages d, Preserves SupplyCut (SupplyAgent.reasonShortages d shortages) := by
    intro shortages
    induction shortages with
    | nil => exact fun d => preserves_pure d
    | cons s shortages ih => exact fun d => (supply_log _).bind fun _ => ih _
  have hreorders : ∀ reorders d,
      Preserves SupplyCut (SupplyAgent.reasonReorders printer d reorders) := by
    intro reorders
    induction reorders with
    | nil => exact fun d => preserves_pure d
    | cons r reorders ih =>
      exact fun d => (preserves_ofExcept _).bind fun _ => (supply_log _).bind fun _ => ih _
  unfold SupplyAgent.reason
  refine (hshortages _ _).bind fun d => (hreorders _ d).bind fun d => ?_
  split
  · exact (supply_log _).bind fun _ => preserves_pure none
  · exact preserves_pure _

theorem supply_cycle (printer : Printer) {sa : SupplyAgent} (h : SupplyCut sa)
    (snapshot : Snapshot) :
    SupplyCut ((SupplyAgent.agentClass printer).afterCycle sa snapshot) := by
  refine AgentClass.afterCycle_keeps (P := SupplyCut)
    (fun s => senseMaterials_cut _ s.materials) (supply_reason printer)
    (fun d sa hsa => ⟨hsa.1.decision d,hsa.2⟩) ?_ h snapshot
  intro decision sa hsa
  cases decision with
  | none => exact hsa
  | some d => exact ⟨hsa.1.alerts _ _ _,hsa.2⟩

/-! ### The demand agent -/

theorem demand_assess {base : BaseAgent DemandDecision} (h : LogsCut base)
    (obs : DemandObservation) : LogsCut (DemandAgent.assess base obs).2 := by
  have hrisks := LogsCut.loop (f := DemandAgent.reasonRisk) (fun _ _ hr => hr.log _)
    obs.atRiskOrders (r := (⟨[],[],"LOW"⟩, base)) h
  have hontime : ∀ r : DemandAgent.Reasoning, LogsCut r.2 →
      LogsCut (DemandAgent.reasonOnTime obs r).2 := by
    intro r hr
    unfold DemandAgent.reasonOnTime
    dsimp only
    split
    · exact hr.log _
    · exact hr
  have hcapacity : ∀ r : DemandAgent.Reasoning, LogsCut r.2 →
      LogsCut (DemandAgent.reasonCapacity obs r).2 := by
    intro r hr
    unfold DemandAgent.reasonCapacity
    dsimp only
    split
    · exact hr.log _
    · exact hr
  unfold DemandAgent.assess
  dsimp only
  generalize obs.atRiskOrders.foldl DemandAgent.reasonRisk (⟨[],[],"LOW"⟩, base) = r at hrisks ⊢
  exact hcapacity _ (hontime (_, r.2) hrisks)

theorem demand_cycle {da : DemandAgent} (h : LogsCut da.base) (snapshot : Snapshot) :
    LogsCut (DemandAgent.agentClass.afterCycle da snapshot).base := by
  refine AgentClass.afterCycle_keeps (P := fun da : DemandAgent => LogsCut da.base)
    (fun s da hda => hda) ?_ (fun d da hda => hda.decision d) ?_ h snapshot
  · intro obs da hda
    have hbase := demand_assess hda obs
    change LogsCut (da.reason obs).2.base
    unfold DemandAgent.reason
    dsimp only
    split
    · exact hbase.log _
    · exact hbase
  · intro decision da hda
    cases decision with
    | none => exact hda
    | some d => exact hda.alerts _ _ _

/-! ### The inventory agent -/

/-- All that the inventory agent cuts. -/
def InventoryCut (ia : InventoryAgent) : Prop :=
  LogsCut ia.base ∧ Within 100 ia.wipHistory

theorem inventory_assess {base : BaseAgent InventoryDecision} (h : LogsCut base)
    (obs : InventoryObservation) : LogsCut (InventoryAgent.assess base obs).2 := by
  have hwip : ∀ (r : InventoryAgent.Reasoning) wa, LogsCut r.2 →
      LogsCut (InventoryAgent.reasonWip r wa).2 := by
    intro r wa hr
    unfold InventoryAgent.reasonWip
    dsimp only
    split
    · exact hr.log _
    · exact hr
  have hbottleneck : ∀ r : InventoryAgent.Reasoning, LogsCut r.2 →
      LogsCut (InventoryAgent.reasonBottleneck obs r).2 := by
    intro r hr
    unfold InventoryAgent.reasonBottleneck
    dsimp only
    split
    · exact hr
    · split
      · exact hr.log _
      · exact hr
  have hscrap : ∀ r : InventoryAgent.Reasoning, LogsCut r.2 →
      LogsCut (InventoryAgent.reasonScrap obs r).2 := by
    intro r hr
    unfold InventoryAgent.reasonScrap
    dsimp only
    split
    · exact hr.log _
    · exact hr
  exact hscrap _ (hbottleneck _ (LogsCut.loop hwip obs.wipAlerts h))

theorem inventory_cycle {ia : InventoryAgent} (h : InventoryCut ia) (snapshot : Snapshot) :
    InventoryCut (InventoryAgent.agentClass.afterCycle ia snapshot) := by
  refine AgentClass.afterCycle_keeps (P := InventoryCut) ?_ ?_
    (fun d ia hia => ⟨hia.1.decision d,hia.2⟩) ?_ h snapshot
  · intro s ia hia
    exact ⟨hia.1,List.foldlRecOn _ _ hia.2 fun _ hd _ _ => record_within hd _ _⟩
  · intro obs ia hia
    have hbase := inventory_assess hia.1 obs
    change InventoryCut (ia.reason obs).2
    unfold InventoryAgent.reason
    dsimp only
    split
    · exact ⟨hbase.log _,hia.2⟩
    · exact ⟨hbase,hia.2⟩
  · intro decision ia hia
    cases decision with
    | none => exact hia
    | some d => exact ⟨hia.1.alerts _ _ _,hia.2⟩

/-! ### Any number of cycles -/

structure Crew where
  equipment : EquipmentAgent
  quality : QualityAgent
  supply : SupplyAgent
  demand : DemandAgent
  inventory : InventoryAgent

def Crew.new : Crew :=
  { equipment := .new, quality := .new, supply := .new, demand := .new, inventory := .new }

/-- A cycle of one of the agents, with the snapshot it is given. -/
inductive AgentCycle where
  | equipment (snapshot : Snapshot)
  | quality (snapshot : Snapshot)
  | supply (snapshot : Snapshot)
  | demand (snapshot : Snapshot)
  | inventory (snapshot : Snapshot)

def AgentCycle.isInventory : AgentCycle → Bool
  | .inventory _ => true
  | _ => false

def Crew.cycle (printer : Printer) (root : ℚ → ℚ) (crew : Crew) : AgentCycle → Crew
  | .equipment s =>
    { crew with equipment := (EquipmentAgent.agentClass printer).afterCycle crew.equipment s }
  | .quality s => { crew with quality := (QualityAgent.agentClass root).afterCycle crew.quality s }
  | .supply s => { crew with supply := (SupplyAgent.agentClass printer).afterCycle crew.supply s }
  | .demand s => { crew with demand := DemandAgent.agentClass.afterCycle crew.demand s }
  | .inventory s => { crew with inventory := InventoryAgent.agentClass.afterCycle crew.inventory s }

/-- All that the agents cut. -/
structure Cut (crew : Crew) : Prop where
  equipment : EquipmentCut crew.equipment
  quality : QualityCut crew.quality
  supply : SupplyCut crew.supply
  demand : LogsCut crew.demand.base
  inventory : InventoryCut crew.inventory

theorem new_cut : Cut .new := by
  have hnone : ∀ {α : Type} (size : Nat), Within size ([] : List (String × List α)) :=
    fun _ _ h => by cases h
  exact ⟨⟨.new,hnone 200⟩,⟨.new,hnone 200,hnone 50⟩,⟨.new,hnone 100⟩,.new,⟨.new,hnone 100⟩⟩

theorem cycle_cut {printer : Printer} {root : ℚ → ℚ} (crew : Crew) (e : AgentCycle)
    (h : Cut crew) : Cut (crew.cycle printer root e) := by
  cases e with
  | equipment s => exact { h with equipment := equipment_cycle printer h.equipment s }
  | quality s => exact { h with quality := quality_cycle root h.quality s }
  | supply s => exact { h with supply := supply_cycle printer h.supply s }
  | demand s => exact { h with demand := demand_cycle h.demand s }
  | inventory s => exact { h with inventory := inventory_cycle h.inventory s }

/-- Each cycle adds its throughput to the history. -/
theorem throughputHistory_cycle (ia : InventoryAgent) (s : Snapshot) :
    (InventoryAgent.agentClass.afterCycle ia s).throughputHistory =
      ia.throughputHistory ++ [s.totalProduced] := by
  refine Moves.bind (π := fun ia : InventoryAgent => ia.throughputHistory)
    (g := (· ++ [s.totalProduced])) (fun _ => rfl) (fun obs => ?_) ia
  have hreason : Keeps (fun ia : InventoryAgent => ia.throughputHistory)
      (InventoryAgent.agentClass.reason obs) := by
    intro ia
    change (ia.reason obs).2.throughputHistory = ia.throughputHistory
    unfold InventoryAgent.reason
    dsimp only
    split <;> rfl
  have hact : ∀ d, Keeps (fun ia : InventoryAgent => ia.throughputHistory)
      (InventoryAgent.agentClass.act d) := by
    intro d ia
    cases d <;> rfl
  refine hreason.bind fun d => ?_
  cases d with
  | none => exact (keeps_pure ()).bind fun _ => (hact none).bind fun _ => keeps_pure none
  | some d =>
    exact Keeps.bind (fun _ => rfl) fun _ => (hact (some d)).bind fun _ => keeps_pure (some d)

theorem throughputHistory_run (printer : Printer) (root : ℚ → ℚ) (crew : Crew)
    (es : List AgentCycle) :
    (Runs.run (Crew.cycle printer root) crew es).inventory.throughputHistory.length =
      crew.inventory.throughputHistory.length + es.countP AgentCycle.isInventory := by
  induction es generalizing crew with
  | nil => rfl
  | cons e es ih =>
    rw [Runs.run_cons, ih, List.countP_cons]
    cases e with
    | inventory s =>
      have hcycle : (crew.cycle printer root (.inventory s)).inventory.throughputHistory =
          crew.inventory.throughputHistory ++ [s.totalProduced] := throughputHistory_cycle _ s
      rw [hcycle, List.length_append]
      simp [AgentCycle.isInventory]
      omega
    | _ s => rfl

/-- A snapshot of a store with one material, of which nothing is left. -/
def emptyStore : Snapshot :=
  { cycle := 1, stations := [], fgStock := 0, totalProduced := 0, scrapCount := 0
    materials := [("볼트", ⟨0,3000,some 0,true⟩)], wip := [], orders := [], businessEvents := [] }

def emptyShortage : Shortage := ⟨"볼트",0,3000,some 0⟩

/-- The agent has never seen any bolts. -/
def BoltsGone (sa : SupplyAgent) : Prop := ∀ n ∈ entries sa.consumptionHistory "볼트", n = 0

theorem decreases_zeros {history : List Int} (h : ∀ n ∈ history, n = 0) :
    SupplyAgent.decreases history = [] := by
  induction history with
  | nil => rfl
  | cons x history ih =>
    obtain ⟨hx,hrest⟩ := List.forall_mem_cons.mp h
    cases history with
    | nil => rfl
    | cons y rest =>
      have hy := hrest y List.mem_cons_self
      unfold SupplyAgent.decreases
      rw [if_neg (by omega), ih hrest]

theorem push_zeros {history : List Int} (h : ∀ n ∈ history, n = 0) :
    ∀ n ∈ Ring.push 100 history 0, n = 0 := by
  intro n hn
  rcases List.mem_append.mp ((Ring.rtake_suffix 100 _).subset hn) with hold | hnew
  · exact h n hold
  · exact List.mem_singleton.mp hnew

theorem emptyStore_sense {sa : SupplyAgent} (h : BoltsGone sa) :
    SupplyAgent.sense emptyStore sa =
      .ok ⟨[("볼트", ⟨0,3000,some 0,"위험",.fin 0⟩)],[emptyShortage],[]⟩ (sa.recordStock "볼트" 0) := by
  have hrate : SupplyAgent.calcConsumptionRate
      (Ring.push 100 (entries sa.consumptionHistory "볼트") 0) = .ok (.fin 0) := by
    unfold SupplyAgent.calcConsumptionRate
    rw [decreases_zeros (push_zeros h)]
    exact ite_self _
  have hjudge : SupplyAgent.judgeMaterial ⟨[],[],[]⟩ "볼트" ⟨0,3000,some 0,true⟩
      (Ring.push 100 (entries sa.consumptionHistory "볼트") 0) =
        .ok ⟨[("볼트", ⟨0,3000,some 0,"위험",.fin 0⟩)],[emptyShortage],[]⟩ := by
    unfold SupplyAgent.judgeMaterial
    rw [hrate]
    decide +kernel
  change (SupplyAgent.senseMaterial _ _ >>= _) sa = _
  rw [bind_apply, SupplyAgent.senseMaterial_apply, hjudge]
  rfl

/-- An empty store is ordered for, and alerted to, in every cycle. -/
theorem emptyStore_cycle (printer : Printer) {sa : SupplyAgent} (h : BoltsGone sa) :
    let sa' := (SupplyAgent.agentClass printer).afterCycle sa emptyStore
    sa'.reorderLog = sa.reorderLog ++ [SupplyAgent.shortageReorder emptyShortage] ∧
      (∃ message, sa'.base.outbox = sa.base.outbox ++ [message]) ∧ BoltsGone sa' := by
  have hsense : (SupplyAgent.agentClass printer).sense emptyStore sa = _ := emptyStore_sense h
  unfold AgentClass.afterCycle AgentClass.runCycle
  rw [bind_apply, hsense]
  refine ⟨by with_unfolding_all rfl,⟨_,by with_unfolding_all rfl⟩,?_⟩
  change ∀ n ∈ entries (History.record 100 sa.consumptionHistory "볼트" 0) "볼트", n = 0
  rw [History.entries_record_self]
  exact push_zeros h

theorem emptyStore_run (printer : Printer) (root : ℚ → ℚ) {crew : Crew} (h : BoltsGone crew.supply)
    (n : Nat) :
    let sa' := (Runs.run (Crew.cycle printer root) crew
      (List.replicate n (.supply emptyStore))).supply
    sa'.reorderLog.length = crew.supply.reorderLog.length + n ∧
      sa'.base.outbox.length = crew.supply.base.outbox.length + n := by
  induction n generalizing crew with
  | zero => exact ⟨rfl,rfl⟩
  | succ n ih =>
    obtain ⟨hreorders,⟨message,houtbox⟩,hgone⟩ := emptyStore_cycle printer h
    have hgone' : BoltsGone (crew.cycle printer root (.supply emptyStore)).supply := hgone
    obtain ⟨hreorders',houtbox'⟩ := ih hgone'
    rw [List.replicate_succ, Runs.run_cons]
    constructor
    · rw [hreorders']
      change ((SupplyAgent.agentClass printer).afterCycle crew.supply emptyStore).reorderLog.length
        + n = _
      rw [hreorders, List.length_append, List.length_singleton]
      omega
    · rw [houtbox']
      change ((SupplyAgent.agentClass printer).afterCycle crew.supply emptyStore).base.outbox.length
        + n = _
      rw [houtbox, List.length_append, List.length_singleton]
      omega

def BaseWithin {δ : Type} (size : Nat) (b : BaseAgent δ) : Prop :=
  b.outbox.length ≤ size ∧ b.reasoningLog.length ≤ size ∧ b.decisions.length ≤ size

/-- Every history has at most `size` entries, under each of its keys. -/
structure MemoryWithin (size : Nat) (crew : Crew) : Prop where
  bases : BaseWithin size crew.equipment.base ∧ BaseWithin size crew.quality.base ∧
    BaseWithin size crew.supply.base ∧ BaseWithin size crew.demand.base ∧
    BaseWithin size crew.inventory.base
  throughput : crew.inventory.throughputHistory.length ≤ size
  wip : Within size crew.inventory.wipHistory
  reorders : crew.supply.reorderLog.length ≤ size
  consumption : Within size crew.supply.consumptionHistory
  measurement : Within size crew.quality.measurementHistory
  cpk : Within size crew.quality.cpkHistory
  trend : Within size crew.equipment.trendHistory

/-- More cycles of the inventory agent than `size` are too many. -/
theorem not_memoryWithin (printer : Printer) (root : ℚ → ℚ) (size : Nat) {es : List AgentCycle}
    (h : size < es.countP AgentCycle.isInventory) :
    ¬ MemoryWithin size (Runs.run (Crew.cycle printer root) .new es) := by
  intro hwithin
  have hlength := throughputHistory_run printer root .new es
  have hthroughput := hwithin.throughput
  have hnew : Crew.new.inventory.throughputHistory.length = 0 := rfl
  omega

/-- What the agents cut stays cut over any number of cycles, in any order. The history of
throughputs has an entry for every cycle of the inventory agent, the log of reorders and
the outbox of the supply agent can get one in each of its cycles, and so no bound holds. -/
theorem memory_never_bounded (printer : Printer) (root : ℚ → ℚ) :
    let after := Runs.run (Crew.cycle printer root) .new
    (∀ es, Cut (after es)) ∧
    (∀ es, (after es).inventory.throughputHistory.length = es.countP AgentCycle.isInventory) ∧
    (∀ n, ∃ es, es.length = n ∧ (after es).supply.reorderLog.length = n ∧
      (after es).supply.base.outbox.length = n) ∧
    ∀ size, ∃ es, ¬ MemoryWithin size (after es) := by
  intro after
  refine ⟨fun es => Runs.run_invariant cycle_cut new_cut,fun es => ?_,fun n => ?_,fun size => ?_⟩
  · exact (throughputHistory_run printer root .new es).trans (Nat.zero_add _)
  · have hnew : BoltsGone Crew.new.supply := fun n hn => by cases hn
    obtain ⟨hreorders,houtbox⟩ := emptyStore_run printer root hnew n
    exact ⟨_,List.length_replicate,hreorders.trans (Nat.zero_add n),houtbox.trans (Nat.zero_add n)⟩
  · refine ⟨List.replicate (size + 1) (.inventory emptyStore),?_⟩
    refine not_memoryWithin printer root size ?_
    rw [List.countP_replicate]
    exact Nat.lt_succ_self size

/-- No bound holds for all runs. -/
theorem no_memory_bound :
    let printer : Printer := .blank
    let root : ℚ → ℚ := fun q => Nat.sqrt ⌊q * 10 ^ 12⌋.toNat / 10 ^ 6
    ¬ ∃ size, ∀ es, MemoryWithin size (Runs.run (Crew.cycle printer root) .new es) := by
  rintro _ _ ⟨size,h⟩
  refine not_memoryWithin _ _ size ?_ (h (List.replicate (size + 1) (.inventory emptyStore)))
  rw [List.countP_replicate]
  exact Nat.lt_succ_self size

end ManufacturingMas.Proofs.AgentMemory
