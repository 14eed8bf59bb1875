import ManufacturingMas.Proofs.OrderBooks

/-! The figures that a scenario's run reports, and the histories and shipments they can be
recomputed from. -/

namespace ManufacturingMas.Proofs.ScenarioReport
open Py Machines Environment Inventory ManufacturingEnv ScenarioRuntime ScenarioEvents UnitBalance
  OrderBooks

variable {sc : ScenarioConfig} {wh : FinishedGoodsWarehouse} {cycle : Int}

/-! ### Shipments -/

/-- A shipment is of a batch at most, at a cycle that ships, and of no more than was requested. -/
structure Sound (sc : ScenarioConfig) (cycle : Int) (r : ShipmentRecord) : Prop where
  requested : 0 < r.requested ∧ r.requested ≤ sc.shipmentBatchSize
  shipped : 0 ≤ r.shipped ∧ 0 ≤ r.shortfall ∧ r.shipped + r.shortfall = r.requested
  cycle : r.cycle ≤ cycle ∧ r.cycle % max 1 sc.shipmentInterval = 0

/-- The totals of the warehouse are those of its shipments. -/
structure Ledger (sc : ScenarioConfig) (cycle : Int) (wh : FinishedGoodsWarehouse) : Prop where
  stock : 0 ≤ wh.stock
  requested : wh.totalRequested = (wh.shipments.map (·.requested)).sum
  shipped : wh.totalShipped = (wh.shipments.map (·.shipped)).sum
  records : ∀ r ∈ wh.shipments, Sound sc cycle r

theorem Ledger.later {cycle' : Int} (h : Ledger sc cycle wh) (hle : cycle ≤ cycle') :
    Ledger sc cycle' wh := by
  refine ⟨h.stock,h.requested,h.shipped,fun r hr => ?_⟩
  obtain ⟨hrequested,hshipped,hcycle,hinterval⟩ := h.records r hr
  exact ⟨hrequested,hshipped,hcycle.trans hle,hinterval⟩

theorem Ledger.ship (h : Ledger sc cycle wh) (customer : String) {qty : Int}
    (hqty : 0 < qty ∧ qty ≤ sc.shipmentBatchSize)
    (hinterval : cycle % max 1 sc.shipmentInterval = 0) :
    Ledger sc cycle (wh.ship customer qty cycle).2 := by
  have hstock := h.stock
  refine ⟨?_,?_,?_,?_⟩
  · rw [FinishedGoodsWarehouse.ship_stock]
    omega
  · change wh.totalRequested + qty = ((wh.shipments ++ [_]).map _).sum
    rw [List.map_append, List.sum_append, ← h.requested]
    simp
  · change wh.totalShipped + min qty wh.stock = ((wh.shipments ++ [_]).map _).sum
    rw [List.map_append, List.sum_append, ← h.shipped]
    simp
  · intro r hr
    rcases List.mem_append.mp hr with hold | hnew
    · exact h.records r hold
    · rw [List.mem_singleton.mp hnew]
      refine ⟨hqty,?_,le_refl _,hinterval⟩
      dsimp only
      omega

theorem shipOrders_ledger (h : Ledger sc cycle wh)
    (hinterval : cycle % max 1 sc.shipmentInterval = 0) (orders : List Demand.CustomerOrder) :
    Ledger sc cycle (shipOrders sc cycle orders wh).2 := by
  induction orders generalizing wh with
  | nil => exact h
  | cons o orders ih =>
    have hone : Ledger sc cycle (shipOrder sc cycle o wh).2 := by
      unfold shipOrder
      dsimp only
      split
      · exact h
      · rename_i hships
        simp only [Bool.or_eq_true, decide_eq_true_eq, not_or, not_le] at hships
        exact h.ship o.customer ⟨hships.2,min_le_left _ _⟩ hinterval
    exact ih hone

/-- What shipping leaves of a warehouse besides its units. -/
def histories (wh : FinishedGoodsWarehouse) : Int × List Int × List Int × List ℚ :=
  (wh.safetyStock,wh.stockHistory,wh.ssHistory,wh.serviceLevelHistory)

theorem shipOrders_histories (sc : ScenarioConfig) (cycle : Int)
    (orders : List Demand.CustomerOrder) (wh : FinishedGoodsWarehouse) :
    histories (shipOrders sc cycle orders wh).2 = histories wh := by
  induction orders generalizing wh with
  | nil => rfl
  | cons o orders ih =>
    have hone : histories (shipOrder sc cycle o wh).2 = histories wh := by
      unfold shipOrder
      dsimp only
      split <;> rfl
    exact (ih _).trans hone

theorem processShipments_warehouse (env : ManufacturingEnvironment) (cycle : Int)
    (h : Ledger env.scenario cycle env.warehouse) :
    Ledger env.scenario cycle (env.processShipments cycle).warehouse ∧
    histories (env.processShipments cycle).warehouse = histories env.warehouse ∧
    (env.processShipments cycle).warehouse.stock +
      (env.processShipments cycle).warehouse.totalShipped =
      env.warehouse.stock + env.warehouse.totalShipped := by
  unfold ManufacturingEnvironment.processShipments
  split
  · rename_i hships
    exact ⟨shipOrders_ledger h (of_decide_eq_true hships) _,shipOrders_histories _ _ _ _,
      shipOrders_moves _ _ _ _⟩
  · exact ⟨h,rfl,rfl⟩

/-! ### One event -/

/-- What the histories tell of the figures that are reported. -/
structure Kept (initial safetyStock : Int) (rt : AgentRuntime) : Prop where
  ledger : Ledger rt.env.scenario rt.env.factory.cycle rt.env.warehouse
  cycles : rt.totalCycles = rt.env.factory.cycle
  length : (rt.env.warehouse.stockHistory.length : Int) = rt.totalCycles
  safety : rt.env.warehouse.safetyStock = safetyStock ∧ rt.env.warehouse.ssHistory =
    List.replicate rt.env.warehouse.stockHistory.length safetyStock
  levels : rt.env.warehouse.serviceLevelHistory.length = rt.env.warehouse.stockHistory.length
  breaches : rt.ssBreachCycles = rt.env.warehouse.stockHistory.countP (· < safetyStock)
  lastStock : ∀ x ∈ rt.env.warehouse.stockHistory.getLast?, x = rt.env.warehouse.stock
  lastLevel : ∀ x ∈ rt.env.warehouse.serviceLevelHistory.getLast?,
    x = rt.env.warehouse.serviceLevel
  balance : rt.env.warehouse.stock + rt.env.warehouse.totalShipped =
    initial + rt.env.factory.totalProduced

variable {initial safetyStock : Int} {rt : AgentRuntime}

/-- A good product comes into the warehouse, and is counted by the factory. -/
theorem produced_warehouse (rt : AgentRuntime) (d : TickDraws) :
    (produced rt d).warehouse = rt.env.warehouse ∧
      (produced rt d).factory.totalProduced = rt.env.factory.totalProduced ∨
    (produced rt d).warehouse = rt.env.warehouse.receive 1 ∧
      (produced rt d).factory.totalProduced = rt.env.factory.totalProduced + 1 := by
  have hbooks := congrArg (fun b => b.2.1) (runCycle_books rt.env.factory d.cycle)
  by_cases h : PassesLine rt.env.factory d.cycle
  · right
    rw [if_pos h] at hbooks
    simp only [produced, product_good_iff, h, ↓reduceIte]
    unfold ManufacturingEnvironment.onGoodFinishedUnit
    dsimp only
    split <;> exact ⟨rfl,hbooks⟩
  · left
    rw [if_neg h] at hbooks
    simp only [produced, product_good_iff, h, ↓reduceIte, true_and]
    exact hbooks

/-- The warehouse that an iteration records, beside the books of the factory. -/
theorem shipped_warehouse (h : Ledger rt.env.scenario rt.env.factory.cycle rt.env.warehouse)
    (d : TickDraws) :
    Ledger rt.env.scenario (rt.env.factory.cycle + 1) (shipped rt d).warehouse ∧
    histories (shipped rt d).warehouse = histories rt.env.warehouse ∧
    (shipped rt d).warehouse.stock + (shipped rt d).warehouse.totalShipped -
        (rt.envLoop d).env.factory.totalProduced =
      rt.env.warehouse.stock + rt.env.warehouse.totalShipped - rt.env.factory.totalProduced := by
  obtain ⟨_,hcycle,_,hscenario⟩ := produced_parts rt d
  have hcounted : (rt.envLoop d).env.factory.totalProduced = (produced rt d).factory.totalProduced :=
    congrArg (fun b => b.2.1) (envLoop_books rt d)
  have hafter : rt.env.factory.cycle ≤ rt.env.factory.cycle + 1 := by omega
  have hlater := h.later hafter
  have hreceived : Ledger rt.env.scenario (rt.env.factory.cycle + 1) (produced rt d).warehouse ∧
      histories (produced rt d).warehouse = histories rt.env.warehouse ∧
      (produced rt d).warehouse.stock + (produced rt d).warehouse.totalShipped -
          (produced rt d).factory.totalProduced =
        rt.env.warehouse.stock + rt.env.warehouse.totalShipped -
          rt.env.factory.totalProduced := by
    rcases produced_warehouse rt d with ⟨hwarehouse,htotal⟩ | ⟨hwarehouse,htotal⟩
    · rw [hwarehouse, htotal]
      exact ⟨hlater,rfl,rfl⟩
    · rw [hwarehouse, htotal]
      have hstock := h.stock
      refine ⟨⟨?_,hlater.requested,hlater.shipped,hlater.records⟩,rfl,?_⟩
      · rw [FinishedGoodsWarehouse.receive_stock]
        omega
      · rw [FinishedGoodsWarehouse.receive_stock, FinishedGoodsWarehouse.receive_totalShipped]
        omega
  obtain ⟨hledger,hhistories,hbalance⟩ := hreceived
  rw [← hscenario, ← hcycle] at hledger
  obtain ⟨hshipped,hsame,hmoved⟩ := processShipments_warehouse _ _ hledger
  rw [hscenario, hcycle] at hshipped
  refine ⟨?_,hsame.trans hhistories,?_⟩
  · unfold shipped
    rw [hcycle]
    exact hshipped
  · unfold shipped
    rw [hmoved, hcounted, hbalance]

/-- What an iteration leaves of the counters and of the scenario. -/
theorem envLoop_counters (rt : AgentRuntime) (d : TickDraws) :
    (rt.envLoop d).env.scenario = rt.env.scenario ∧
    (rt.envLoop d).env.factory.cycle = rt.env.factory.cycle + 1 ∧
    (rt.envLoop d).totalCycles = rt.env.factory.cycle + 1 ∧
    (rt.envLoop d).ssBreachCycles =
      if (shipped rt d).warehouse.ssBreach then rt.ssBreachCycles + 1 else rt.ssBreachCycles := by
  obtain ⟨_,hcycle,_,hscenario⟩ := produced_parts rt d
  have hfactory : (shipped rt d).factory.cycle = rt.env.factory.cycle + 1 := by
    unfold shipped
    rw [env_processShipments_factory, hcycle]
  have hsame : (shipped rt d).scenario = rt.env.scenario := by
    unfold shipped ManufacturingEnvironment.processShipments
    split <;> exact hscenario
  rw [← hsame, ← hfactory]
  unfold AgentRuntime.envLoop shipped produced
  exact ⟨rfl,rfl,rfl,rfl⟩

theorem tick_kept (h : Kept initial safetyStock rt) (d : TickDraws) :
    Kept initial safetyStock (rt.envLoop d) := by
  obtain ⟨hledger,hhistories,hbalance⟩ := shipped_warehouse h.ledger d
  obtain ⟨hscenario,hcycle,htotal,hbreach⟩ := envLoop_counters rt d
  have hwarehouse : (rt.envLoop d).env.warehouse = (shipped rt d).warehouse.recordSnapshot :=
    (envLoop_kept rt d).2.1
  unfold histories at hhistories
  simp only [Prod.mk.injEq] at hhistories
  obtain ⟨hsafety,hstocks,hsafeties,hlevels⟩ := hhistories
  have hrecorded : (rt.envLoop d).env.warehouse.stockHistory =
      rt.env.warehouse.stockHistory ++ [(shipped rt d).warehouse.stock] := by
    rw [hwarehouse, ← hstocks]
    rfl
  have hleveled : (rt.envLoop d).env.warehouse.serviceLevelHistory =
      rt.env.warehouse.serviceLevelHistory ++ [(shipped rt d).warehouse.serviceLevel] := by
    rw [hwarehouse, ← hlevels]
    rfl
  have hlength := h.length
  have hcycles := h.cycles
  refine ⟨?_,?_,?_,⟨?_,?_⟩,?_,?_,?_,?_,?_⟩
  · rw [hwarehouse, hscenario, hcycle]
    exact ⟨hledger.stock,hledger.requested,hledger.shipped,hledger.records⟩
  · rw [htotal, hcycle]
  · rw [hrecorded, htotal, List.length_append, List.length_singleton]
    push_cast
    omega
  · rw [hwarehouse]
    exact hsafety.trans h.safety.1
  · rw [hrecorded, hwarehouse, List.length_append, List.length_singleton, List.replicate_succ',
      ← h.safety.2, ← h.safety.1, ← hsafeties, ← hsafety]
    rfl
  · rw [hleveled, hrecorded, List.length_append, List.length_append, h.levels]
    rfl
  · rw [hbreach, hrecorded, List.countP_append, List.countP_singleton, h.breaches]
    unfold FinishedGoodsWarehouse.ssBreach
    rw [hsafety, h.safety.1]
    split <;> simp
  · rw [hrecorded, List.getLast?_concat, hwarehouse]
    intro x hx
    cases hx
    rfl
  · rw [hleveled, List.getLast?_concat, hwarehouse]
    intro x hx
    cases hx
    rfl
  · have hold := h.balance
    rw [hwarehouse, FinishedGoodsWarehouse.recordSnapshot_stock,
      FinishedGoodsWarehouse.recordSnapshot_totalShipped]
    omega

/-- An event that touches neither the warehouse nor the counters keeps all this. -/
theorem Kept.same {rt' : AgentRuntime} (h : Kept initial safetyStock rt)
    (hsame : (rt'.env.scenario,rt'.env.factory.cycle,rt'.env.factory.totalProduced,
        rt'.env.warehouse,rt'.totalCycles,rt'.ssBreachCycles) =
      (rt.env.scenario,rt.env.factory.cycle,rt.env.factory.totalProduced,rt.env.warehouse,
        rt.totalCycles,rt.ssBreachCycles)) : Kept initial safetyStock rt' := by
  simp only [Prod.mk.injEq] at hsame
  obtain ⟨hscenario,hcycle,hproduced,hwarehouse,htotal,hbreach⟩ := hsame
  constructor
  · rw [hscenario, hcycle, hwarehouse]
    exact h.ledger
  · rw [htotal, hcycle]
    exact h.cycles
  · rw [hwarehouse, htotal]
    exact h.length
  · rw [hwarehouse]
    exact h.safety
  · rw [hwarehouse]
    exact h.levels
  · rw [hbreach, hwarehouse]
    exact h.breaches
  · rw [hwarehouse]
    exact h.lastStock
  · rw [hwarehouse]
    exact h.lastLevel
  · rw [hwarehouse, hproduced]
    exact h.balance

theorem apply_kept (rt : AgentRuntime) (e : ScenarioEvent) (h : Kept initial safetyStock rt) :
    Kept initial safetyStock (e.apply rt) := by
  have hstation : ∀ i happens change, Kept initial safetyStock (atStation rt i happens change) := by
    intro i happens change
    refine h.same ?_
    unfold atStation
    dsimp only
    split <;> rfl
  cases e with
  | tick d => exact tick_kept h d
  | breakdown i _ | toolWearSpike i _ | qualityDrift i _ _ | speedRecovery i _ =>
    exact hstation i _ _
  | _ => exact h.same rfl

/-! ### The report -/

/-- What a report says of a run: its cycles and breaches are those of the recorded stocks, its
stock and its service level are the last ones recorded, its totals are those of the shipments,
and what was in the warehouse or produced has been shipped or is there. -/
structure Accounts (initial safetyStock : Int) (rt : AgentRuntime) : Prop where
  cycles : rt.getResults.totalCycles = rt.env.warehouse.stockHistory.length
  safety : rt.getResults.safetyStock = safetyStock ∧ rt.env.warehouse.ssHistory =
    List.replicate rt.env.warehouse.stockHistory.length safetyStock
  breaches : rt.getResults.ssBreachCount =
    rt.env.warehouse.stockHistory.countP (· < safetyStock)
  finalStock : ∀ x ∈ rt.env.warehouse.stockHistory.getLast?, x = rt.getResults.finalStock
  serviceLevel : ∀ x ∈ rt.env.warehouse.serviceLevelHistory.getLast?,
    x = rt.getResults.serviceLevel
  requested : rt.getResults.totalRequested = (rt.env.warehouse.shipments.map (·.requested)).sum
  shipped : rt.getResults.totalShipped = (rt.env.warehouse.shipments.map (·.shipped)).sum
  balance : rt.getResults.finalStock + rt.getResults.totalShipped =
    initial + rt.env.factory.totalProduced
  stock : 0 ≤ rt.getResults.finalStock
  level : 0 ≤ rt.getResults.serviceLevel ∧ rt.getResults.serviceLevel ≤ 1
  shipments : ∀ r ∈ rt.env.warehouse.shipments, Sound rt.env.scenario rt.env.factory.cycle r

theorem sum_shipped_le (h : ∀ r ∈ wh.shipments, Sound sc cycle r) :
    0 ≤ (wh.shipments.map (·.shipped)).sum ∧
      (wh.shipments.map (·.shipped)).sum ≤ (wh.shipments.map (·.requested)).sum := by
  generalize wh.shipments = records at h
  induction records with
  | nil => simp
  | cons r records ih =>
    obtain ⟨hr,hrest⟩ := List.forall_mem_cons.mp h
    obtain ⟨hlow,hhigh⟩ := ih hrest
    have hshipped := hr.shipped
    simp only [List.map_cons, List.sum_cons]
    omega

theorem Ledger.level (h : Ledger sc cycle wh) : 0 ≤ wh.serviceLevel ∧ wh.serviceLevel ≤ 1 := by
  obtain ⟨hlow,hhigh⟩ := sum_shipped_le h.records
  rw [← h.shipped] at hlow hhigh
  rw [← h.requested] at hhigh
  unfold FinishedGoodsWarehouse.serviceLevel
  split
  · exact ⟨zero_le_one,le_refl _⟩
  · have hshipped : (0 : ℚ) ≤ wh.totalShipped := by exact_mod_cast hlow
    have hle : (wh.totalShipped : ℚ) ≤ wh.totalRequested := by exact_mod_cast hhigh
    have hrequested : (0 : ℚ) ≤ wh.totalRequested := hshipped.trans hle
    exact ⟨roundTo_nonneg 4 (div_nonneg hshipped hrequested),
      roundTo_le_one 4 (div_le_one_of_le₀ hle hrequested)⟩

theorem Kept.accounts (h : Kept initial safetyStock rt) : Accounts initial safetyStock rt :=
  ⟨h.length.symm,h.safety,h.breaches,h.lastStock,h.lastLevel,h.ledger.requested,h.ledger.shipped,
    h.balance,h.ledger.stock,h.ledger.level,h.ledger.records⟩

theorem addOrders_kept (orders : List Demand.CustomerOrder) (env : ManufacturingEnvironment) :
    (orders.foldl (·.addOrder ·) env).warehouse = env.warehouse ∧
      (orders.foldl (·.addOrder ·) env).factory = env.factory := by
  induction orders generalizing env with
  | nil => exact ⟨rfl,rfl⟩
  | cons o orders ih => exact ih (env.addOrder o)

theorem started_kept (sc : ScenarioConfig) (d : InitDraws) (safetyStock : Int)
    (hstock : 0 ≤ sc.warehouseStock) :
    Kept sc.warehouseStock safetyStock (.started sc d safetyStock) := by
  obtain ⟨hwarehouse,hfactory⟩ := addOrders_kept (sc.initialOrders.map (·.toDemand)) (.new sc d)
  have hnew : (AgentRuntime.started sc d safetyStock).env.warehouse =
      { FinishedGoodsWarehouse.new sc.warehouseStock sc.warehouseSafetyStock with
        safetyStock := safetyStock } := by
    unfold AgentRuntime.started scenarioEnv
    exact congrArg (fun wh : FinishedGoodsWarehouse => { wh with safetyStock := safetyStock })
      hwarehouse
  have hsame : (AgentRuntime.started sc d safetyStock).env.factory =
      (ManufacturingEnvironment.new sc d).factory := hfactory
  have hzero : (ManufacturingEnvironment.new sc d).factory.cycle = 0 ∧
      (ManufacturingEnvironment.new sc d).factory.totalProduced = 0 := by
    unfold ManufacturingEnvironment.new applyScenarioSensors
    dsimp only
    split <;> exact ⟨rfl,rfl⟩
  constructor
  · rw [hnew]
    exact ⟨hstock,rfl,rfl,fun r hr => absurd hr List.not_mem_nil⟩
  · rw [hsame, hzero.1]
    rfl
  · rw [hnew]
    rfl
  · rw [hnew]
    exact ⟨rfl,rfl⟩
  · rw [hnew]
    rfl
  · rw [hnew]
    rfl
  · rw [hnew]
    exact fun x hx => nomatch hx
  · rw [hnew]
    exact fun x hx => nomatch hx
  · rw [hnew, hsame, hzero.2]
    rfl

/-- All along a scenario's run, what is reported agrees with the histories and the shipments. -/
theorem report_accounts (sc : ScenarioConfig) (d : InitDraws) (safetyStock : Int)
    (hstock : 0 ≤ sc.warehouseStock) (es : List ScenarioEvent) :
    Runs.Always ScenarioEvent.apply (Accounts sc.warehouseStock safetyStock)
      (.started sc d safetyStock) es := by
  have hstart := started_kept sc d safetyStock hstock
  have halways : Runs.Always ScenarioEvent.apply (Kept sc.warehouseStock safetyStock)
      (AgentRuntime.started sc d safetyStock) es := Runs.always_invariant apply_kept hstart
  exact Runs.always_imp apply_kept (fun _ h _ => h.accounts) hstart halways

theorem report_accounts_tick :
    Runs.Always ScenarioEvent.apply (Accounts 3 5)
      (.started (ShipmentLedger.oneOrder 3) ShipmentLedger.plainDraws 5) [.tick quietTick] :=
  report_accounts (ShipmentLedger.oneOrder 3) ShipmentLedger.plainDraws 5 (by decide)
    [.tick quietTick]

end ManufacturingMas.Proofs.ScenarioReport
