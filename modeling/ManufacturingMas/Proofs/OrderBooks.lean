import ManufacturingMas.Proofs.FactoryCycle
import ManufacturingMas.Runtime.ScenarioEvents

/-! The two order books of a scenario: the factory's, which the snapshot shows, and the
one of the demand model, which the warehouse serves. -/

namespace ManufacturingMas.Proofs.OrderBooks
open Py Machines Environment ManufacturingEnv ScenarioRuntime ScenarioEvents UnitBalance

def remainingSum (orders : List CustomerOrder) : Int := (orders.map (·.remaining)).sum

/-- The orders in the snapshot account for the demand model. -/
def Account (root : ℚ → ℚ) (rt : AgentRuntime) : Prop :=
  ((rt.env.getMergedSnapshot root).orders.map (·.remaining)).sum = rt.env.demand.totalRemaining

/-- Whatever the root, the snapshot shows the orders of the factory. -/
theorem account_iff (root : ℚ → ℚ) (rt : AgentRuntime) :
    Account root rt ↔ remainingSum rt.env.factory.orders = rt.env.demand.totalRemaining := by
  have horders : (rt.env.getMergedSnapshot root).orders.map (·.remaining) =
      rt.env.factory.orders.map (·.remaining) := by
    simp [ManufacturingEnvironment.getMergedSnapshot, FactorySnapshot.getSnapshot,
      FactorySnapshot.orderData, Function.comp_def]
  unfold Account remainingSum
  rw [horders]

/-! ### What the factory ships -/

/-- What the shipping loop takes off the stock it takes off the orders. -/
theorem processShipments_remaining (draw : Nat → RandInt 1 3) (i : Nat)
    (orders : List CustomerOrder) (fg : Int) :
    remainingSum (processShipments draw i orders fg).1 =
      remainingSum orders - (fg - (processShipments draw i orders fg).2) := by
  induction orders generalizing i fg with
  | nil => simp [processShipments, remainingSum]
  | cons o rest ih =>
    unfold processShipments
    split
    · have hrest := ih (i + 1) fg
      simp only [remainingSum, List.map_cons, List.sum_cons] at hrest ⊢
      omega
    · split
      · have hrest := ih (i + 1) (fg - min (min (draw i).val fg) o.remaining)
        have hle : min (min (draw i).val fg) o.remaining ≤ o.remaining := min_le_right _ _
        have hpos := (draw i).lo_le
        simp only [remainingSum, List.map_cons, List.sum_cons] at hrest ⊢
        unfold CustomerOrder.remaining at hle hrest ⊢
        dsimp only at hrest ⊢
        omega
      · have hrest := ih (i + 1) fg
        simp only [remainingSum, List.map_cons, List.sum_cons] at hrest ⊢
        omega

/-- What a cycle of the factory delivers: the product, if it is good and an order is open. -/
def deliveredBy (f : Factory) (d : CycleDraws) : Int :=
  if PassesLine f d ∧ ¬ AllComplete f.orders then 1 else 0

/-- Between iterations the factory holds nothing, so a good product is all it can deliver. -/
theorem runCycle_remaining {f : Factory} (hfg : f.fgStock = 0) (d : CycleDraws) :
    remainingSum (f.runCycle d).1.orders = remainingSum f.orders - deliveredBy f d := by
  have hbooks := congrArg (fun b => b.2.2) (runCycle_books f d)
  by_cases hpass : PassesLine f d
  · rw [if_pos hpass] at hbooks
    have horders : (f.runCycle d).1.orders = (processShipments d.shipment 0 f.orders 1).1 := by
      refine hbooks.trans ?_
      change (processShipments d.shipment 0 f.orders (f.fgStock + 1)).1 = _
      rw [hfg, zero_add]
    obtain ⟨hkeep,hgive⟩ := single_unit d.shipment f.orders
    rw [horders, processShipments_remaining]
    unfold deliveredBy
    by_cases hall : AllComplete f.orders
    · rw [hkeep hall, if_neg (fun h => h.2 hall)]
      omega
    · rw [hgive hall, if_pos ⟨hpass,hall⟩]
      omega
  · rw [if_neg hpass] at hbooks
    have horders : (f.runCycle d).1.orders = f.orders := hbooks
    rw [horders, deliveredBy, if_neg (fun h => hpass h.1), sub_zero]

/-! ### What the demand model is credited -/

theorem shipOrder_remaining (sc : ScenarioConfig) (cycle : Int) (o : Demand.CustomerOrder)
    (wh : Inventory.FinishedGoodsWarehouse) :
    (shipOrder sc cycle o wh).1.remaining = o.remaining - ShipmentLedger.request sc o := by
  unfold shipOrder ShipmentLedger.request
  dsimp only
  split
  · rename_i hskip
    simp only [Bool.or_eq_true, Bool.not_eq_true', decide_eq_true_eq] at hskip
    change o.remaining = o.remaining - _
    split
    · rename_i hopen
      rw [hopen] at hskip
      have hnothing : o.remaining ≤ 0 ∨ min sc.shipmentBatchSize o.remaining ≤ 0 := by
        simpa using hskip
      unfold Demand.CustomerOrder.remaining at hnothing ⊢
      omega
    · omega
  · rename_i htake
    simp only [Bool.or_eq_true, Bool.not_eq_true', decide_eq_true_eq, not_or, not_le,
      Bool.not_eq_false] at htake
    obtain ⟨⟨hopen,hleft⟩,hqty⟩ := htake
    rw [if_pos hopen]
    unfold Demand.CustomerOrder.ship Demand.CustomerOrder.remaining at *
    dsimp only
    omega

/-- The loop takes off each order what it requests for it, whatever the stock. -/
theorem shipOrders_remaining (sc : ScenarioConfig) (cycle : Int)
    (orders : List Demand.CustomerOrder) (wh : Inventory.FinishedGoodsWarehouse) :
    ((shipOrders sc cycle orders wh).1.map (·.remaining)).sum =
      (orders.map (·.remaining)).sum - (orders.map (ShipmentLedger.request sc)).sum := by
  induction orders generalizing wh with
  | nil => rfl
  | cons o rest ih =>
    have hfirst := shipOrder_remaining sc cycle o wh
    have hrest := ih (shipOrder sc cycle o wh).2
    simp only [shipOrders, List.map_cons, List.sum_cons]
    omega

/-- What the shipping pass of an iteration credits the orders of the demand model. -/
def creditedBy (env : ManufacturingEnvironment) : Int :=
  if env.shipsAt (env.factory.cycle + 1) then (ShipmentLedger.requests env).sum else 0

/-! ### One event -/

theorem produced_parts (rt : AgentRuntime) (d : TickDraws) :
    (produced rt d).factory.orders = (rt.env.factory.runCycle d.cycle).1.orders ∧
    (produced rt d).factory.cycle = rt.env.factory.cycle + 1 ∧
    (produced rt d).demand = rt.env.demand ∧ (produced rt d).scenario = rt.env.scenario := by
  have hcycle := FactoryCycle.runCycle_cycle rt.env.factory d.cycle
  unfold produced ManufacturingEnvironment.onGoodFinishedUnit
  dsimp only
  split
  · dsimp only
    split <;> exact ⟨rfl,hcycle,rfl,rfl⟩
  · exact ⟨rfl,hcycle,rfl,rfl⟩

theorem tick_books (rt : AgentRuntime) (d : TickDraws) (hfg : rt.env.factory.fgStock = 0) :
    remainingSum (rt.envLoop d).env.factory.orders =
      remainingSum rt.env.factory.orders - deliveredBy rt.env.factory d.cycle ∧
    (rt.envLoop d).env.demand.totalRemaining =
      rt.env.demand.totalRemaining - creditedBy rt.env := by
  obtain ⟨horders,hcycle,hdemand,hscenario⟩ := produced_parts rt d
  have hbooks : (rt.envLoop d).env.factory.orders = (produced rt d).factory.orders :=
    congrArg (Prod.snd ∘ Prod.snd) (envLoop_books rt d)
  have hships : ∀ cycle, (produced rt d).shipsAt cycle = rt.env.shipsAt cycle := by
    intro cycle
    unfold ManufacturingEnvironment.shipsAt
    rw [hscenario]
  constructor
  · rw [← runCycle_remaining hfg, ← horders, hbooks]
  · rw [(envLoop_kept rt d).2.2]
    unfold shipped ManufacturingEnvironment.processShipments creditedBy
    rw [hcycle, hships]
    split
    · rw [hdemand, hscenario]
      exact shipOrders_remaining rt.env.scenario _ rt.env.demand.orders (produced rt d).warehouse
    · rw [hdemand, sub_zero]

/-- Where an event leaves both books alone, it keeps what accounts for them. -/
def SameBooks (rt rt' : AgentRuntime) : Prop :=
  rt'.env.factory.orders = rt.env.factory.orders ∧ rt'.env.demand = rt.env.demand ∧
    rt'.env.factory.fgStock = rt.env.factory.fgStock

theorem atStation_books (rt : AgentRuntime) (i : Nat) (happens : WorkCenter → Bool)
    (change : WorkCenter → WorkCenter) : SameBooks rt (atStation rt i happens change) := by
  unfold atStation
  dsimp only
  split <;> exact ⟨rfl,rfl,rfl⟩

/-- In an iteration of the loop, the demand model is credited what the factory delivers. -/
def InStep (rt : AgentRuntime) : ScenarioEvent → Prop
  | .tick d => deliveredBy rt.env.factory d.cycle = creditedBy rt.env
  | _ => True

theorem addNewOrder_books (rt : AgentRuntime) (o : OrderDraws) :
    remainingSum (addNewOrder rt o).env.factory.orders =
      remainingSum rt.env.factory.orders + o.quantity.val ∧
    (addNewOrder rt o).env.demand.totalRemaining =
      rt.env.demand.totalRemaining + o.quantity.val := by
  have hpos := o.quantity.lo_le
  have hfactory : o.factoryOrder.remaining = o.quantity.val := by
    simp only [CustomerOrder.remaining, OrderDraws.factoryOrder]
    omega
  have hdemand : o.demandOrder.remaining = o.quantity.val := by
    simp only [Demand.CustomerOrder.remaining, OrderDraws.demandOrder, Demand.CustomerOrder.new]
    omega
  simp [addNewOrder, remainingSum, Demand.DemandModel.addOrder, Demand.DemandModel.totalRemaining,
    hfactory, hdemand]

theorem apply_fgStock (rt : AgentRuntime) (e : ScenarioEvent) (hfg : rt.env.factory.fgStock = 0) :
    (e.apply rt).env.factory.fgStock = 0 := by
  cases e with
  | tick d => exact envLoop_fgStock rt d hfg
  | breakdown i _ | toolWearSpike i _ | qualityDrift i _ _ | speedRecovery i _ =>
    exact (atStation_books rt i _ _).2.2.trans hfg
  | newOrder _ | materialArrival _ _ | ambientChange _ | setSpeed _ => exact hfg

theorem SameBooks.account_iff {rt rt' : AgentRuntime} (h : SameBooks rt rt') (root : ℚ → ℚ) :
    Account root rt' ↔ Account root rt := by
  obtain ⟨horders,hdemand,_⟩ := h
  rw [OrderBooks.account_iff, OrderBooks.account_iff, horders, hdemand]

theorem apply_account_iff (root : ℚ → ℚ) (rt : AgentRuntime) (e : ScenarioEvent)
    (hfg : rt.env.factory.fgStock = 0) (h : Account root rt) :
    Account root (e.apply rt) ↔ InStep rt e := by
  cases e with
  | tick d =>
    obtain ⟨hfactory,hdemand⟩ := tick_books rt d hfg
    rw [account_iff] at h ⊢
    change remainingSum (rt.envLoop d).env.factory.orders =
      (rt.envLoop d).env.demand.totalRemaining ↔ deliveredBy _ _ = creditedBy _
    omega
  | newOrder o =>
    obtain ⟨hfactory,hdemand⟩ := addNewOrder_books rt o
    refine iff_of_true ?_ trivial
    rw [account_iff] at h ⊢
    change remainingSum (addNewOrder rt o).env.factory.orders =
      (addNewOrder rt o).env.demand.totalRemaining
    omega
  | breakdown i _ | toolWearSpike i _ | qualityDrift i _ _ | speedRecovery i _ =>
    exact iff_of_true (((atStation_books rt i _ _).account_iff root).mpr h) trivial
  | materialArrival _ _ | ambientChange _ | setSpeed _ =>
    refine iff_of_true ?_ trivial
    rw [account_iff] at h ⊢
    exact h

/-! ### Runs of a scenario -/

/-- The four orders that the factory makes up add up to those of the scenario. -/
def SameStart (sc : ScenarioConfig) (d : InitDraws) : Prop :=
  (List.ofFn fun i => (d.quantity i).val).sum =
    (sc.initialOrders.map fun io => max 0 io.quantity).sum

theorem addOrders_remaining (specs : List InitialOrder) (env : ManufacturingEnvironment) :
    ((specs.map (·.toDemand)).foldl (·.addOrder ·) env).demand.totalRemaining =
      env.demand.totalRemaining + (specs.map fun io => max 0 io.quantity).sum := by
  induction specs generalizing env with
  | nil => simp
  | cons io specs ih =>
    refine (ih (env.addOrder io.toDemand)).trans ?_
    simp [ManufacturingEnvironment.addOrder, Demand.DemandModel.addOrder,
      Demand.DemandModel.totalRemaining, Demand.CustomerOrder.remaining, InitialOrder.toDemand,
      Demand.CustomerOrder.new]
    omega

theorem start_account_iff (root : ℚ → ℚ) (sc : ScenarioConfig) (d : InitDraws) :
    Account root (start sc d) ↔ SameStart sc d := by
  have horders : (start sc d).env.factory.orders = initOrders d.quantity :=
    congrArg (fun b => b.2.2) (start_books sc d)
  have hdemand : (start sc d).env.demand.totalRemaining =
      (sc.initialOrders.map fun io => max 0 io.quantity).sum :=
    (addOrders_remaining sc.initialOrders (.new sc d)).trans (zero_add _)
  have hquantity := fun i => (d.quantity i).lo_le
  have h0 := hquantity 0
  have h1 := hquantity 1
  have h2 := hquantity 2
  have h3 := hquantity 3
  rw [account_iff, horders, hdemand]
  unfold SameStart
  simp only [remainingSum, initOrders, CustomerOrder.remaining, List.map_cons, List.map_nil,
    List.sum_cons, List.sum_nil, List.ofFn_succ, List.ofFn_zero, Fin.succ_zero_eq_one,
    Fin.succ_one_eq_two]
  change _ = _ ↔ (d.quantity 0).val + ((d.quantity 1).val + ((d.quantity 2).val +
    ((d.quantity 3).val + 0))) = _
  omega

/-- The orders in the snapshot account for the demand model throughout a run exactly if
they do at its start and every iteration of the loop credits what the factory delivers. -/
theorem orders_account_iff (root : ℚ → ℚ) (sc : ScenarioConfig) (d : InitDraws)
    (es : List ScenarioEvent) :
    Runs.Always ScenarioEvent.apply (Account root) (start sc d) es ↔
      SameStart sc d ∧ Runs.Along ScenarioEvent.apply InStep (start sc d) es := by
  have hrun : Account root (start sc d) →
      (Runs.Always ScenarioEvent.apply (Account root) (start sc d) es ↔
        Runs.Along ScenarioEvent.apply InStep (start sc d) es) :=
    Runs.always_iff_along (fun rt => rt.env.factory.fgStock = 0) apply_fgStock
      (apply_account_iff root) (start_fgStock sc d)
  rw [← start_account_iff root]
  constructor
  · intro h
    exact ⟨h.first,(hrun h.first).mp h⟩
  · intro h
    exact (hrun h.1).mpr h.2

/-- A scenario whose one order is as large as the four that the factory makes up. -/
def fullOrder : ScenarioConfig :=
  { ShipmentLedger.oneOrder 48 with
    initialOrders := [⟨"CO-001","현대자동차",1200,"2026-04-04","NORMAL"⟩] }

/-- An order of three units against 1200 in the snapshot; and where both start at 1200,
the first good product is delivered in one book only. -/
theorem snapshot_orders_differ :
    let root : ℚ → ℚ := fun q => Nat.sqrt ⌊q * 10 ^ 12⌋.toNat / 10 ^ 6
    let small := start (ShipmentLedger.oneOrder 48) ShipmentLedger.plainDraws
    let full := start fullOrder ShipmentLedger.plainDraws
    ¬ Account root small ∧ Account root full ∧
      ¬ Account root (Runs.run ScenarioEvent.apply full [.tick quietTick]) := by
  intro root small full
  refine ⟨?_,?_,?_⟩ <;> rw [account_iff] <;> decide +kernel

end ManufacturingMas.Proofs.OrderBooks
