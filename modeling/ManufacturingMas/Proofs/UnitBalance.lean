import ManufacturingMas.Runtime.ScenarioRuntime
import ManufacturingMas.Proofs.ShipmentLedger

/-! Where the finished units of scenario mode are: on the factory's own books,
in the warehouse, or with a customer of either. -/

namespace ManufacturingMas.Proofs.UnitBalance
open Py Environment ManufacturingEnv ScenarioRuntime

/-! ### The factory's shipping loop -/

def deliveredSum (orders : List CustomerOrder) : Int := (orders.map (·.delivered)).sum

/-- What the factory's shipping loop would give each order from a large stock. -/
def takes (draw : Nat → RandInt 1 3) : Nat → List CustomerOrder → List Int
  | _, [] => []
  | i, o :: rest =>
    (if o.isComplete then 0 else min (draw i).val o.remaining) :: takes draw (i + 1) rest

theorem remaining_pos {o : CustomerOrder} (h : o.isComplete = false) : 0 < o.remaining := by
  simp only [CustomerOrder.isComplete, decide_eq_false_iff_not, not_le] at h
  unfold CustomerOrder.remaining
  omega

theorem take_pos (draw : RandInt 1 3) {o : CustomerOrder} (h : o.isComplete = false) :
    0 < min draw.val o.remaining :=
  lt_min (lt_of_lt_of_le zero_lt_one draw.lo_le) (remaining_pos h)

theorem takes_nonneg (draw : Nat → RandInt 1 3) (i : Nat) (orders : List CustomerOrder) :
    ∀ q ∈ takes draw i orders, 0 ≤ q := by
  induction orders generalizing i with
  | nil => simp [takes]
  | cons o rest ih =>
    intro q hq
    rcases List.mem_cons.mp hq with rfl | hq
    · split
      · exact le_refl 0
      · rename_i ho
        exact (take_pos (draw i) (by simpa using ho)).le
    · exact ih (i + 1) q hq

/-- The loop serves its takes in order from the finished-goods stock. -/
theorem processShipments_effect (draw : Nat → RandInt 1 3) (i : Nat)
    (orders : List CustomerOrder) (fg : Int) (hfg : 0 ≤ fg) :
    deliveredSum (processShipments draw i orders fg).1 =
      deliveredSum orders + (Serve.serve fg (takes draw i orders)).sum ∧
    (processShipments draw i orders fg).2 =
      fg - (Serve.serve fg (takes draw i orders)).sum := by
  induction orders generalizing i fg with
  | nil => simp [processShipments, takes, Serve.serve]
  | cons o rest ih =>
    unfold processShipments takes Serve.serve
    by_cases hdone : o.isComplete = true
    · obtain ⟨hd,hl⟩ := ih (i + 1) fg hfg
      simp only [deliveredSum] at hd
      simp only [hdone, ↓reduceIte, min_eq_left hfg, sub_zero, deliveredSum, List.map_cons,
        List.sum_cons, hd, hl]
      exact ⟨by omega,by omega⟩
    · simp only [hdone, Bool.false_eq_true, ↓reduceIte]
      have htake := take_pos (draw i) (by simpa using hdone)
      by_cases hpos : 0 < fg
      · have hle : min (min (draw i).val fg) o.remaining ≤ fg :=
          le_trans (min_le_left _ _) (min_le_right _ _)
        obtain ⟨hd,hl⟩ := ih (i + 1) (fg - min (min (draw i).val fg) o.remaining) (by omega)
        have hcomm : min (min (draw i).val o.remaining) fg =
            min (min (draw i).val fg) o.remaining := min_right_comm _ _ _
        simp only [deliveredSum] at hd
        simp only [hpos, ↓reduceIte, hcomm, deliveredSum, List.map_cons, List.sum_cons, hd, hl]
        exact ⟨by omega,by omega⟩
      · have hzero : fg = 0 := by omega
        subst hzero
        obtain ⟨hd,hl⟩ := ih (i + 1) 0 (le_refl 0)
        simp only [deliveredSum] at hd
        simp only [lt_irrefl, ↓reduceIte, min_eq_right htake.le, sub_zero, deliveredSum,
          List.map_cons, List.sum_cons, hd, hl]
        exact ⟨by omega,by omega⟩

def AllComplete (orders : List CustomerOrder) : Prop := ∀ o ∈ orders, o.isComplete = true

instance (orders : List CustomerOrder) : Decidable (AllComplete orders) :=
  inferInstanceAs (Decidable (∀ o ∈ orders, o.isComplete = true))

theorem sum_takes_eq_zero (draw : Nat → RandInt 1 3) (i : Nat) (orders : List CustomerOrder)
    (h : AllComplete orders) : (takes draw i orders).sum = 0 := by
  induction orders generalizing i with
  | nil => rfl
  | cons o rest ih =>
    have ho := h o List.mem_cons_self
    have hrest := ih (i + 1) fun p hp => h p (List.mem_cons_of_mem _ hp)
    simp [takes, ho, hrest]

theorem sum_takes_pos (draw : Nat → RandInt 1 3) (i : Nat) (orders : List CustomerOrder)
    (h : ¬ AllComplete orders) : 0 < (takes draw i orders).sum := by
  induction orders generalizing i with
  | nil => exact absurd (fun o ho => by cases ho) h
  | cons o rest ih =>
    have hrest : 0 ≤ (takes draw (i + 1) rest).sum := List.sum_nonneg (takes_nonneg draw _ rest)
    unfold takes
    by_cases hdone : o.isComplete = true
    · have hopen : ¬ AllComplete rest := by
        intro hr
        apply h
        intro p hp
        rcases List.mem_cons.mp hp with rfl | hp
        · exact hdone
        · exact hr p hp
      simpa [hdone] using ih (i + 1) hopen
    · have htake := take_pos (draw i) (by simpa using hdone)
      simp only [hdone, Bool.false_eq_true, ↓reduceIte, List.sum_cons]
      omega

/-- A single finished unit stays on the factory's books exactly when no order
of the factory is open; otherwise an order takes it. -/
theorem single_unit (draw : Nat → RandInt 1 3) (orders : List CustomerOrder) :
    (AllComplete orders → (processShipments draw 0 orders 1).2 = 1) ∧
    (¬ AllComplete orders → (processShipments draw 0 orders 1).2 = 0) := by
  have hserve := Serve.sum_serve zero_le_one (takes_nonneg draw 0 orders)
  rw [(processShipments_effect draw 0 orders 1 zero_le_one).2, hserve]
  constructor
  · intro h
    rw [sum_takes_eq_zero draw 0 orders h]
    rfl
  · intro h
    have := sum_takes_pos draw 0 orders h
    rw [min_eq_right (by omega)]
    rfl

/-! ### One production cycle -/

@[simp] theorem visit_status (ctx : LineContext) (d : Machines.StationDraws) (idx : Nat)
    (station : Machines.WorkCenter) (st : LineState) :
    (visit ctx d idx station st).2.2.product.status = st.product.status := rfl

theorem reject_status (ctx : LineContext) (station : Machines.WorkCenter) (draw : Unit01)
    (st : LineState) : (reject ctx station draw st).product.status ≠ .good := by
  unfold reject
  dsimp only
  split <;> simp

/-- The station loop itself never marks a product GOOD. -/
theorem runLine_status (ctx : LineContext) (d : Nat → Machines.StationDraws) (idx : Nat)
    (line : List Machines.WorkCenter) (st : LineState) (h : st.product.status = .inProcess) :
    (runLine ctx d idx line st).2.product.status ≠ .good := by
  induction line generalizing idx st with
  | nil => simp [runLine, h]
  | cons station rest ih =>
    unfold runLine
    split
    · simp
    · dsimp only
      split
      · exact reject_status _ _ _ _
      · exact ih (idx + 1) _ h

/-- No station stops the product and none fails it. -/
def PassesLine (f : Factory) (d : CycleDraws) : Prop :=
  (f.passLine d).2.product.status = .inProcess

instance (f : Factory) (d : CycleDraws) : Decidable (PassesLine f d) :=
  inferInstanceAs (Decidable (_ = _))

theorem product_good_iff (f : Factory) (d : CycleDraws) :
    (f.runCycle d).2.product.status = .good ↔ PassesLine f d := by
  have hline : (f.passLine d).2.product.status ≠ .good := runLine_status _ _ _ _ _ rfl
  simp only [Factory.runCycle, Factory.finish, PassesLine]
  split
  · rename_i h; simp [h, Factory.finishGood]
  · rename_i h; simp [h, hline]

/-- The factory's books of finished units, as one value. -/
def books (f : Factory) : Int × Int × List CustomerOrder := (f.fgStock, f.totalProduced, f.orders)

@[simp] theorem beginCycle_books (f : Factory) (d : CycleDraws) :
    books (f.beginCycle d).1 = books f := rfl

@[simp] theorem afterLine_books (f : Factory) (line : List Machines.WorkCenter) (st : LineState) :
    books (f.afterLine line st) = books f := rfl

@[simp] theorem endCycle_books (f : Factory) (d : CycleDraws) (product : Product) :
    books (f.endCycle d product) = books f := by
  unfold Factory.endCycle Factory.recordHourly
  dsimp only
  split <;> rfl

/-- The books after one more unit went through the factory's shipping loop. -/
def oneMore (draw : Nat → RandInt 1 3) (b : Int × Int × List CustomerOrder) :
    Int × Int × List CustomerOrder :=
  ((processShipments draw 0 b.2.2 (b.1 + 1)).2, b.2.1 + 1,
    (processShipments draw 0 b.2.2 (b.1 + 1)).1)

/-- A cycle moves finished units only when its product passes the line. -/
theorem runCycle_books (f : Factory) (d : CycleDraws) :
    books (f.runCycle d).1 =
      if PassesLine f d then oneMore d.shipment (books f) else books f := by
  simp only [Factory.runCycle, endCycle_books, Factory.finish, PassesLine]
  by_cases h : (f.passLine d).2.product.status = .inProcess
  · simp only [h, ↓reduceIte]
    rfl
  · simp only [h, ↓reduceIte]
    rfl

/-! ### The environment loop -/

/-- Every place a finished unit can be. -/
def unitsHeld (env : ManufacturingEnvironment) : Int :=
  env.warehouse.stock + env.warehouse.totalShipped + env.factory.fgStock +
    deliveredSum env.factory.orders

/-- Units made, on top of `initial`, and units held are the same number. -/
def Conserved (initial : Int) (rt : AgentRuntime) : Prop :=
  initial + rt.env.factory.totalProduced = unitsHeld rt.env

/-- A product that passes the line finds every order of the factory complete,
so the factory keeps the unit that the warehouse then takes over. -/
def Reconciled (rt : AgentRuntime) (d : TickDraws) : Prop :=
  PassesLine rt.env.factory d.cycle → AllComplete rt.env.factory.orders

theorem shipOrder_moves (sc : ScenarioConfig) (cycle : Int) (o : Demand.CustomerOrder)
    (wh : Inventory.FinishedGoodsWarehouse) :
    (shipOrder sc cycle o wh).2.stock + (shipOrder sc cycle o wh).2.totalShipped =
      wh.stock + wh.totalShipped := by
  unfold shipOrder
  dsimp only
  split
  · rfl
  · simp only [Inventory.FinishedGoodsWarehouse.ship_stock,
      Inventory.FinishedGoodsWarehouse.ship_totalShipped]
    omega

/-- Shipping to customers only moves units, whatever the stock. -/
theorem shipOrders_moves (sc : ScenarioConfig) (cycle : Int)
    (orders : List Demand.CustomerOrder) (wh : Inventory.FinishedGoodsWarehouse) :
    (shipOrders sc cycle orders wh).2.stock + (shipOrders sc cycle orders wh).2.totalShipped =
      wh.stock + wh.totalShipped := by
  induction orders generalizing wh with
  | nil => rfl
  | cons o rest ih => exact (ih _).trans (shipOrder_moves sc cycle o wh)

theorem env_processShipments_held (env : ManufacturingEnvironment) (cycle : Int) :
    unitsHeld (env.processShipments cycle) = unitsHeld env := by
  unfold ManufacturingEnvironment.processShipments
  split
  · have := shipOrders_moves env.scenario cycle env.demand.orders env.warehouse
    simp only [unitsHeld]
    omega
  · rfl

theorem env_processShipments_factory (env : ManufacturingEnvironment) (cycle : Int) :
    (env.processShipments cycle).factory = env.factory := by
  unfold ManufacturingEnvironment.processShipments
  split <;> rfl

/-- Taking over a good unit adds one to the warehouse, and takes one off the
factory only if the factory still has one. -/
theorem onGoodFinishedUnit_held (env : ManufacturingEnvironment) :
    unitsHeld env.onGoodFinishedUnit =
      unitsHeld env + 1 - (if 0 < env.factory.fgStock then 1 else 0) := by
  unfold ManufacturingEnvironment.onGoodFinishedUnit unitsHeld
  dsimp only
  split <;> simp <;> omega

/-- The environment after production, before the warehouse ships. -/
def produced (rt : AgentRuntime) (d : TickDraws) : ManufacturingEnvironment :=
  let env := { rt.env with factory := (rt.env.factory.runCycle d.cycle).1 }
  if (rt.env.factory.runCycle d.cycle).2.product.status = .good then env.onGoodFinishedUnit
  else env

/-- The environment once the warehouse has shipped. -/
def shipped (rt : AgentRuntime) (d : TickDraws) : ManufacturingEnvironment :=
  (produced rt d).processShipments (produced rt d).factory.cycle

/-- The dynamics touch neither finished units nor orders. -/
theorem applyDynamics_kept (rt : AgentRuntime) (d : DynamicsDraws) :
    books (rt.applyDynamics d).env.factory = books rt.env.factory ∧
    (rt.applyDynamics d).env.warehouse = rt.env.warehouse ∧
    (rt.applyDynamics d).env.demand = rt.env.demand := ⟨rfl,rfl,rfl⟩

/-- What an iteration leaves of the environment that has shipped. -/
theorem envLoop_kept (rt : AgentRuntime) (d : TickDraws) :
    books (rt.envLoop d).env.factory = books (shipped rt d).factory ∧
    (rt.envLoop d).env.warehouse = (shipped rt d).warehouse.recordSnapshot ∧
    (rt.envLoop d).env.demand = (shipped rt d).demand := by
  unfold AgentRuntime.envLoop shipped produced
  exact applyDynamics_kept _ _

theorem envLoop_books (rt : AgentRuntime) (d : TickDraws) :
    books (rt.envLoop d).env.factory = books (produced rt d).factory :=
  (envLoop_kept rt d).1.trans (congrArg books (env_processShipments_factory _ _))

/-- After production an iteration only moves units between warehouse and customers. -/
theorem envLoop_held (rt : AgentRuntime) (d : TickDraws) :
    unitsHeld (rt.envLoop d).env = unitsHeld (produced rt d) := by
  obtain ⟨hbooks,hwarehouse,_⟩ := envLoop_kept rt d
  simp only [books, Prod.mk.injEq] at hbooks
  obtain ⟨hfg,_,horders⟩ := hbooks
  refine Eq.trans ?_ (env_processShipments_held (produced rt d) (produced rt d).factory.cycle)
  unfold unitsHeld
  rw [hwarehouse, hfg, horders]
  rfl

theorem produced_idle (rt : AgentRuntime) (d : TickDraws)
    (h : ¬ PassesLine rt.env.factory d.cycle) :
    unitsHeld (produced rt d) = unitsHeld rt.env ∧
    (produced rt d).factory.totalProduced = rt.env.factory.totalProduced ∧
    (produced rt d).factory.fgStock = rt.env.factory.fgStock := by
  have hb := runCycle_books rt.env.factory d.cycle
  rw [if_neg h] at hb
  simp only [books, Prod.mk.injEq] at hb
  obtain ⟨hfg,htotal,horders⟩ := hb
  simp only [produced, product_good_iff, h, ↓reduceIte, unitsHeld, hfg, htotal, horders, and_self]

/-- A good product's iteration counts one unit more, and holds one or two more:
two when an open factory order took the unit the warehouse also received. -/
theorem produced_good (rt : AgentRuntime) (d : TickDraws)
    (h : PassesLine rt.env.factory d.cycle) (hfg : rt.env.factory.fgStock = 0) :
    (produced rt d).factory.totalProduced = rt.env.factory.totalProduced + 1 ∧
    (produced rt d).factory.fgStock = 0 ∧
    (AllComplete rt.env.factory.orders →
      unitsHeld (produced rt d) = unitsHeld rt.env + 1) ∧
    (¬ AllComplete rt.env.factory.orders →
      unitsHeld (produced rt d) = unitsHeld rt.env + 2) := by
  have hb := runCycle_books rt.env.factory d.cycle
  rw [if_pos h] at hb
  simp only [books, oneMore, hfg, zero_add, Prod.mk.injEq] at hb
  obtain ⟨hstock,htotal,horders⟩ := hb
  obtain ⟨hkeep,hgive⟩ := single_unit d.cycle.shipment rt.env.factory.orders
  obtain ⟨hdel,hleft⟩ :=
    processShipments_effect d.cycle.shipment 0 rt.env.factory.orders 1 zero_le_one
  have hunits : unitsHeld { rt.env with factory := (rt.env.factory.runCycle d.cycle).1 } =
      unitsHeld rt.env + 1 := by
    simp only [unitsHeld, hstock, horders, hdel, hleft, hfg]
    omega
  simp only [produced, product_good_iff, h, ↓reduceIte]
  refine ⟨?_,?_,?_,?_⟩
  · unfold ManufacturingEnvironment.onGoodFinishedUnit
    dsimp only
    split <;> exact htotal
  · unfold ManufacturingEnvironment.onGoodFinishedUnit
    dsimp only
    by_cases hall : AllComplete rt.env.factory.orders
    · simp [hstock, hkeep hall]
    · simp [hstock, hgive hall]
  · intro hall
    rw [onGoodFinishedUnit_held, hunits]
    simp [hstock, hkeep hall]
  · intro hopen
    rw [onGoodFinishedUnit_held, hunits]
    simp [hstock, hgive hopen]
    omega

/-- Between iterations the factory itself holds no finished unit. -/
theorem envLoop_fgStock (rt : AgentRuntime) (d : TickDraws)
    (hfg : rt.env.factory.fgStock = 0) : (rt.envLoop d).env.factory.fgStock = 0 := by
  have hbooks : (rt.envLoop d).env.factory.fgStock = (produced rt d).factory.fgStock :=
    congrArg Prod.fst (envLoop_books rt d)
  rw [hbooks]
  by_cases h : PassesLine rt.env.factory d.cycle
  · exact (produced_good rt d h hfg).2.1
  · exact (produced_idle rt d h).2.2.trans hfg

theorem envLoop_conserved_iff (initial : Int) (rt : AgentRuntime) (d : TickDraws)
    (hfg : rt.env.factory.fgStock = 0) (h : Conserved initial rt) :
    Conserved initial (rt.envLoop d) ↔ Reconciled rt d := by
  have htotal : (rt.envLoop d).env.factory.totalProduced = (produced rt d).factory.totalProduced :=
    congrArg (Prod.fst ∘ Prod.snd) (envLoop_books rt d)
  unfold Conserved Reconciled at *
  rw [envLoop_held, htotal]
  by_cases hpass : PassesLine rt.env.factory d.cycle
  · obtain ⟨hmade,_,hall,hopen⟩ := produced_good rt d hpass hfg
    by_cases hc : AllComplete rt.env.factory.orders
    · rw [hmade, hall hc]
      constructor
      · intro _ _
        exact hc
      · intro _
        omega
    · rw [hmade, hopen hc]
      constructor
      · intro heq
        omega
      · intro hr
        exact absurd (hr hpass) hc
  · obtain ⟨hsame,hmade,_⟩ := produced_idle rt d hpass
    rw [hmade, hsame]
    constructor
    · intro _ hp
      exact absurd hp hpass
    · intro _
      exact h

/-! ### Runs of a scenario -/

def start (sc : ScenarioConfig) (d : InitDraws) : AgentRuntime := .new (scenarioEnv sc d)

theorem addOrders_factory (orders : List Demand.CustomerOrder) (env : ManufacturingEnvironment) :
    (orders.foldl (·.addOrder ·) env).factory = env.factory ∧
    (orders.foldl (·.addOrder ·) env).warehouse = env.warehouse := by
  induction orders generalizing env with
  | nil => exact ⟨rfl,rfl⟩
  | cons o orders ih => exact ih (env.addOrder o)

/-- The scenario changes stations and materials of the factory, not its books. -/
theorem new_books (sc : ScenarioConfig) (d : InitDraws) :
    books (ManufacturingEnvironment.new sc d).factory = (0, 0, initOrders d.quantity) := by
  unfold ManufacturingEnvironment.new applyScenarioSensors
  dsimp only
  split <;> rfl

theorem start_books (sc : ScenarioConfig) (d : InitDraws) :
    books (start sc d).env.factory = (0, 0, initOrders d.quantity) :=
  (congrArg books (addOrders_factory _ _).1).trans (new_books sc d)

theorem start_fgStock (sc : ScenarioConfig) (d : InitDraws) :
    (start sc d).env.factory.fgStock = 0 := congrArg Prod.fst (start_books sc d)

theorem start_conserved (sc : ScenarioConfig) (d : InitDraws) :
    Conserved sc.warehouseStock (start sc d) := by
  have hb := start_books sc d
  have hwh : (start sc d).env.warehouse = (ManufacturingEnvironment.new sc d).warehouse :=
    (addOrders_factory _ _).2
  simp only [books, Prod.mk.injEq] at hb
  obtain ⟨hfg,htotal,horders⟩ := hb
  unfold Conserved unitsHeld
  rw [hfg, htotal, horders, hwh]
  simp [ManufacturingEnvironment.new, Inventory.FinishedGoodsWarehouse.new, deliveredSum,
    initOrders]

/-- The runs on which no unit is duplicated or lost are those on which a product
passes the line only when the factory has no open order left. -/
theorem units_conserved_iff (sc : ScenarioConfig) (d : InitDraws) (ds : List TickDraws) :
    Runs.Always AgentRuntime.envLoop (Conserved sc.warehouseStock) (start sc d) ds ↔
      Runs.Along AgentRuntime.envLoop Reconciled (start sc d) ds :=
  Runs.always_iff_along (fun rt => rt.env.factory.fgStock = 0) envLoop_fgStock
    (fun rt t hfg h => envLoop_conserved_iff sc.warehouseStock rt t hfg h)
    (start_fgStock sc d) (start_conserved sc d)

theorem initOrders_open (quantity : Fin 4 → RandInt 300 800) :
    ¬ AllComplete (initOrders quantity) := by
  intro h
  have hfirst := h _ List.mem_cons_self
  have hlo := (quantity 0).lo_le
  simp only [CustomerOrder.isComplete, decide_eq_true_eq] at hfirst
  omega

/-- While no product passes, the order book stays as it was made. -/
theorem envLoop_orders (rt : AgentRuntime) (d : TickDraws)
    (h : ¬ PassesLine rt.env.factory d.cycle) :
    (rt.envLoop d).env.factory.orders = rt.env.factory.orders := by
  have hb := runCycle_books rt.env.factory d.cycle
  rw [if_neg h] at hb
  simp only [books, Prod.mk.injEq] at hb
  have hbooks : (rt.envLoop d).env.factory.orders = (produced rt d).factory.orders :=
    congrArg (Prod.snd ∘ Prod.snd) (envLoop_books rt d)
  rw [hbooks]
  simpa only [produced, product_good_iff, h, ↓reduceIte] using hb.2.2

/-- A fresh factory has open orders, so its books first break with its first
good product. -/
theorem reconciled_along_iff_idle (sc : ScenarioConfig) (d : InitDraws) (ds : List TickDraws) :
    Runs.Along AgentRuntime.envLoop Reconciled (start sc d) ds ↔
      Runs.Along AgentRuntime.envLoop
        (fun rt t => ¬ PassesLine rt.env.factory t.cycle) (start sc d) ds := by
  have hopen : ¬ AllComplete (start sc d).env.factory.orders := by
    rw [show (start sc d).env.factory.orders = initOrders d.quantity from
      congrArg (fun b => b.2.2) (start_books sc d)]
    exact initOrders_open d.quantity
  generalize start sc d = rt at hopen
  induction ds generalizing rt with
  | nil => exact Iff.rfl
  | cons t ds ih =>
    have hhead : Reconciled rt t ↔ ¬ PassesLine rt.env.factory t.cycle := by
      constructor
      · intro h hp
        exact hopen (h hp)
      · intro h hp
        exact absurd hp h
    rw [Runs.along_cons, Runs.along_cons, hhead]
    refine and_congr_right fun hidle => ih _ ?_
    rw [envLoop_orders rt t hidle]
    exact hopen

/-- One quiet iteration: no noise, every verdict good, one unit per order. -/
def quietTick : TickDraws :=
  { cycle :=
      { ambientNoise := 0, humidityNoise := 0
        station := fun _ =>
          { toolNoise := 1, innovation := fun _ => 0, powerNoise := 0,
            judge := ⟨99/100, by norm_num, by norm_num⟩,
            rework := ⟨0, by norm_num, by norm_num⟩ }
        shipment := fun _ => ⟨1, by decide, by decide⟩
        material := fun _ => ⟨1/2, by norm_num, by norm_num⟩ }
    dynamics :=
      { recovers := fun _ _ => ⟨1/2, by norm_num, by norm_num⟩
        amount := fun _ _ => ⟨1/50, by norm_num, by norm_num⟩
        repair := fun _ => ⟨1/2, by norm_num, by norm_num⟩
        restock := fun _ => ⟨1/2, by norm_num, by norm_num⟩
        quantity := fun _ => ⟨200, by decide, by decide⟩ } }

/-- The first good unit of a scenario with 48 units in stock: one is produced,
and two more are held. -/
theorem first_good_unit_counted_twice :
    let rt := Runs.run AgentRuntime.envLoop
      (start (ShipmentLedger.oneOrder 48) ShipmentLedger.plainDraws) [quietTick]
    rt.env.factory.totalProduced = 1 ∧ unitsHeld rt.env = 50 ∧ ¬ Conserved 48 rt := by
  refine ⟨by decide +kernel,by decide +kernel,?_⟩
  change ¬ (_ = _)
  decide +kernel

end ManufacturingMas.Proofs.UnitBalance
