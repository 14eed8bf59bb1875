import ManufacturingMas.Domain.ManufacturingEnv
import ManufacturingMas.Lib.Runs
import ManufacturingMas.Lib.Shares

/-! The customer ledger (what orders were credited) against the warehouse
ledger (what left the stock) over runs of the scenario environment. -/

namespace ManufacturingMas.Proofs.ShipmentLedger
open ManufacturingEnv Inventory Environment

/-- What can happen to the two ledgers: a good unit arrives, the shipping pass
of some cycle runs, a customer orders. -/
inductive EnvOp where
  | goodUnit
  | shipments (cycle : Int)
  | newOrder (o : InitialOrder)
deriving DecidableEq, Repr

def step (env : ManufacturingEnvironment) : EnvOp → ManufacturingEnvironment
  | .goodUnit => env.onGoodFinishedUnit
  | .shipments cycle => env.processShipments cycle
  | .newOrder o => env.addOrder o.toDemand

def credited (env : ManufacturingEnvironment) : Int :=
  (env.demand.orders.map (·.fulfilled)).sum

/-- Every unit credited to a customer has left the warehouse, and no other. -/
def Balanced (env : ManufacturingEnvironment) : Prop :=
  credited env = env.warehouse.totalShipped ∧ 0 ≤ env.warehouse.stock

/-- What the shipping pass asks the warehouse for on behalf of one order. -/
def request (sc : ScenarioConfig) (o : Demand.CustomerOrder) : Int :=
  if o.isOpen then max 0 (min sc.shipmentBatchSize o.remaining) else 0

def requests (env : ManufacturingEnvironment) : List Int :=
  env.demand.orders.map (request env.scenario)

/-- A shipping pass meets no shortage: the stock covers all its requests. -/
def Covered (env : ManufacturingEnvironment) : EnvOp → Prop
  | .shipments cycle => env.shipsAt cycle = true → (requests env).sum ≤ env.warehouse.stock
  | _ => True

theorem request_nonneg (sc : ScenarioConfig) (o : Demand.CustomerOrder) : 0 ≤ request sc o := by
  unfold request
  split
  · exact le_max_left _ _
  · exact le_refl 0

theorem requests_nonneg (env : ManufacturingEnvironment) : ∀ q ∈ requests env, 0 ≤ q := by
  intro q hq
  obtain ⟨o,_,rfl⟩ := List.mem_map.mp hq
  exact request_nonneg _ o

/-- What the loop body does to both ledgers: the order is credited its whole
request, the warehouse gives what it has of it. -/
theorem shipOrder_effect (sc : ScenarioConfig) (cycle : Int) (o : Demand.CustomerOrder)
    (wh : FinishedGoodsWarehouse) (hs : 0 ≤ wh.stock) :
    (shipOrder sc cycle o wh).1.fulfilled = o.fulfilled + request sc o ∧
    (shipOrder sc cycle o wh).2.stock = wh.stock - min (request sc o) wh.stock ∧
    (shipOrder sc cycle o wh).2.totalShipped =
      wh.totalShipped + min (request sc o) wh.stock := by
  unfold shipOrder request
  dsimp only
  split
  · rename_i hskip
    have hzero : (if o.isOpen then max 0 (min sc.shipmentBatchSize o.remaining) else 0) = 0 := by
      simp only [Bool.or_eq_true, Bool.not_eq_true', decide_eq_true_eq] at hskip
      split
      · rcases hskip with (hc | hr) | hq
        · simp_all
        · exact max_eq_left (le_trans (min_le_right _ _) hr)
        · exact max_eq_left hq
      · rfl
    rw [hzero, min_eq_left hs]
    simp
  · rename_i htake
    simp only [Bool.or_eq_true, Bool.not_eq_true', decide_eq_true_eq, not_or, not_le,
      Bool.not_eq_false] at htake
    obtain ⟨⟨hopen,_⟩,hqty⟩ := htake
    have hfit : min (min sc.shipmentBatchSize o.remaining) o.remaining =
        min sc.shipmentBatchSize o.remaining := min_eq_left (min_le_right _ _)
    simp only [hopen, ↓reduceIte, max_eq_right hqty.le]
    refine ⟨?_,rfl,rfl⟩
    rw [Demand.CustomerOrder.ship_fulfilled, hfit]

/-- The whole loop: credits add up to the requests, shipments to what serving
the requests in order hands out. -/
theorem shipOrders_effect (sc : ScenarioConfig) (cycle : Int) (orders : List Demand.CustomerOrder)
    (wh : FinishedGoodsWarehouse) (hs : 0 ≤ wh.stock) :
    ((shipOrders sc cycle orders wh).1.map (·.fulfilled)).sum =
      (orders.map (·.fulfilled)).sum + (orders.map (request sc)).sum ∧
    (shipOrders sc cycle orders wh).2.stock =
      wh.stock - (Serve.serve wh.stock (orders.map (request sc))).sum ∧
    (shipOrders sc cycle orders wh).2.totalShipped =
      wh.totalShipped + (Serve.serve wh.stock (orders.map (request sc))).sum := by
  induction orders generalizing wh with
  | nil => simp [shipOrders, Serve.serve]
  | cons o rest ih =>
    obtain ⟨hcredit,hstock,hshipped⟩ := shipOrder_effect sc cycle o wh hs
    have hleft : 0 ≤ (shipOrder sc cycle o wh).2.stock := by
      rw [hstock]
      exact sub_nonneg.mpr (min_le_right _ _)
    obtain ⟨ihcredit,ihstock,ihshipped⟩ := ih (shipOrder sc cycle o wh).2 hleft
    rw [hstock] at ihstock ihshipped
    simp only [shipOrders, List.map_cons, List.sum_cons, Serve.serve]
    refine ⟨?_,?_,?_⟩
    · rw [ihcredit, hcredit]; omega
    · rw [ihstock]; omega
    · rw [ihshipped, hshipped]; omega

/-- A shipping pass keeps the books balanced exactly when it meets no shortage:
the gap between the ledgers grows by the shortage of the pass. -/
theorem shipments_balanced_iff (env : ManufacturingEnvironment) (cycle : Int)
    (h : Balanced env) :
    Balanced (env.processShipments cycle) ↔ Covered env (.shipments cycle) := by
  obtain ⟨hbal,hstock⟩ := h
  unfold ManufacturingEnvironment.processShipments Covered
  split
  · rename_i hfire
    obtain ⟨hcredit,hleft,hshipped⟩ :=
      shipOrders_effect env.scenario cycle env.demand.orders env.warehouse hstock
    have hserved := Serve.sum_serve_le hstock (requests_nonneg env)
    have hexact := Serve.shortage_eq_zero_iff hstock (requests_nonneg env)
    unfold Serve.shortage at hexact
    simp only [requests] at hserved hexact ⊢
    simp only [Balanced, credited, hcredit, hleft, hshipped, hfire, forall_const]
    simp only [credited] at hbal
    rw [← hexact]
    constructor
    · intro h
      obtain ⟨heq,_⟩ := h
      omega
    · intro heq
      exact ⟨by omega,by omega⟩
  · rename_i hidle
    constructor
    · intro _ hfire
      exact absurd hfire hidle
    · intro _
      exact ⟨hbal,hstock⟩

theorem step_balanced_iff (env : ManufacturingEnvironment) (op : EnvOp) (h : Balanced env) :
    Balanced (step env op) ↔ Covered env op := by
  cases op with
  | goodUnit =>
    obtain ⟨hbal,hstock⟩ := h
    refine iff_of_true ⟨?_,?_⟩ trivial
    · simpa [step, ManufacturingEnvironment.onGoodFinishedUnit, credited] using hbal
    · simp only [step, ManufacturingEnvironment.onGoodFinishedUnit,
        FinishedGoodsWarehouse.receive_stock]
      omega
  | shipments cycle => exact shipments_balanced_iff env cycle h
  | newOrder o =>
    obtain ⟨hbal,hstock⟩ := h
    refine iff_of_true ⟨?_,hstock⟩ trivial
    simpa [step, ManufacturingEnvironment.addOrder, Demand.DemandModel.addOrder, credited,
      InitialOrder.toDemand, Demand.CustomerOrder.new] using hbal

theorem addOrders_ledgers (specs : List InitialOrder) (env : ManufacturingEnvironment) :
    let env' := (specs.map (·.toDemand)).foldl (·.addOrder ·) env
    credited env' = credited env ∧ env'.warehouse = env.warehouse := by
  induction specs generalizing env with
  | nil => exact ⟨rfl,rfl⟩
  | cons o specs ih =>
    obtain ⟨hcredit,hwh⟩ := ih (env.addOrder o.toDemand)
    refine ⟨hcredit.trans ?_,hwh⟩
    simp [ManufacturingEnvironment.addOrder, Demand.DemandModel.addOrder, credited,
      InitialOrder.toDemand, Demand.CustomerOrder.new]

theorem start_balanced (sc : ScenarioConfig) (d : InitDraws) (hs : 0 ≤ sc.warehouseStock) :
    Balanced (scenarioEnv sc d) := by
  obtain ⟨hcredit,hwh⟩ := addOrders_ledgers sc.initialOrders (.new sc d)
  refine ⟨?_,?_⟩
  · exact hcredit.trans (congrArg FinishedGoodsWarehouse.totalShipped hwh).symm
  · exact hs.trans_eq (congrArg FinishedGoodsWarehouse.stock hwh).symm

/-- The stock half of the law needs no condition. -/
theorem step_stock_nonneg (env : ManufacturingEnvironment) (op : EnvOp)
    (h : 0 ≤ env.warehouse.stock) : 0 ≤ (step env op).warehouse.stock := by
  cases op with
  | goodUnit =>
    simp only [step, ManufacturingEnvironment.onGoodFinishedUnit,
      FinishedGoodsWarehouse.receive_stock]
    omega
  | shipments cycle =>
    simp only [step, ManufacturingEnvironment.processShipments]
    split
    · rw [(shipOrders_effect env.scenario cycle env.demand.orders env.warehouse h).2.1]
      exact sub_nonneg.mpr (Serve.sum_serve_le h (requests_nonneg env))
    · exact h
  | newOrder o => exact h

theorem stock_nonneg (sc : ScenarioConfig) (d : InitDraws) (ops : List EnvOp)
    (hs : 0 ≤ sc.warehouseStock) :
    0 ≤ (Runs.run step (scenarioEnv sc d) ops).warehouse.stock :=
  Runs.run_invariant step_stock_nonneg (start_balanced sc d hs).2

/-- The runs on which the two ledgers agree throughout are those whose every
shipping pass finds its requests covered by the stock. -/
theorem ledgers_agree_iff (sc : ScenarioConfig) (d : InitDraws) (ops : List EnvOp)
    (hs : 0 ≤ sc.warehouseStock) :
    Runs.Always step Balanced (scenarioEnv sc d) ops ↔
      Runs.Along step Covered (scenarioEnv sc d) ops :=
  Runs.always_iff_along (fun _ => True) (fun _ _ _ => trivial)
    (fun env op _ h => step_balanced_iff env op h) trivial (start_balanced sc d hs)

/-- A scenario with one order of three units, shipped three at a time. -/
def oneOrder (stock : Int) : ScenarioConfig :=
  { pressSensors := [], warehouseStock := stock, warehouseSafetyStock := 45,
    materialSteelStock := 850,
    initialOrders := [⟨"CO-001", "현대자동차", 3, "2026-04-04", "NORMAL"⟩],
    shipmentInterval := 2, shipmentBatchSize := 3 }

def plainDraws : InitDraws :=
  { ambient := 0, humidity := 0, quantity := fun _ => ⟨300, by decide, by decide⟩ }

theorem ledgers_agree_covered :
    Runs.Always step Balanced (scenarioEnv (oneOrder 4) plainDraws)
      [.shipments 2, .goodUnit] :=
  (ledgers_agree_iff (oneOrder 4) plainDraws [.shipments 2, .goodUnit] (by decide)).mpr
    ⟨fun _ => by decide,trivial,trivial⟩

/-- One unit in stock against a request of three: the order is credited with
three, the warehouse shipped one. -/
theorem short_stock_splits_ledgers :
    let env := Runs.run step (scenarioEnv (oneOrder 1) plainDraws) [.shipments 2]
    0 ≤ (oneOrder 1).warehouseStock ∧ credited env = 3 ∧ env.warehouse.totalShipped = 1 ∧
      ¬ Balanced env := by
  refine ⟨by decide,by decide,by decide,?_⟩
  intro hbalanced
  obtain ⟨h,_⟩ := hbalanced
  exact absurd h (by decide)

end ManufacturingMas.Proofs.ShipmentLedger
