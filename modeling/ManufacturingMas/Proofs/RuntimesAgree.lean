import ManufacturingMas.Proofs.LoopRefinement
import ManufacturingMas.Proofs.UnitBalance
import ManufacturingMas.Runtime.ScenarioEvents

/-! The two runtimes produce alike where the same events reach them and the same line speeds are
set. The speeds are inputs here: each runtime's own rounds choose them, from alerts that may
depend on its stock and its demand. -/

namespace ManufacturingMas.Proofs.RuntimesAgree
open Py Machines Environment ManufacturingEnv ScenarioRuntime FactoryEvents EnvLoops FactoryLoop
open ScenarioEvents FactoryCycle LoopRefinement Simulation

variable {f g : Factory} {s : LoopState} {rt : AgentRuntime}

/-- An order without what has been delivered of it. -/
def terms (o : Environment.CustomerOrder) : Environment.CustomerOrder := { o with delivered := 0 }

/-- The factories differ at most in the stock of finished units and in what has been delivered. -/
def Alike (f g : Factory) : Prop :=
  ∃ fg orders, g = { f with fgStock := fg, orders := orders } ∧
    orders.map terms = f.orders.map terms

theorem Alike.refl (f : Factory) : Alike f f := ⟨f.fgStock,f.orders,rfl,rfl⟩

/-! ### Cycles -/

theorem processShipments_terms (draw : Nat → RandInt 1 3) (i : Nat)
    (orders : List Environment.CustomerOrder) (fg : Int) :
    (processShipments draw i orders fg).1.map terms = orders.map terms := by
  induction orders generalizing i fg with
  | nil => rfl
  | cons o orders ih =>
    unfold processShipments
    split
    · exact congrArg (terms o :: ·) (ih _ _)
    · split
      · exact congrArg (terms o :: ·) (ih _ _)
      · exact congrArg (terms o :: ·) (ih _ _)

theorem finish_alike (h : Alike f g) (d : CycleDraws) (product : Product) :
    Alike (f.finish d product).1 (g.finish d product).1 ∧
      (f.finish d product).2 = (g.finish d product).2 := by
  obtain ⟨fg,orders,rfl,horders⟩ := h
  by_cases hpassed : product.status = .inProcess
  · rw [finish_passed _ _ hpassed, finish_passed _ _ hpassed]
    refine ⟨⟨_,_,rfl,?_⟩,rfl⟩
    exact (processShipments_terms ..).trans (horders.trans (processShipments_terms ..).symm)
  · rw [finish_rejected _ _ hpassed, finish_rejected _ _ hpassed]
    exact ⟨⟨fg,orders,rfl,horders⟩,rfl⟩

theorem endCycle_alike (h : Alike f g) (d : CycleDraws) (product : Product) :
    Alike (f.endCycle d product) (g.endCycle d product) := by
  obtain ⟨fg,orders,rfl,horders⟩ := h
  refine ⟨fg,orders,?_,?_⟩
  · unfold Factory.endCycle Factory.recordHourly
    dsimp only
    split <;> rfl
  · unfold Factory.endCycle Factory.recordHourly
    dsimp only
    split <;> exact horders

theorem Alike.cycle (h : Alike f g) : g.cycle = f.cycle := by
  obtain ⟨fg,orders,rfl,_⟩ := h
  rfl

/-- The factory of a cycle whose product has left the line, and the product. -/
def finished (f : Factory) (d : CycleDraws) : Factory × Product :=
  ((f.beginCycle d).1.afterLine (f.passLine d).1 (f.passLine d).2).finish d
    (f.passLine d).2.product

theorem runCycle_finished (f : Factory) (d : CycleDraws) : f.runCycle d =
    ((finished f d).1.endCycle d (finished f d).2,
      { cycle := (finished f d).1.cycle, product := (finished f d).2,
        readings := (f.passLine d).2.readings, shift := f.shiftMgr.current }) := rfl

/-- The line reads neither the stock nor the orders. -/
theorem finished_alike (h : Alike f g) (d : CycleDraws) :
    Alike (finished f d).1 (finished g d).1 ∧ (finished f d).2 = (finished g d).2 := by
  obtain ⟨fg,orders,rfl,horders⟩ := h
  have hafter : Alike ((f.beginCycle d).1.afterLine (f.passLine d).1 (f.passLine d).2)
      (({ f with fgStock := fg, orders := orders }.beginCycle d).1.afterLine
        (f.passLine d).1 (f.passLine d).2) := ⟨fg,orders,rfl,horders⟩
  exact finish_alike hafter d (f.passLine d).2.product

/-- A cycle of one is a cycle of the other, with the same result. -/
theorem runCycle_alike (h : Alike f g) (d : CycleDraws) :
    Alike (f.runCycle d).1 (g.runCycle d).1 ∧ (f.runCycle d).2 = (g.runCycle d).2 := by
  obtain ⟨hfinished,hproduct⟩ := finished_alike h d
  rw [runCycle_finished f, runCycle_finished g, ← hproduct, hfinished.cycle]
  refine ⟨endCycle_alike hfinished d _,?_⟩
  obtain ⟨fg,orders,rfl,_⟩ := h
  rfl

/-! ### The two loops -/

/-- What the scenario runtime does when the factory's own runtime does this, at the same line
speeds. Its event loop draws the order's number and its environment looks a material up by its
key. -/
def inScenario (s : LoopState) : LoopEvent → ScenarioEvent
  | .tick d => .tick d
  | .breakdown i repair => .breakdown i repair.val
  | .newOrder o => .newOrder
    { counter := s.orderCounter + 1, customer := customers o.customer, quantity := o.quantity
      urgent := o.urgency.val < 1/5 }
  | .toolWearSpike i spike => .toolWearSpike i (truncate spike.val)
  | .qualityDrift i sensor drift => .qualityDrift i sensor drift.val
  | .materialArrival i qty => .materialArrival ((s.factory.materials[i]?.map Prod.fst).getD "") qty
  | .speedRecovery i amount => .speedRecovery i amount
  | .ambientChange change => .ambientChange change
  | .setSpeed pct => .setSpeed pct

/-- The runtimes have factories that are alike, and have counted as many events. -/
structure Agree (s : LoopState) (rt : AgentRuntime) : Prop where
  factory : Alike s.factory rt.env.factory
  events : s.rt.totalEvents = rt.totalEvents
  materials : s.factory.materials.map Prod.fst = initMaterials.map Prod.fst

theorem Agree.counted (h : Agree s rt) (hfg : Alike f g)
    (hkeys : f.materials.map Prod.fst = s.factory.materials.map Prod.fst) :
    Agree (s.counted f) (ScenarioEvents.counted rt g) :=
  ⟨hfg,congrArg (· + 1) h.events,hkeys.trans h.materials⟩

/-- A change that reads and writes neither stock nor orders can be made to both. -/
theorem Alike.withLine (h : Alike f g) (change : List WorkCenter → List WorkCenter) :
    Alike { f with line := change f.line } { g with line := change g.line } := by
  obtain ⟨fg,orders,rfl,horders⟩ := h
  exact ⟨fg,orders,rfl,horders⟩

theorem Alike.withMaterials (h : Alike f g)
    (change : List (String × Material) → List (String × Material)) :
    Alike { f with materials := change f.materials }
      { g with materials := change g.materials } := by
  obtain ⟨fg,orders,rfl,horders⟩ := h
  exact ⟨fg,orders,rfl,horders⟩

theorem Alike.line (h : Alike f g) : g.line = f.line := by
  obtain ⟨fg,orders,rfl,_⟩ := h
  rfl

theorem Alike.materials (h : Alike f g) : g.materials = f.materials := by
  obtain ⟨fg,orders,rfl,_⟩ := h
  rfl

theorem Alike.trans {k : Factory} (h : Alike f g) (h' : Alike g k) : Alike f k := by
  obtain ⟨fg,orders,rfl,horders⟩ := h
  obtain ⟨fg',orders',rfl,horders'⟩ := h'
  exact ⟨fg',orders',rfl,horders'.trans horders⟩

theorem atStation_agrees (h : Agree s rt) (i : Nat) (happens : WorkCenter → Bool)
    (change : WorkCenter → WorkCenter) :
    Agree (s.atStation i happens change) (ScenarioEvents.atStation rt i happens change) := by
  unfold LoopState.atStation ScenarioEvents.atStation
  dsimp only
  rw [h.factory.line]
  split
  · have hline := h.factory.withLine fun line => line.modify i change
    rw [h.factory.line] at hline
    exact h.counted hline rfl
  · exact h

/-- Shipping from the warehouse reaches the factory's stock at most. -/
theorem shippedEnv_alike (rt : AgentRuntime) (d : TickDraws) :
    Alike (rt.env.factory.runCycle d.cycle).1 (shippedEnv rt d).factory := by
  unfold shippedEnv
  dsimp only
  rw [UnitBalance.env_processShipments_factory]
  split
  · unfold ManufacturingEnvironment.onGoodFinishedUnit
    dsimp only
    split
    · exact ⟨_,_,rfl,rfl⟩
    · exact .refl _
  · exact .refl _

theorem tick_agrees (h : Agree s rt) (d : TickDraws) : Agree (s.tick d) (rt.envLoop d) := by
  have hcycle : Alike (s.factory.runCycle d.cycle).1 (shippedEnv rt d).factory :=
    (runCycle_alike h.factory d.cycle).1.trans (shippedEnv_alike rt d)
  rw [envLoop_shippedEnv]
  constructor
  · have hline := hcycle.withLine fun line => line.mapIdx fun i wc =>
      AgentRuntime.repairStation d.dynamics i (AgentRuntime.recoverSensors d.dynamics i wc)
    exact hline.withMaterials fun materials =>
      materials.mapIdx fun i p => (p.1,AgentRuntime.restock d.dynamics i p.2)
  · change s.rt.totalEvents + _ = rt.totalEvents + _
    rw [h.events, hcycle.materials]
  · have hkeys := event_keys s.factory (.runCycle d.cycle)
    have hrestocked := Pointwise.map_mapIdx_same (g := Prod.fst)
      (f := fun i p => (p.1,AgentRuntime.restock d.dynamics i p.2)) (fun _ _ => rfl)
      (s.factory.runCycle d.cycle).1.materials
    exact hrestocked.trans (hkeys.trans h.materials)

/-- The result of an iteration's cycle. -/
def loopResult (s : LoopState) : LoopEvent → List Factory.CycleResult
  | .tick d => [(s.factory.runCycle d.cycle).2]
  | _ => []

def scenarioResult (rt : AgentRuntime) : ScenarioEvent → List Factory.CycleResult
  | .tick d => [(rt.env.factory.runCycle d.cycle).2]
  | _ => []

theorem initial_keys : (initMaterials.map Prod.fst).Nodup ∧ "" ∉ initMaterials.map Prod.fst := by
  simp [initMaterials]

/-- An arrival at a position and one under the key found there. -/
theorem arrival_agrees (h : Agree s rt) (i : Nat) (qty : RandInt 300 800) :
    Agree (LoopEvent.apply s (.materialArrival i qty))
      ((inScenario s (.materialArrival i qty)).apply rt) := by
  obtain ⟨hnodup,hunnamed⟩ := initial_keys
  rw [← h.materials] at hnodup hunnamed
  have hqty : ((qty.val.toNat : Nat) : Int) = qty.val :=
    Int.toNat_of_nonneg (le_trans (by omega) qty.lo_le)
  have hsame : receiveMaterial ((s.factory.materials[i]?.map Prod.fst).getD "") qty.val.toNat
      s.factory.materials = s.factory.materials.modify i (LoopState.receive qty) := by
    cases hm : s.factory.materials[i]? with
    | none =>
      rw [List.modify_eq_self (List.getElem?_eq_none_iff.mp hm)]
      have hother : ∀ p ∈ s.factory.materials, p.1 ≠ "" := by
        rintro p hp hkey
        exact hunnamed (hkey ▸ List.mem_map_of_mem hp)
      unfold receiveMaterial
      exact (List.map_congr_left fun p hp => if_neg (hother p hp)).trans (List.map_id' _)
    | some p =>
      obtain ⟨key,m⟩ := p
      have hreceived := receive_modify hnodup hm qty.val.toNat
      rw [hqty] at hreceived
      exact hreceived
  have hmaterials := h.factory.withMaterials
    (receiveMaterial ((s.factory.materials[i]?.map Prod.fst).getD "") qty.val.toNat)
  rw [hsame] at hmaterials
  refine h.counted hmaterials ?_
  rw [← hsame]
  exact event_keys s.factory (.materialArrival _ _)

theorem newOrder_agrees (h : Agree s rt) (o : FactoryLoop.OrderDraws) :
    Agree (LoopEvent.apply s (.newOrder o)) ((inScenario s (.newOrder o)).apply rt) := by
  let drawn : ScenarioEvents.OrderDraws :=
    { counter := s.orderCounter + 1, customer := customers o.customer, quantity := o.quantity
      urgent := o.urgency.val < 1/5 }
  have horder : drawn.factoryOrder = o.order (s.orderCounter + 1) := by
    simp [drawn, ScenarioEvents.OrderDraws.factoryOrder, FactoryLoop.OrderDraws.order]
  have hfactory : Alike
      { s.factory with orders := s.factory.orders ++ [o.order (s.orderCounter + 1)] }
      { rt.env.factory with orders := rt.env.factory.orders ++ [drawn.factoryOrder] } := by
    obtain ⟨fg,orders,hg,horders⟩ := h.factory
    rw [hg, horder]
    exact ⟨fg,_,rfl,by simp [horders]⟩
  exact ⟨hfactory,congrArg (· + 1) h.events,h.materials⟩

theorem apply_agrees (s : LoopState) (rt : AgentRuntime) (e : LoopEvent) (h : Agree s rt) :
    Agree (e.apply s) ((inScenario s e).apply rt) ∧
      loopResult s e = scenarioResult rt (inScenario s e) := by
  cases e with
  | tick d => exact ⟨tick_agrees h d,congrArg (fun r => [r]) (runCycle_alike h.factory d.cycle).2⟩
  | breakdown i repair => exact ⟨atStation_agrees h i _ _,rfl⟩
  | newOrder o => exact ⟨newOrder_agrees h o,rfl⟩
  | toolWearSpike i spike => exact ⟨atStation_agrees h i _ _,rfl⟩
  | qualityDrift i sensor drift => exact ⟨atStation_agrees h i _ _,rfl⟩
  | materialArrival i qty => exact ⟨arrival_agrees h i qty,rfl⟩
  | speedRecovery i amount => exact ⟨atStation_agrees h i _ _,rfl⟩
  | ambientChange change =>
    refine ⟨h.counted ?_ rfl,rfl⟩
    obtain ⟨fg,orders,hg,horders⟩ := h.factory
    rw [hg]
    exact ⟨fg,orders,rfl,horders⟩
  | setSpeed pct =>
    have hline := h.factory.withLine (List.map fun wc : WorkCenter => wc.setSpeed pct)
    exact ⟨⟨hline,h.events,h.materials⟩,rfl⟩

/-! ### Whole runs -/

/-- The factory's own runtime on the factory of the scenario. -/
def beside (rt : AgentRuntime) : LoopState :=
  { rt := { factory := rt.env.factory, totalEvents := 0 }
    orderCounter := rt.env.factory.orders.length }

theorem started_keys (sc : ScenarioConfig) (d : InitDraws) (safetyStock : Int) :
    (AgentRuntime.started sc d safetyStock).env.factory.materials.map Prod.fst =
      initMaterials.map Prod.fst := by
  have hsensors : ∀ f, (applyScenarioSensors sc f).materials = f.materials := by
    intro f
    unfold applyScenarioSensors
    split <;> rfl
  have hmaterials : ∀ f, (applyScenarioMaterials sc f).materials.map Prod.fst =
      f.materials.map Prod.fst := by
    intro f
    unfold applyScenarioMaterials
    rw [List.map_map]
    apply List.map_congr_left
    intro p _
    dsimp only [Function.comp_apply]
    split <;> rfl
  change (scenarioEnv sc d).factory.materials.map Prod.fst = _
  rw [scenarioEnv, (UnitBalance.addOrders_factory _ _).1]
  change (applyScenarioSensors sc _).materials.map Prod.fst = _
  rw [hsensors]
  exact hmaterials (Factory.new d)

/-- In every run the scenario runtime produces what the factory's own runtime produces on the
same factory under the same events and speeds: the cycles have the same results, and the
factories stay alike, whatever the scenario's iterations ship from the warehouse and take out of
the factory's stock. -/
theorem runtimes_agree (sc : ScenarioConfig) (d : InitDraws) (safetyStock : Int)
    (es : List LoopEvent) :
    let rt := AgentRuntime.started sc d safetyStock
    let es' := translated LoopEvent.apply inScenario (beside rt) es
    Agree (Runs.run LoopEvent.apply (beside rt) es) (Runs.run ScenarioEvent.apply rt es') ∧
      Runs.outputs LoopEvent.apply loopResult (beside rt) es =
        Runs.outputs ScenarioEvent.apply scenarioResult rt es' := by
  intro rt es'
  have hstart : Agree (beside rt) rt := ⟨.refl _,rfl,started_keys sc d safetyStock⟩
  exact lockstep apply_agrees hstart es

end ManufacturingMas.Proofs.RuntimesAgree
