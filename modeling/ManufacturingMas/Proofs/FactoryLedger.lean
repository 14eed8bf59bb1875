import ManufacturingMas.Lib.Runs
import ManufacturingMas.Proofs.FactoryCycle

/-! The factory's own books over whole runs: finished units, orders, and what
became of every product. -/

namespace ManufacturingMas.Proofs.FactoryLedger
open Py Environment FactoryEvents UnitBalance FactoryCycle

def WithinOrder (o : CustomerOrder) : Prop := 0 ≤ o.delivered ∧ o.delivered ≤ o.quantity

theorem shipment_within {o : CustomerOrder} (h : WithinOrder o) {ship : Int}
    (hpos : 0 ≤ ship) (hle : ship ≤ o.remaining) :
    WithinOrder { o with delivered := o.delivered + ship } := by
  obtain ⟨hlow,hhigh⟩ := h
  have hrem : o.remaining = o.quantity - o.delivered := by
    unfold CustomerOrder.remaining
    omega
  constructor
  · change 0 ≤ o.delivered + ship
    omega
  · change o.delivered + ship ≤ o.quantity
    omega

theorem processShipments_within (draw : Nat → RandInt 1 3) (i : Nat)
    (orders : List CustomerOrder) (fg : Int) (h : ∀ o ∈ orders, WithinOrder o) :
    ∀ o ∈ (processShipments draw i orders fg).1, WithinOrder o := by
  induction orders generalizing i fg with
  | nil => simp [processShipments]
  | cons o rest ih =>
    have ho := h o List.mem_cons_self
    have hrest := fun j left => ih j left fun p hp => h p (List.mem_cons_of_mem _ hp)
    unfold processShipments
    split
    · exact List.forall_mem_cons.mpr ⟨ho,hrest _ _⟩
    · split
      · rename_i hopen hfg
        refine List.forall_mem_cons.mpr ⟨shipment_within ho ?_ (min_le_right _ _),hrest _ _⟩
        have hdraw := (draw i).lo_le
        have hrem := remaining_pos (by simpa using hopen)
        exact le_min (le_min (by omega) hfg.le) hrem.le
      · exact List.forall_mem_cons.mpr ⟨ho,hrest _ _⟩

/-- Shipping moves units from the stock to the orders, never more than there are. -/
theorem processShipments_moves (draw : Nat → RandInt 1 3) (orders : List CustomerOrder)
    {fg : Int} (hfg : 0 ≤ fg) :
    (processShipments draw 0 orders fg).2 + deliveredSum (processShipments draw 0 orders fg).1 =
      fg + deliveredSum orders ∧ 0 ≤ (processShipments draw 0 orders fg).2 := by
  obtain ⟨hdelivered,hleft⟩ := processShipments_effect draw 0 orders fg hfg
  have hserved := Serve.sum_serve_le hfg (takes_nonneg draw 0 orders)
  constructor <;> omega

theorem consumeMaterials_nonneg (draw : Nat → Unit01) (i : Nat)
    (materials : List (String × Material)) :
    ∀ p ∈ consumeMaterials draw i materials, 0 ≤ p.2.stock := by
  induction materials generalizing i with
  | nil => simp [consumeMaterials]
  | cons p rest ih => exact List.forall_mem_cons.mpr ⟨le_max_left _ _,ih (i + 1)⟩

theorem receiveMaterial_nonneg (key : String) (qty : Nat) {materials : List (String × Material)}
    (h : ∀ p ∈ materials, 0 ≤ p.2.stock) :
    ∀ p ∈ receiveMaterial key qty materials, 0 ≤ p.2.stock := by
  intro p hp
  obtain ⟨q,hq,rfl⟩ := List.mem_map.mp hp
  have hstock := h q hq
  split
  · exact add_nonneg hstock (Int.natCast_nonneg qty)
  · exact hstock

/-- The factory's books agree; `holds` is the number of cycles whose product was held. -/
structure Conserved (f : Factory) (holds : Nat) : Prop where
  produced : f.totalProduced = f.fgStock + deliveredSum f.orders
  finished : f.totalProduced = f.finishedGoods.length
  delivered : ∀ o ∈ f.orders, WithinOrder o
  stock : 0 ≤ f.fgStock
  materials : ∀ p ∈ f.materials, 0 ≤ p.2.stock
  cycles : f.cycle = f.totalProduced + f.scrapCount + f.reworkCount + holds

/-- Every status a cycle ends with is counted once. -/
theorem one_each {s : ProductStatus} (h : s ≠ .inProcess) :
    one .good s + one .scrap s + one .rework s + one .hold s = 1 := by
  cases s with
  | inProcess => exact absurd rfl h
  | good => rfl
  | rework => rfl
  | scrap => rfl
  | hold => rfl

/-- What a cycle does to the stock of finished units and to the orders. -/
theorem runCycle_units {f : Factory} {holds : Nat} (h : Conserved f holds) (d : CycleDraws) :
    (f.runCycle d).1.totalProduced =
      (f.runCycle d).1.fgStock + deliveredSum (f.runCycle d).1.orders ∧
    0 ≤ (f.runCycle d).1.fgStock ∧ ∀ o ∈ (f.runCycle d).1.orders, WithinOrder o := by
  have hbooks := runCycle_books f d
  have hproduced := h.produced
  by_cases hpass : PassesLine f d
  · rw [if_pos hpass] at hbooks
    simp only [books, oneMore, Prod.mk.injEq] at hbooks
    obtain ⟨hfg,htotal,horders⟩ := hbooks
    obtain ⟨hsum,hleft⟩ := processShipments_moves d.shipment f.orders
      (show 0 ≤ f.fgStock + 1 by have := h.stock; omega)
    rw [htotal, hfg, horders]
    refine ⟨by omega,hleft,?_⟩
    exact processShipments_within d.shipment 0 f.orders _ h.delivered
  · rw [if_neg hpass] at hbooks
    simp only [books, Prod.mk.injEq] at hbooks
    obtain ⟨hfg,htotal,horders⟩ := hbooks
    rw [htotal, hfg, horders]
    exact ⟨hproduced,h.stock,h.delivered⟩

theorem runCycle_conserved {f : Factory} {holds : Nat} (h : Conserved f holds) (d : CycleDraws) :
    Conserved (f.runCycle d).1 (holds + [finalStatus f d].count .hold) := by
  obtain ⟨hproduced,hstock,hdelivered⟩ := runCycle_units h d
  have htotal := runCycle_produced f d
  obtain ⟨hscrap,hrework⟩ := runCycle_rejects f d
  have hone := one_each (finalStatus_terminal f d)
  have hhold : (([finalStatus f d].count .hold : Nat) : Int) = one .hold (finalStatus f d) := by
    unfold one
    split <;> simp_all
  constructor
  · exact hproduced
  · rw [htotal, runCycle_finishedGoods, h.finished]
  · exact hdelivered
  · exact hstock
  · rw [runCycle_materials]
    exact consumeMaterials_nonneg _ _ _
  · have hcycles := h.cycles
    rw [runCycle_cycle, htotal, hscrap, hrework, Nat.cast_add, hhold]
    omega

theorem apply_conserved {f : Factory} {holds : Nat} (h : Conserved f holds) (e : FactoryEvent) :
    Conserved (e.apply f) (holds + (endStatus f e).count .hold) := by
  cases e with
  | runCycle d => exact runCycle_conserved h d
  | station i e => exact ⟨h.produced,h.finished,h.delivered,h.stock,h.materials,h.cycles⟩
  | ambientChange temp => exact ⟨h.produced,h.finished,h.delivered,h.stock,h.materials,h.cycles⟩
  | materialArrival key qty =>
    exact ⟨h.produced,h.finished,h.delivered,h.stock,receiveMaterial_nonneg key qty h.materials,
      h.cycles⟩
  | newOrder o =>
    refine ⟨?_,h.finished,?_,h.stock,h.materials,h.cycles⟩
    · have hproduced := h.produced
      simp only [FactoryEvent.apply, deliveredSum, NewOrder.toOrder, List.map_append,
        List.map_cons, List.map_nil, List.sum_append, List.sum_cons, List.sum_nil, add_zero]
      exact hproduced
    · intro p hp
      rcases List.mem_append.mp hp with hp | hp
      · exact h.delivered p hp
      · rw [List.mem_singleton.mp hp]
        exact ⟨le_refl 0,o.positive.le⟩

theorem new_conserved (d : InitDraws) : Conserved (Factory.new d) 0 := by
  have hmaterials : ∀ p ∈ initMaterials, 0 ≤ p.2.stock := by decide
  refine ⟨rfl,rfl,?_,le_refl 0,hmaterials,rfl⟩
  intro o ho
  simp only [Factory.new, initOrders, List.mem_cons, List.not_mem_nil, or_false] at ho
  rcases ho with rfl | rfl | rfl | rfl
  all_goals
    refine ⟨le_refl 0,?_⟩
    exact le_trans (by omega : (0 : Int) ≤ 300) (d.quantity _).lo_le

/-- In every run of a factory its books agree after every event. -/
theorem factory_conserved (d : InitDraws) (es : List FactoryEvent) :
    Conserved (Runs.run FactoryEvent.apply (Factory.new d) es)
      ((Runs.outputs FactoryEvent.apply endStatus (Factory.new d) es).count .hold) := by
  have hkeep : ∀ (ended : List ProductStatus) (f : Factory) (e : FactoryEvent),
      Conserved f (ended.count .hold) →
      Conserved (e.apply f) ((ended ++ endStatus f e).count .hold) := by
    intro ended f e h
    rw [List.count_append]
    exact apply_conserved h e
  exact Runs.outputs_invariant_nil hkeep (new_conserved d)

end ManufacturingMas.Proofs.FactoryLedger
