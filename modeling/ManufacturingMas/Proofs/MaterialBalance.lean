import ManufacturingMas.Lib.Assoc
import ManufacturingMas.Lib.Runs
import ManufacturingMas.Proofs.FactoryCycle

/-! What the production cycles take of a material, against what was there and what
arrived. -/

namespace ManufacturingMas.Proofs.MaterialBalance
open Py Environment FactoryEvents UnitBalance FactoryCycle

def stockOf (f : Factory) (key : String) : Int :=
  ((Assoc.get f.materials key).map (·.stock)).getD 0

/-- The material of the key is consumed by whole units, `c` for one product. -/
def ConsumesPerUnit (f : Factory) (key : String) (c : Nat) : Prop :=
  ∃ m, Assoc.get f.materials key = some m ∧ m.consumptionPerUnit = c

/-- What an event brings of the material of a key. -/
def received (key : String) (_ : Factory) : FactoryEvent → List Int
  | .materialArrival k qty => if k = key then [(qty : Int)] else []
  | _ => []

/-- What a cycle takes of the material of a key: `c` units, or all there are. -/
def drawn (key : String) (c : Nat) (f : Factory) : FactoryEvent → List Int
  | .runCycle _ => [min (c : Int) (stockOf f key)]
  | _ => []

/-- A cycle that ends with a good product finds what one product needs. -/
def Supplied (key : String) (c : Nat) (f : Factory) (e : FactoryEvent) : Prop :=
  .good ∈ endStatus f e → (c : Int) ≤ stockOf f key

theorem consume_whole {m : Material} {c : Nat} (h : m.consumptionPerUnit = c) (draw : Unit01) :
    (m.consume draw).stock = m.stock - min (c : Int) m.stock := by
  have hwhole : truncate m.consumptionPerUnit = c := by
    rw [h]
    exact truncate_intCast c
  have hexact : ¬ draw.val < m.consumptionPerUnit - (c : Int) := by
    rw [h]
    simpa using draw.nonneg
  unfold Material.consume
  simp only [hwhole, hexact, if_false]
  omega

theorem get_consumeMaterials (draw : Nat → Unit01) (i : Nat)
    (materials : List (String × Material)) (key : String) :
    ∃ outcome, Assoc.get (consumeMaterials draw i materials) key =
      (Assoc.get materials key).map (·.consume outcome) := by
  induction materials generalizing i with
  | nil => exact ⟨draw i,rfl⟩
  | cons p rest ih =>
    obtain ⟨k,m⟩ := p
    by_cases hk : k = key
    · exact ⟨draw i,by simp [consumeMaterials, hk]⟩
    · obtain ⟨outcome,hrest⟩ := ih (i + 1)
      exact ⟨outcome,by simp [consumeMaterials, hk, hrest]⟩

theorem get_receiveMaterial (k : String) (qty : Nat) (materials : List (String × Material))
    (key : String) : Assoc.get (receiveMaterial k qty materials) key =
      (Assoc.get materials key).map fun m =>
        if key = k then { m with stock := m.stock + qty } else m := by
  induction materials with
  | nil => rfl
  | cons p rest ih =>
    obtain ⟨j,m⟩ := p
    unfold receiveMaterial at ih ⊢
    by_cases hj : j = key
    · subst hj
      by_cases hk : j = k <;> simp [hk]
    · by_cases hk : j = k
      · subst hk
        simp [hj, ih]
      · simp [hk, hj, ih]

theorem runCycle_stock {f : Factory} {key : String} {c : Nat} (h : ConsumesPerUnit f key c)
    (d : CycleDraws) : ConsumesPerUnit (f.runCycle d).1 key c ∧
      stockOf (f.runCycle d).1 key = stockOf f key - min (c : Int) (stockOf f key) := by
  obtain ⟨m,hm,hconsumes⟩ := h
  obtain ⟨outcome,hget⟩ := get_consumeMaterials d.material 0 f.materials key
  rw [hm] at hget
  constructor
  · refine ⟨m.consume outcome,?_,hconsumes⟩
    rw [runCycle_materials]
    exact hget
  · unfold stockOf
    rw [runCycle_materials, hget, hm]
    exact consume_whole hconsumes outcome

/-- One event moves the stock of a material by what it brings and what it takes. -/
theorem apply_stock {f : Factory} {key : String} {c : Nat} (h : ConsumesPerUnit f key c)
    (e : FactoryEvent) : ConsumesPerUnit (e.apply f) key c ∧
      stockOf (e.apply f) key + (drawn key c f e).sum =
        stockOf f key + (received key f e).sum := by
  cases e with
  | runCycle d =>
    obtain ⟨hkept,hstock⟩ := runCycle_stock h d
    refine ⟨hkept,?_⟩
    simp only [FactoryEvent.apply, hstock, drawn, received, List.sum_singleton, List.sum_nil]
    omega
  | materialArrival k qty =>
    obtain ⟨m,hm,hconsumes⟩ := h
    have hget := get_receiveMaterial k qty f.materials key
    rw [hm] at hget
    constructor
    · refine ⟨_,hget,?_⟩
      split <;> exact hconsumes
    · have hstock : stockOf (FactoryEvent.apply f (.materialArrival k qty)) key =
          if key = k then m.stock + qty else m.stock := by
        change ((Assoc.get (receiveMaterial k qty f.materials) key).map (·.stock)).getD 0 = _
        rw [hget]
        simp only [Option.map_some, Option.getD_some]
        split <;> rfl
      have hbefore : stockOf f key = m.stock := by
        unfold stockOf
        rw [hm]
        rfl
      rw [hstock, hbefore]
      by_cases hk : key = k
      · simp [received, drawn, hk]
      · simp [received, drawn, hk, Ne.symm hk]
  | station i e => exact ⟨h,rfl⟩
  | newOrder o => exact ⟨h,rfl⟩
  | ambientChange temp => exact ⟨h,rfl⟩

theorem run_stock {f : Factory} {key : String} {c : Nat} (h : ConsumesPerUnit f key c)
    (es : List FactoryEvent) : ConsumesPerUnit (Runs.run FactoryEvent.apply f es) key c ∧
      stockOf (Runs.run FactoryEvent.apply f es) key +
          (Runs.outputs FactoryEvent.apply (drawn key c) f es).sum =
        stockOf f key + (Runs.outputs FactoryEvent.apply (received key) f es).sum := by
  induction es generalizing f with
  | nil => exact ⟨h,rfl⟩
  | cons e es ih =>
    obtain ⟨hkept,hstep⟩ := apply_stock h e
    obtain ⟨hend,hrun⟩ := ih hkept
    refine ⟨hend,?_⟩
    simp only [Runs.run_cons, Runs.outputs, List.sum_append]
    omega

theorem apply_stock_nonneg {f : Factory} {key : String} {c : Nat} (h : ConsumesPerUnit f key c)
    (hstock : 0 ≤ stockOf f key) (e : FactoryEvent) :
    0 ≤ stockOf (e.apply f) key ∧ 0 ≤ (drawn key c f e).sum := by
  obtain ⟨_,hstep⟩ := apply_stock h e
  cases e with
  | runCycle d =>
    simp only [drawn, received, List.sum_singleton, List.sum_nil] at hstep ⊢
    constructor <;> omega
  | materialArrival k qty =>
    have hqty : 0 ≤ (received key f (.materialArrival k qty)).sum := by
      by_cases hk : k = key <;> simp [received, hk]
    have hnone : (drawn key c f (.materialArrival k qty)).sum = 0 := rfl
    constructor <;> omega
  | station i e => exact ⟨hstock,le_refl 0⟩
  | newOrder o => exact ⟨hstock,le_refl 0⟩
  | ambientChange temp => exact ⟨hstock,le_refl 0⟩

theorem run_stock_nonneg {f : Factory} {key : String} {c : Nat} (h : ConsumesPerUnit f key c)
    (hstock : 0 ≤ stockOf f key) (es : List FactoryEvent) :
    0 ≤ stockOf (Runs.run FactoryEvent.apply f es) key := by
  have hkeep : ∀ (f : Factory) (e : FactoryEvent),
      ConsumesPerUnit f key c ∧ 0 ≤ stockOf f key →
      ConsumesPerUnit (e.apply f) key c ∧ 0 ≤ stockOf (e.apply f) key := by
    intro f e hf
    exact ⟨(apply_stock hf.1 e).1,(apply_stock_nonneg hf.1 hf.2 e).1⟩
  exact (Runs.run_invariant hkeep ⟨h,hstock⟩).2

/-- While the good products find their material, it has been drawn for each of them. -/
theorem good_drawn {f : Factory} {key : String} {c : Nat} (h : ConsumesPerUnit f key c)
    (hstock : 0 ≤ stockOf f key) (es : List FactoryEvent)
    (hsupplied : Runs.Along FactoryEvent.apply (Supplied key c) f es) :
    (c : Int) * (Runs.outputs FactoryEvent.apply endStatus f es).count .good ≤
      (Runs.outputs FactoryEvent.apply (drawn key c) f es).sum := by
  induction es generalizing f with
  | nil => simp [Runs.outputs]
  | cons e es ih =>
    obtain ⟨hnow,hlater⟩ := hsupplied
    obtain ⟨hnext,hdrawn⟩ := apply_stock_nonneg h hstock e
    have hrest := ih (apply_stock h e).1 hnext hlater
    have hhead : (c : Int) * (endStatus f e).count .good ≤ (drawn key c f e).sum := by
      by_cases hgood : .good ∈ endStatus f e
      · cases e with
        | runCycle d =>
          have hfinal : endStatus f (.runCycle d) = [.good] := by
            simpa [endStatus, eq_comm] using hgood
          simp [hfinal, drawn, hnow hgood]
        | _ => simp [endStatus] at hgood
      · rw [List.count_eq_zero_of_not_mem hgood]
        simpa using hdrawn
    simp only [Runs.outputs, List.count_append, List.sum_append, Nat.cast_add, mul_add]
    omega

/-- Every cycle takes of each material what one product needs, or all there is of
it, whatever became of its product; so the good products are covered by what was
there and what arrived as long as each of them found its material. -/
theorem materials_balanced (f : Factory) (key : String) (c : Nat) (es : List FactoryEvent)
    (h : ConsumesPerUnit f key c) (hstock : 0 ≤ stockOf f key) :
    let g := Runs.run FactoryEvent.apply f es
    let arrived := (Runs.outputs FactoryEvent.apply (received key) f es).sum
    stockOf g key + (Runs.outputs FactoryEvent.apply (drawn key c) f es).sum =
        stockOf f key + arrived ∧ 0 ≤ stockOf g key ∧
      (∀ d, stockOf (g.runCycle d).1 key = stockOf g key - min (c : Int) (stockOf g key)) ∧
      (Runs.Along FactoryEvent.apply (Supplied key c) f es →
        (c : Int) * (Runs.outputs FactoryEvent.apply endStatus f es).count .good ≤
          stockOf f key + arrived) := by
  intro g arrived
  obtain ⟨hkept,hrun⟩ := run_stock h es
  have hleft := run_stock_nonneg h hstock es
  refine ⟨hrun,hleft,?_,?_⟩
  · intro d
    exact (runCycle_stock hkept d).2
  · intro hsupplied
    have hgood := good_drawn h hstock es hsupplied
    exact hgood.trans (by omega)

/-- A factory as it is built, with the given stock of steel. -/
def steelFactory (stock : Int) : Factory :=
  ManufacturingEnv.applyScenarioMaterials
    { ShipmentLedger.oneOrder 0 with materialSteelStock := stock }
    (Factory.new ShipmentLedger.plainDraws)

def quietCycle : FactoryEvent := .runCycle quietTick.cycle

theorem materials_balanced_steel :
    (1 : Int) * (Runs.outputs FactoryEvent.apply endStatus (steelFactory 850) [quietCycle]).count
      .good ≤ stockOf (steelFactory 850) "강판" +
        (Runs.outputs FactoryEvent.apply (received "강판") (steelFactory 850) [quietCycle]).sum :=
  (materials_balanced (steelFactory 850) "강판" 1 [quietCycle] ⟨_,rfl,rfl⟩ (by decide)).2.2.2
    ⟨fun _ => by decide,trivial⟩

/-- With no steel at all a good unit is made, and a cycle that no station takes
part in uses one unit of steel. -/
theorem production_outruns_materials :
    (Runs.outputs FactoryEvent.apply endStatus (steelFactory 0) [quietCycle]).count .good = 1 ∧
    stockOf (steelFactory 0) "강판" +
      (Runs.outputs FactoryEvent.apply (received "강판") (steelFactory 0) [quietCycle]).sum = 0 ∧
    (let broken := FactoryEvent.apply (steelFactory 850) (.station 0 (.triggerBreakdown 600))
     (broken.passLine quietTick.cycle).1 = broken.line ∧ stockOf broken "강판" = 850 ∧
       stockOf (broken.runCycle quietTick.cycle).1 "강판" = 849) := by
  refine ⟨by decide +kernel,by decide,?_,by decide,by decide +kernel⟩
  rfl

end ManufacturingMas.Proofs.MaterialBalance
