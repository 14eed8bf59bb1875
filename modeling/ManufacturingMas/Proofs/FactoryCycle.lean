import ManufacturingMas.Proofs.UnitBalance
import ManufacturingMas.Runtime.FactoryEvents

/-! What one production cycle can do, as the cases of a product's way through the
line and the changes it makes to the factory. -/

namespace ManufacturingMas.Proofs.FactoryCycle
open Py Machines Environment BusinessEvents UnitBalance

/-! ### The way through the line -/

/-- The line stops at the station. -/
def Stopped (s : WorkCenter) : Prop := s.state = .breakdown ∨ s.state = .maintenance

instance (s : WorkCenter) : Decidable (Stopped s) := inferInstanceAs (Decidable (_ ∨ _))

/-- The verdict on a product at a station that is not stopped. -/
def verdict (ctx : LineContext) (d : StationDraws) (s : WorkCenter) : Bool :=
  let run := s.executeCycle ctx.shiftFactor ctx.ambientTemp d
  judgeQuality run.1 run.2 d.judge

def visited (ctx : LineContext) (d : StationDraws) (s : WorkCenter) : WorkCenter :=
  (s.executeCycle ctx.shiftFactor ctx.ambientTemp d).1.recordQuality (verdict ctx d s)

def held (s : WorkCenter) (st : LineState) : LineState :=
  { st with product := { st.product with
    status := .hold
    defectCodes := st.product.defectCodes ++ [s.stationId ++ "_정지"] } }

/-- The line's own state after the verdict of a station. -/
def inspected (ctx : LineContext) (d : StationDraws) (idx : Nat) (s : WorkCenter)
    (st : LineState) : LineState := (visit ctx d idx s st).2.2

/-- The ways of a product through the line: to its end, to a stopped station, or
to a verdict that rejects it. -/
inductive Passage (ctx : LineContext) (d : Nat → StationDraws) :
    Nat → List WorkCenter → LineState → List WorkCenter → LineState → Prop
  | done {idx : Nat} {st : LineState} : Passage ctx d idx [] st [] st
  | stopped {idx : Nat} {s : WorkCenter} {rest : List WorkCenter} {st : LineState}
      (hstop : Stopped s) : Passage ctx d idx (s :: rest) st (s :: rest) (held s st)
  | rejected {idx : Nat} {s : WorkCenter} {rest : List WorkCenter} {st : LineState}
      (hrun : ¬ Stopped s) (hbad : verdict ctx (d idx) s = false) :
      Passage ctx d idx (s :: rest) st (visited ctx (d idx) s :: rest)
        (reject ctx (visited ctx (d idx) s) (d idx).rework (inspected ctx (d idx) idx s st))
  | passed {idx : Nat} {s : WorkCenter} {rest rest' : List WorkCenter} {st st' : LineState}
      (hrun : ¬ Stopped s) (hgood : verdict ctx (d idx) s = true)
      (h : Passage ctx d (idx + 1) rest (inspected ctx (d idx) idx s st) rest' st') :
      Passage ctx d idx (s :: rest) st (visited ctx (d idx) s :: rest') st'

theorem runLine_passage (ctx : LineContext) (d : Nat → StationDraws) (idx : Nat)
    (line : List WorkCenter) (st : LineState) (h : st.product.status = .inProcess) :
    Passage ctx d idx line st (runLine ctx d idx line st).1 (runLine ctx d idx line st).2 := by
  induction line generalizing idx st with
  | nil => exact .done
  | cons s rest ih =>
    by_cases hstop : Stopped s
    · have hrun : runLine ctx d idx (s :: rest) st = (s :: rest, held s st) := if_pos hstop
      rw [hrun]
      exact .stopped hstop
    · cases hv : verdict ctx (d idx) s with
      | false =>
        have hrun : runLine ctx d idx (s :: rest) st = (visited ctx (d idx) s :: rest,
            reject ctx (visited ctx (d idx) s) (d idx).rework
              (inspected ctx (d idx) idx s st)) := by
          refine (if_neg hstop).trans (if_pos ?_)
          change (!verdict ctx (d idx) s && decide (st.product.status = .inProcess)) = true
          simp [hv, h]
        rw [hrun]
        exact .rejected hstop hv
      | true =>
        have hrun : runLine ctx d idx (s :: rest) st = (visited ctx (d idx) s ::
            (runLine ctx d (idx + 1) rest (inspected ctx (d idx) idx s st)).1,
            (runLine ctx d (idx + 1) rest (inspected ctx (d idx) idx s st)).2) := by
          refine (if_neg hstop).trans (if_neg ?_)
          change ¬ (!verdict ctx (d idx) s && decide (st.product.status = .inProcess)) = true
          simp [hv]
        rw [hrun]
        exact .passed hstop hv (ih (idx + 1) _ h)

/-- One for a product that ends with the given status. -/
def one (status s : ProductStatus) : Int := if s = status then 1 else 0

/-- The loop counts the product it scraps or sends to rework, and no other. -/
theorem Passage.tally {ctx : LineContext} {d : Nat → StationDraws} {idx : Nat}
    {line line' : List WorkCenter} {st st' : LineState}
    (hpassage : Passage ctx d idx line st line' st') (h : st.product.status = .inProcess) :
    st'.product.status ≠ .good ∧
    st'.scrapCount = st.scrapCount + one .scrap st'.product.status ∧
    st'.reworkCount = st.reworkCount + one .rework st'.product.status := by
  induction hpassage with
  | done => simp [h, one]
  | stopped _ => simp [held, one]
  | @rejected idx s rest st _ _ =>
    unfold reject inspected visit one
    dsimp only
    split <;> simp
  | passed _ _ _ ih => exact ih h

/-- What a visit leaves of each station, the passage leaves of the line. -/
theorem Passage.map_same {τ : Type} {π : WorkCenter → τ} {ctx : LineContext}
    {d : Nat → StationDraws} {idx : Nat} {line line' : List WorkCenter} {st st' : LineState}
    (h : Passage ctx d idx line st line' st') (hπ : ∀ ctx d s, π (visited ctx d s) = π s) :
    line'.map π = line.map π := by
  induction h with
  | done => rfl
  | stopped _ => rfl
  | rejected _ _ => rw [List.map_cons, List.map_cons, hπ]
  | passed _ _ _ ih => rw [List.map_cons, List.map_cons, hπ, ih]

/-! ### Stations -/

/-- A cycle leaves the verdict counts, whether or not the station runs. -/
theorem executeCycle_counts (s : WorkCenter) (shift ambient : ℚ) (d : StationDraws) :
    (s.executeCycle shift ambient d).1.goodCount = s.goodCount ∧
    (s.executeCycle shift ambient d).1.defectCount = s.defectCount := by
  unfold WorkCenter.executeCycle
  split <;> exact ⟨rfl,rfl⟩

/-- Every verdict is counted once, good or not. -/
theorem recordQuality_counts (s : WorkCenter) (isGood : Bool) :
    (s.recordQuality isGood).goodCount + (s.recordQuality isGood).defectCount =
      s.goodCount + s.defectCount + 1 ∧
    (s.recordQuality isGood).goodCount = s.goodCount + (if isGood then 1 else 0) ∧
    (s.recordQuality isGood).totalCycles = s.totalCycles ∧
    (s.recordQuality isGood).state = s.state := by
  unfold WorkCenter.recordQuality
  cases isGood with
  | true =>
    refine ⟨?_,rfl,rfl,rfl⟩
    change s.goodCount + 1 + s.defectCount = _
    omega
  | false =>
    refine ⟨?_,(add_zero _).symm,rfl,rfl⟩
    change s.goodCount + (s.defectCount + 1) = _
    omega

/-- A visit adds one verdict. -/
theorem visited_counts (ctx : LineContext) (d : StationDraws) (s : WorkCenter) :
    (visited ctx d s).goodCount + (visited ctx d s).defectCount =
      s.goodCount + s.defectCount + 1 ∧
    (visited ctx d s).goodCount = s.goodCount + (if verdict ctx d s then 1 else 0) := by
  obtain ⟨hgood,hdefect⟩ := executeCycle_counts s ctx.shiftFactor ctx.ambientTemp d
  obtain ⟨hverdicts,hpassing,_⟩ := recordQuality_counts
    (s.executeCycle ctx.shiftFactor ctx.ambientTemp d).1 (verdict ctx d s)
  rw [hgood, hdefect] at hverdicts
  rw [hgood] at hpassing
  exact ⟨hverdicts,hpassing⟩

/-- What no cycle and no verdict changes of a station. -/
structure Nameplate where
  stationId : String
  cycleTimeSec : ℚ
  speedPct : Int
  sensorNames : List String

def nameplate (s : WorkCenter) : Nameplate :=
  ⟨s.stationId,s.cycleTimeSec,s.speedPct,s.sensors.map Prod.fst⟩

theorem readSensors_keys (innovation : Nat → ℚ) (wear shift ambient : ℚ) (isWarmup : Bool)
    (i : Nat) (sensors : List (String × RealisticSensor)) :
    (WorkCenter.readSensors innovation wear shift ambient isWarmup i sensors).1.map Prod.fst =
      sensors.map Prod.fst := by
  induction sensors generalizing i with
  | nil => rfl
  | cons p sensors ih => exact congrArg (p.1 :: ·) (ih (i + 1))

theorem executeCycle_nameplate (s : WorkCenter) (shift ambient : ℚ) (d : StationDraws) :
    nameplate (s.executeCycle shift ambient d).1 = nameplate s := by
  unfold WorkCenter.executeCycle
  split
  · rfl
  · exact congrArg (Nameplate.mk s.stationId s.cycleTimeSec s.speedPct)
      (readSensors_keys _ _ _ _ _ 0 s.sensors)

theorem visited_nameplate (ctx : LineContext) (d : StationDraws) (s : WorkCenter) :
    nameplate (visited ctx d s) = nameplate s := by
  have hrecord : ∀ (s : WorkCenter) isGood, nameplate (s.recordQuality isGood) = nameplate s := by
    intro s isGood
    cases isGood <;> rfl
  exact (hrecord _ _).trans (executeCycle_nameplate s _ _ d)

/-- What is done to a station from outside counts no cycle and no verdict. -/
theorem stationEvent_counts (e : FactoryEvents.StationEvent) (s : WorkCenter) :
    (e.apply s).goodCount = s.goodCount ∧ (e.apply s).defectCount = s.defectCount ∧
      (e.apply s).totalCycles = s.totalCycles := by
  cases e <;> exact ⟨rfl,rfl,rfl⟩

theorem forall_modify {α : Type} {P : α → Prop} {f : α → α} (hf : ∀ x, P x → P (f x)) (i : Nat)
    {xs : List α} (h : ∀ x ∈ xs, P x) : ∀ x ∈ xs.modify i f, P x := by
  induction xs generalizing i with
  | nil => simp
  | cons x xs ih =>
    have hx := h x List.mem_cons_self
    have hxs : ∀ y ∈ xs, P y := fun y hy => h y (List.mem_cons_of_mem _ hy)
    cases i with
    | zero => exact List.forall_mem_cons.mpr ⟨hf x hx,hxs⟩
    | succ i => exact List.forall_mem_cons.mpr ⟨hx,ih i hxs⟩

theorem map_modify_same {α β : Type} {f : α → α} {g : α → β} (hf : ∀ x, g (f x) = g x) (i : Nat)
    (xs : List α) : (xs.modify i f).map g = xs.map g := by
  induction xs generalizing i with
  | nil => simp
  | cons x xs ih => cases i <;> simp [hf, ih]

/-! ### The changes a cycle makes -/

def lineContext (f : Factory) (d : CycleDraws) : LineContext :=
  { cycle := (f.beginCycle d).1.cycle, simTimeSec := (f.beginCycle d).1.simTimeSec,
    shiftFactor := f.shiftMgr.current.effectiveFactor,
    ambientTemp := (f.beginCycle d).1.ambientTemp }

def entering (f : Factory) (d : CycleDraws) : LineState :=
  { product := (f.beginCycle d).2, scrapCount := f.scrapCount, reworkCount := f.reworkCount,
    eventStore := (f.beginCycle d).1.eventStore, readings := [] }

/-- The product enters the line in process, so its way is one of the passages. -/
theorem passLine_passage (f : Factory) (d : CycleDraws) :
    Passage (lineContext f d) d.station 0 f.line (entering f d) (f.passLine d).1
      (f.passLine d).2 :=
  runLine_passage (lineContext f d) d.station 0 f.line (entering f d) rfl

/-- The status of the product when the cycle ends. -/
def finalStatus (f : Factory) (d : CycleDraws) : ProductStatus := (f.runCycle d).2.product.status

theorem recordHourly_same {τ : Type} (π : Factory → τ)
    (hπ : ∀ f y o t, π { f with hourlyYield := y, hourlyOee := o, hourlyThroughput := t } = π f)
    (f : Factory) : π f.recordHourly = π f := by
  unfold Factory.recordHourly
  dsimp only
  split
  · exact hπ f _ _ _
  · rfl

/-- What the cycle leaves of a part of the factory that its last steps do not touch. -/
theorem runCycle_of_finish {τ : Type} (π : Factory → τ)
    (hπ : ∀ f y o t, π { f with hourlyYield := y, hourlyOee := o, hourlyThroughput := t } = π f)
    (hend : ∀ f m p, π { f with materials := m, currentProduct := p } = π f)
    (f : Factory) (d : CycleDraws) :
    π (f.runCycle d).1 = π (((f.beginCycle d).1.afterLine (f.passLine d).1
      (f.passLine d).2).finish d (f.passLine d).2.product).1 :=
  (recordHourly_same π hπ _).trans (hend _ _ _)

theorem finish_same {τ : Type} (π : Factory → τ)
    (hπ : ∀ f fg t g e o, π { f with
      fgStock := fg, totalProduced := t, finishedGoods := g, eventStore := e, orders := o } = π f)
    (f : Factory) (d : CycleDraws) (product : Product) : π (f.finish d product).1 = π f := by
  unfold Factory.finish
  split
  · exact hπ f _ _ _ _ _
  · rfl

theorem finish_passed (f : Factory) (d : CycleDraws) {product : Product}
    (h : product.status = .inProcess) : f.finish d product = f.finishGood d product := if_pos h

theorem finish_rejected (f : Factory) (d : CycleDraws) {product : Product}
    (h : product.status ≠ .inProcess) : f.finish d product = (f, product) := if_neg h

/-- What neither the last steps nor the product's completion touch, the cycle leaves
as the station loop does. -/
theorem runCycle_of_line {τ : Type} (π : Factory → τ)
    (hπ : ∀ f y o t, π { f with hourlyYield := y, hourlyOee := o, hourlyThroughput := t } = π f)
    (hend : ∀ f m p, π { f with materials := m, currentProduct := p } = π f)
    (hfinish : ∀ f fg t g e o, π { f with
      fgStock := fg, totalProduced := t, finishedGoods := g, eventStore := e, orders := o } = π f)
    (f : Factory) (d : CycleDraws) :
    π (f.runCycle d).1 =
      π ((f.beginCycle d).1.afterLine (f.passLine d).1 (f.passLine d).2) := by
  rw [runCycle_of_finish π hπ hend]
  exact finish_same π hfinish _ d _

section
variable (f : Factory) (d : CycleDraws)

@[simp] theorem runCycle_cycle : (f.runCycle d).1.cycle = f.cycle + 1 :=
  runCycle_of_line (·.cycle) (fun _ _ _ _ => rfl) (fun _ _ _ => rfl) (fun _ _ _ _ _ _ => rfl) f d

@[simp] theorem runCycle_line : (f.runCycle d).1.line = (f.passLine d).1 :=
  runCycle_of_line (·.line) (fun _ _ _ _ => rfl) (fun _ _ _ => rfl) (fun _ _ _ _ _ _ => rfl) f d

/-- A cycle keeps what the stations' nameplates say. -/
theorem runCycle_nameplates {τ : Type} (g : Nameplate → τ) :
    (f.runCycle d).1.line.map (fun s => g (nameplate s)) =
      f.line.map (fun s => g (nameplate s)) := by
  rw [runCycle_line]
  exact (passLine_passage f d).map_same fun ctx d s => congrArg g (visited_nameplate ctx d s)

@[simp] theorem runCycle_productCounter :
    (f.runCycle d).1.productCounter = f.productCounter + 1 :=
  runCycle_of_line (·.productCounter) (fun _ _ _ _ => rfl) (fun _ _ _ => rfl)
    (fun _ _ _ _ _ _ => rfl) f d

@[simp] theorem runCycle_scrapCount :
    (f.runCycle d).1.scrapCount = (f.passLine d).2.scrapCount :=
  runCycle_of_line (·.scrapCount) (fun _ _ _ _ => rfl) (fun _ _ _ => rfl)
    (fun _ _ _ _ _ _ => rfl) f d

@[simp] theorem runCycle_reworkCount :
    (f.runCycle d).1.reworkCount = (f.passLine d).2.reworkCount :=
  runCycle_of_line (·.reworkCount) (fun _ _ _ _ => rfl) (fun _ _ _ => rfl)
    (fun _ _ _ _ _ _ => rfl) f d

@[simp] theorem runCycle_materials :
    (f.runCycle d).1.materials = consumeMaterials d.material 0 f.materials := by
  have hfinish := finish_same (·.materials) (fun _ _ _ _ _ _ => rfl)
    ((f.beginCycle d).1.afterLine (f.passLine d).1 (f.passLine d).2) d (f.passLine d).2.product
  exact (recordHourly_same (·.materials) (fun _ _ _ _ => rfl) _).trans
    (congrArg (consumeMaterials d.material 0) hfinish)

theorem finalStatus_eq : finalStatus f d =
    if PassesLine f d then .good else (f.passLine d).2.product.status := by
  unfold finalStatus
  by_cases h : PassesLine f d
  · rw [if_pos h]
    exact (product_good_iff f d).mpr h
  · rw [if_neg h]
    exact congrArg (fun r : Factory × Product => r.2.status) (finish_rejected _ d h)

theorem finalStatus_good : finalStatus f d = .good ↔ PassesLine f d := product_good_iff f d

theorem one_of_rejected (h : ¬ PassesLine f d) : one .good (finalStatus f d) = 0 :=
  if_neg fun hgood => h ((finalStatus_good f d).mp hgood)

theorem runCycle_produced :
    (f.runCycle d).1.totalProduced = f.totalProduced + one .good (finalStatus f d) := by
  have hbooks := congrArg (fun b => b.2.1) (runCycle_books f d)
  by_cases hpass : PassesLine f d
  · rw [if_pos hpass] at hbooks
    rw [(finalStatus_good f d).mpr hpass]
    exact hbooks
  · rw [if_neg hpass] at hbooks
    rw [one_of_rejected f d hpass, add_zero]
    exact hbooks

theorem finalStatus_terminal : finalStatus f d ≠ .inProcess := by
  rw [finalStatus_eq]
  split
  · simp
  · rename_i h
    exact h

/-- The station loop's counts are those of the status the cycle ends with. -/
theorem runCycle_rejects :
    (f.runCycle d).1.scrapCount = f.scrapCount + one .scrap (finalStatus f d) ∧
    (f.runCycle d).1.reworkCount = f.reworkCount + one .rework (finalStatus f d) := by
  obtain ⟨_,hscrap,hrework⟩ := (passLine_passage f d).tally rfl
  have hstatus : ∀ s, s ≠ .good → s ≠ .inProcess →
      one s (f.passLine d).2.product.status = one s (finalStatus f d) := by
    intro s hgood hprocess
    rw [finalStatus_eq]
    split
    · rename_i h
      simp [one, show (f.passLine d).2.product.status = .inProcess from h, hgood.symm,
        hprocess.symm]
    · rfl
  constructor
  · rw [runCycle_scrapCount, ← hstatus .scrap (by simp) (by simp)]
    exact hscrap
  · rw [runCycle_reworkCount, ← hstatus .rework (by simp) (by simp)]
    exact hrework

theorem runCycle_finishedGoods : (f.runCycle d).1.finishedGoods.length =
    f.finishedGoods.length + one .good (finalStatus f d) := by
  rw [runCycle_of_finish (·.finishedGoods) (fun _ _ _ _ => rfl) (fun _ _ _ => rfl) f d]
  by_cases h : PassesLine f d
  · rw [(finalStatus_good f d).mpr h, finish_passed _ d h]
    simp [Factory.finishGood, Factory.afterLine, Factory.beginCycle, Factory.updateAmbient, one]
  · rw [finish_rejected _ d h, one_of_rejected f d h]
    simp [Factory.afterLine, Factory.beginCycle, Factory.updateAmbient]

end

end ManufacturingMas.Proofs.FactoryCycle
