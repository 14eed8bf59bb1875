import ManufacturingMas.Proofs.LoopRefinement
import ManufacturingMas.Proofs.StationLife

/-! Traceability: the number, the lot, the measurements and the defect codes of a product tell
which way it took. -/

namespace ManufacturingMas.Proofs.Traceability
open Py Machines Environment ScenarioRuntime FactoryEvents FactoryLoop AgentRuntime
open FactoryCycle LineFlow StationLife LoopRefinement

variable {ctx : LineContext} {d : Nat → StationDraws} {idx : Nat} {line line' : List WorkCenter}
  {st st' : LineState} {ends : List Product} {plates : List (String × List String)}

/-! ### The record of a product -/

/-- A station with what it measures. -/
def plate (s : WorkCenter) : String × List String := (s.stationId,s.sensors.map Prod.fst)

/-- The stations that measured the product, each with what it measured. -/
def seen (p : Product) : List (String × List String) :=
  p.measurements.map fun m => (m.1,m.2.map Prod.fst)

/-- The record of a product that has left the line: it passed all of it, was held in front of a
station, or was rejected at a station. -/
inductive Record (plates : List (String × List String)) :
    ProductStatus → List (String × List String) → List String → Prop
  | good : Record plates .good plates []
  | held {before after : List (String × List String)} {s : String × List String}
      (h : plates = before ++ s :: after) : Record plates .hold before [s.1 ++ "_정지"]
  | reworked {before after : List (String × List String)} {s : String × List String}
      (h : plates = before ++ s :: after) :
      Record plates .rework (before ++ [s]) [s.1 ++ "_재작업"]
  | scrapped {before after : List (String × List String)} {s : String × List String}
      (h : plates = before ++ s :: after) :
      Record plates .scrap (before ++ [s]) [s.1 ++ "_폐기"]

def Traced (plates : List (String × List String)) (p : Product) : Prop :=
  Record plates p.status (seen p) p.defectCodes

/-- The product when its cycle ends. -/
def ended (p : Product) : Product :=
  if p.status = .inProcess then { p with status := .good } else p

theorem finish_product (f : Factory) (d : CycleDraws) (p : Product) :
    (f.finish d p).2 = ended p := by
  unfold ended
  split
  · rename_i h
    rw [finish_passed f d h]
    rfl
  · rename_i h
    rw [finish_rejected f d h]

/-! ### One visit -/

theorem readSensors_names (innovation : Nat → ℚ) (wear shift ambient : ℚ) (isWarmup : Bool)
    (i : Nat) (sensors : List (String × RealisticSensor)) :
    (WorkCenter.readSensors innovation wear shift ambient isWarmup i sensors).2.map Prod.fst =
      sensors.map Prod.fst := by
  induction sensors generalizing i with
  | nil => rfl
  | cons p sensors ih => exact congrArg (p.1 :: ·) (ih (i + 1))

/-- A station that works on the product reads all of its sensors. -/
theorem executeCycle_names {s : WorkCenter} (hrun : ¬ Stopped s) (hsetup : s.state ≠ .setup)
    (shift ambient : ℚ) (d : StationDraws) :
    (s.executeCycle shift ambient d).2.map Prod.fst = s.sensors.map Prod.fst := by
  have hnot : ¬ (s.state = .breakdown ∨ s.state = .maintenance ∨ s.state = .setup) := by
    rintro (hb | hm | hs)
    · exact hrun (.inl hb)
    · exact hrun (.inr hm)
    · exact hsetup hs
  unfold WorkCenter.executeCycle
  rw [if_neg hnot]
  exact readSensors_names ..

theorem inspected_seen (ctx : LineContext) {s : WorkCenter} (hrun : ¬ Stopped s)
    (hsetup : s.state ≠ .setup) (d : StationDraws) (idx : Nat) (st : LineState) :
    seen (inspected ctx d idx s st).product = seen st.product ++ [plate s] := by
  have hid : (s.executeCycle ctx.shiftFactor ctx.ambientTemp d).1.stationId = s.stationId :=
    congrArg Nameplate.stationId (executeCycle_nameplate s _ _ d)
  have hnames := executeCycle_names hrun hsetup ctx.shiftFactor ctx.ambientTemp d
  let run := s.executeCycle ctx.shiftFactor ctx.ambientTemp d
  have hkeys : ((run.2.map fun r => (r.1,r.2.value)).map Prod.fst) = run.2.map Prod.fst := by simp
  have happend : seen (inspected ctx d idx s st).product = seen st.product ++
      [(run.1.stationId,(run.2.map fun r => (r.1,r.2.value)).map Prod.fst)] :=
    List.map_append
  rw [happend, hkeys, hnames, hid]
  rfl

/-- A failed verdict ends the way of a product at the last station that measured it. -/
theorem reject_traced (ctx : LineContext) {station : WorkCenter} (draw : Unit01)
    {before : List (String × List String)} {s : String × List String}
    (after : List (String × List String)) (hid : station.stationId = s.1)
    (hcodes : st.product.defectCodes = []) (hseen : seen st.product = before ++ [s]) :
    Traced (before ++ s :: after) (ended (reject ctx station draw st).product) := by
  unfold reject
  dsimp only
  split
  · unfold ended Traced
    rw [if_neg (by simp)]
    change Record _ .rework (seen st.product) (st.product.defectCodes ++ _)
    rw [hseen, hcodes, hid]
    exact .reworked rfl
  · unfold ended Traced
    rw [if_neg (by simp)]
    change Record _ .scrap (seen st.product) (st.product.defectCodes ++ _)
    rw [hseen, hcodes, hid]
    exact .scrapped rfl

/-! ### The way through the line -/

/-- What a product carries when it comes to the rest of the line, and that rest, make up the
line; so its record is one of the whole. -/
theorem passage_traced (h : Passage ctx d idx line st line' st') (hclean : Clean st.product)
    (hsetup : ∀ s ∈ line, s.state ≠ .setup) :
    Traced (seen st.product ++ line.map plate) (ended st'.product) := by
  induction h with
  | @done idx st =>
    obtain ⟨hstatus,hcodes⟩ := hclean
    unfold ended Traced
    rw [if_pos hstatus, List.map_nil, List.append_nil]
    change Record (seen st.product) .good (seen st.product) st.product.defectCodes
    rw [hcodes]
    exact .good
  | @stopped idx s rest st _ =>
    have hcodes : (held s st).product.defectCodes = [s.stationId ++ "_정지"] := by
      change st.product.defectCodes ++ _ = _
      rw [hclean.2, List.nil_append]
    unfold ended Traced
    rw [if_neg (by simp [held]), hcodes]
    exact .held (s := plate s) rfl
  | @rejected idx s rest st hrun _ =>
    have hid : (visited ctx (d idx) s).stationId = s.stationId :=
      congrArg Nameplate.stationId (visited_nameplate ctx (d idx) s)
    have hcodes : (inspected ctx (d idx) idx s st).product.defectCodes = [] := hclean.2
    have hseen := inspected_seen ctx hrun (hsetup s List.mem_cons_self) (d idx) idx st
    exact reject_traced ctx (d idx).rework _ hid hcodes hseen
  | @passed idx s rest rest' st st' hrun _ _ ih =>
    have hseen := inspected_seen ctx hrun (hsetup s List.mem_cons_self) (d idx) idx st
    have hrest := ih hclean fun s hs => hsetup s (List.mem_cons_of_mem _ hs)
    rw [hseen, List.append_assoc] at hrest
    exact hrest

/-! ### A cycle -/

theorem runCycle_product (f : Factory) (d : CycleDraws) :
    (f.runCycle d).2.product = ended (f.passLine d).2.product := finish_product _ d _

theorem runCycle_traced (f : Factory) (d : CycleDraws) (hsetup : ∀ s ∈ f.line, s.state ≠ .setup) :
    Traced (f.line.map plate) (f.runCycle d).2.product := by
  rw [runCycle_product]
  exact passage_traced (passLine_passage f d) ⟨rfl,rfl⟩ hsetup

/-- The line changes neither the number of a product nor its lot. -/
theorem passage_numbers (h : Passage ctx d idx line st line' st') :
    st'.product.serial = st.product.serial ∧ st'.product.lot = st.product.lot := by
  induction h with
  | done => exact ⟨rfl,rfl⟩
  | stopped _ => exact ⟨rfl,rfl⟩
  | @rejected idx s rest st _ _ =>
    unfold reject
    dsimp only
    split <;> exact ⟨rfl,rfl⟩
  | passed _ _ _ ih => exact ih

theorem ended_numbers (p : Product) : (ended p).serial = p.serial ∧ (ended p).lot = p.lot := by
  unfold ended
  split <;> exact ⟨rfl,rfl⟩

/-- A cycle's product has the next number and the lot that the factory is at. -/
theorem runCycle_numbers (f : Factory) (d : CycleDraws) :
    (f.runCycle d).2.product.serial = f.productCounter + 1 ∧
      (f.runCycle d).2.product.lot = (f.runCycle d).1.lotCounter := by
  obtain ⟨hserial,hlot⟩ := passage_numbers (passLine_passage f d)
  obtain ⟨hserial',hlot'⟩ := ended_numbers (f.passLine d).2.product
  have hcounter : (f.runCycle d).1.lotCounter = (f.beginCycle d).1.lotCounter :=
    runCycle_of_line (·.lotCounter) (fun _ _ _ _ => rfl) (fun _ _ _ => rfl)
      (fun _ _ _ _ _ _ => rfl) f d
  rw [runCycle_product, hcounter]
  exact ⟨hserial'.trans hserial,hlot'.trans hlot⟩

theorem runCycle_lotCounter (f : Factory) (d : CycleDraws) : (f.runCycle d).1.lotCounter =
    if (f.productCounter + 1) % 200 = 1 then f.lotCounter + 1 else f.lotCounter :=
  runCycle_of_line (·.lotCounter) (fun _ _ _ _ => rfl) (fun _ _ _ => rfl)
    (fun _ _ _ _ _ _ => rfl) f d

/-- The finished goods take the product of the cycle if it is good. -/
theorem runCycle_goods (f : Factory) (d : CycleDraws) : (f.runCycle d).1.finishedGoods =
    f.finishedGoods ++ [(f.runCycle d).2.product].filter fun p => p.status = .good := by
  rw [runCycle_of_finish (·.finishedGoods) (fun _ _ _ _ => rfl) (fun _ _ _ => rfl) f d]
  have hnot := ((passLine_passage f d).tally rfl).1
  by_cases h : (f.passLine d).2.product.status = .inProcess
  · have hgood : (f.runCycle d).2.product.status = .good := (finalStatus_good f d).mpr h
    rw [List.filter_singleton, hgood, finish_passed _ d h, runCycle_product]
    unfold ended
    rw [if_pos h]
    rfl
  · have hproduct : (f.runCycle d).2.product = (f.passLine d).2.product := by
      rw [runCycle_product]
      exact if_neg h
    rw [finish_rejected _ d h, hproduct, List.filter_singleton]
    simp [hnot, Factory.afterLine, Factory.beginCycle, Factory.updateAmbient]

/-! ### Whole runs -/

theorem recoverSensors_plate (rec : DynamicsDraws) (i : Nat) (s : WorkCenter) :
    plate (recoverSensors rec i s) = plate s := by
  have hkeys : (recoverSensors rec i s).sensors.map Prod.fst = s.sensors.map Prod.fst := by
    apply Pointwise.map_mapIdx_same
    intro _ _
    rfl
  exact congrArg (Prod.mk s.stationId) hkeys

theorem repairStation_plate (rec : DynamicsDraws) (i : Nat) (s : WorkCenter) :
    plate (repairStation rec i s) = plate s := by
  unfold repairStation
  split <;> rfl

/-- No event gives a station another name, or other sensors. -/
theorem moved_plate {s s' : WorkCenter} (h : Moved s s') : plate s' = plate s := by
  cases h with
  | same => rfl
  | @worked ctx d rec i hrun =>
    rw [repairStation_plate, recoverSensors_plate]
    have hplate := visited_nameplate ctx d s
    exact congrArg (fun n : Nameplate => (n.stationId,n.sensorNames)) hplate
  | waited => rw [repairStation_plate, recoverSensors_plate]
  | broke _ _ => rfl
  | worn _ => rfl
  | drifted sensor drift =>
    have hkeys : (s.sensors.modify sensor fun p => (p.1,p.2.injectShock drift.val)).map Prod.fst =
        s.sensors.map Prod.fst := by
      apply map_modify_same
      intro _
      rfl
    exact congrArg (Prod.mk s.stationId) hkeys
  | sped _ => rfl

theorem apply_plates (s : LoopState) (e : LoopEvent) :
    (e.apply s).factory.line.map plate = s.factory.line.map plate :=
  Pointwise.map_of_forall₂ (apply_moves s e) fun _ _ => moved_plate

/-- The products that have left the line so far, against the factory's counters and goods. -/
structure Books (plates : List (String × List String)) (ends : List Product) (f : Factory) :
    Prop where
  counter : f.productCounter = ends.length
  lots : f.lotCounter = 1 + (ends.length + 199) / 200
  serials : ends.map (·.serial) = List.range' 1 ends.length
  lot : ∀ p ∈ ends, p.lot = 2 + (p.serial - 1) / 200
  traced : ∀ p ∈ ends, Traced plates p
  goods : f.finishedGoods = ends.filter fun p => p.status = .good

/-- A factory with the same counters and goods has the same books. -/
theorem Books.same {f g : Factory} (h : Books plates ends f)
    (hcounter : g.productCounter = f.productCounter) (hlots : g.lotCounter = f.lotCounter)
    (hgoods : g.finishedGoods = f.finishedGoods) : Books plates ends g :=
  ⟨hcounter.trans h.counter,hlots.trans h.lots,h.serials,h.lot,h.traced,hgoods.trans h.goods⟩

theorem Books.runCycle {f : Factory} (h : Books plates ends f) (hplates : f.line.map plate = plates)
    (hsetup : ∀ s ∈ f.line, s.state ≠ .setup) (d : CycleDraws) :
    Books plates (ends ++ [(f.runCycle d).2.product]) (f.runCycle d).1 := by
  obtain ⟨hserial,hlot⟩ := runCycle_numbers f d
  have hcounter := h.counter
  have hlots : (f.runCycle d).1.lotCounter = 1 + (ends.length + 1 + 199) / 200 := by
    rw [runCycle_lotCounter, h.lots, hcounter]
    split <;> omega
  refine ⟨?_,?_,?_,?_,?_,?_⟩
  · simp [hcounter]
  · simp [hlots]
  · rw [List.map_append, h.serials, List.map_singleton, hserial, hcounter, List.length_append,
      List.length_singleton, List.range'_concat]
    simp [Nat.add_comm]
  · intro p hp
    rcases List.mem_append.mp hp with hbefore | hnew
    · exact h.lot p hbefore
    · rw [List.mem_singleton.mp hnew, hlot, hlots, hserial, hcounter]
      omega
  · intro p hp
    rcases List.mem_append.mp hp with hbefore | hnew
    · exact h.traced p hbefore
    · rw [List.mem_singleton.mp hnew, ← hplates]
      exact runCycle_traced f d hsetup
  · rw [runCycle_goods, h.goods, List.filter_append]

/-- The line is as it was set up, and the books are in order. -/
structure Kept (plates : List (String × List String)) (ends : List Product) (s : LoopState) :
    Prop where
  life : LineLife s
  line : s.factory.line.map plate = plates
  books : Books plates ends s.factory

theorem atStation_books (s : LoopState) (i : Nat) (happens : WorkCenter → Bool)
    (change : WorkCenter → WorkCenter) (h : Books plates ends s.factory) :
    Books plates ends (s.atStation i happens change).factory := by
  unfold LoopState.atStation
  split
  · exact h.same rfl rfl rfl
  · exact h

theorem apply_kept (ends : List Product) (s : LoopState) (e : LoopEvent)
    (h : Kept plates ends s) : Kept plates (ends ++ loopProduct s e) (e.apply s) := by
  refine ⟨apply_life s e h.life,(apply_plates s e).trans h.line,?_⟩
  have hbooks := h.books
  cases e with
  | tick d =>
    have hsetup : ∀ wc ∈ s.factory.line, wc.state ≠ .setup := fun wc hwc => (h.life wc hwc).noSetup
    exact (hbooks.runCycle h.line hsetup d.cycle).same rfl rfl rfl
  | breakdown i repair => exact (List.append_nil ends).symm ▸ atStation_books s i _ _ hbooks
  | toolWearSpike i spike => exact (List.append_nil ends).symm ▸ atStation_books s i _ _ hbooks
  | qualityDrift i sensor drift =>
    exact (List.append_nil ends).symm ▸ atStation_books s i _ _ hbooks
  | speedRecovery i amount => exact (List.append_nil ends).symm ▸ atStation_books s i _ _ hbooks
  | _ => exact (List.append_nil ends).symm ▸ hbooks.same rfl rfl rfl

/-- On every run of the runtime the products that have left the line are numbered without a gap,
two hundred to a lot, the finished goods are the good ones among them in their order, and each
of them carries the record of its way: measurements of every sensor of exactly the stations that
it passed, and one defect code, of the station that it ended at, unless it is good. -/
theorem products_traced (d : InitDraws) (es : List LoopEvent) :
    let f := (Runs.run LoopEvent.apply (.new d) es).factory
    let ends := Runs.outputs LoopEvent.apply loopProduct (.new d) es
    ends.map (·.serial) = List.range' 1 ends.length ∧
      (∀ p ∈ ends, p.lot = 2 + (p.serial - 1) / 200 ∧ Traced (f.line.map plate) p) ∧
      f.finishedGoods = ends.filter fun p => p.status = .good := by
  intro f ends
  have hstart : Kept (createProductionLine.map plate) [] (LoopState.new d) :=
    ⟨new_lineLife d,rfl,⟨rfl,rfl,rfl,by simp,by simp,rfl⟩⟩
  have hkept : Kept (createProductionLine.map plate) ends
      (Runs.run LoopEvent.apply (LoopState.new d) es) :=
    Runs.outputs_invariant_nil apply_kept hstart
  obtain ⟨_,hline,hbooks⟩ := hkept
  refine ⟨hbooks.serials,?_,hbooks.goods⟩
  intro p hp
  exact ⟨hbooks.lot p hp,hline ▸ hbooks.traced p hp⟩

end ManufacturingMas.Proofs.Traceability
