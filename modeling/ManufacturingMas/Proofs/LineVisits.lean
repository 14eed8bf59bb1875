import ManufacturingMas.Lib.Runs
import ManufacturingMas.Proofs.FactoryCycle

/-! Which stations really work on a product, and whether a station's verdicts are
as many as its cycles. -/

namespace ManufacturingMas.Proofs.LineVisits
open Py Machines Environment FactoryEvents UnitBalance FactoryCycle

variable {ctx : LineContext} {d : Nat → StationDraws} {idx : Nat}
  {line line' : List WorkCenter} {st st' : LineState}

/-- As many verdicts as cycles. -/
def Balanced (s : WorkCenter) : Prop := s.goodCount + s.defectCount = s.totalCycles

/-- The station ran its cycle once. -/
def Processed (s s' : WorkCenter) : Prop :=
  s'.totalCycles = s.totalCycles + 1 ∧ s'.state = .running

theorem executeCycle_setup {s : WorkCenter} (h : s.state = .setup) (shift ambient : ℚ)
    (d : StationDraws) : (s.executeCycle shift ambient d).1 = s := by
  unfold WorkCenter.executeCycle
  rw [if_pos (Or.inr (Or.inr h))]

theorem executeCycle_runs {s : WorkCenter} (hrun : ¬ Stopped s) (h : s.state ≠ .setup)
    (shift ambient : ℚ) (d : StationDraws) :
    (s.executeCycle shift ambient d).1.totalCycles = s.totalCycles + 1 ∧
    (s.executeCycle shift ambient d).1.state = .running := by
  have hnot : ¬ (s.state = .breakdown ∨ s.state = .maintenance ∨ s.state = .setup) := by
    intro hstate
    rcases hstate with hb | hm | hs
    · exact hrun (Or.inl hb)
    · exact hrun (Or.inr hm)
    · exact h hs
  unfold WorkCenter.executeCycle
  rw [if_neg hnot]
  exact ⟨rfl,rfl⟩

theorem visited_processed {s : WorkCenter} (hrun : ¬ Stopped s) (h : s.state ≠ .setup)
    (d : StationDraws) : Processed s (visited ctx d s) := by
  obtain ⟨hcycles,hstate⟩ := executeCycle_runs hrun h ctx.shiftFactor ctx.ambientTemp d
  obtain ⟨_,_,htotal,hsame⟩ := recordQuality_counts
    (s.executeCycle ctx.shiftFactor ctx.ambientTemp d).1 (verdict ctx d s)
  exact ⟨htotal.trans hcycles,hsame.trans hstate⟩

/-- A visited station stays balanced unless it is being set up: it then has a
verdict without a cycle. -/
theorem visited_balanced_iff {s : WorkCenter} (hrun : ¬ Stopped s) (hb : Balanced s)
    (d : StationDraws) : Balanced (visited ctx d s) ↔ s.state ≠ .setup := by
  obtain ⟨hverdicts,_⟩ := visited_counts ctx d s
  have htotal : (visited ctx d s).totalCycles =
      (s.executeCycle ctx.shiftFactor ctx.ambientTemp d).1.totalCycles :=
    (recordQuality_counts _ _).2.2.1
  unfold Balanced at hb ⊢
  rw [hverdicts, htotal]
  by_cases h : s.state = .setup
  · rw [executeCycle_setup h]
    simp [h]
    omega
  · rw [(executeCycle_runs hrun h ctx.shiftFactor ctx.ambientTemp d).1]
    simp [h]
    omega

/-- The product reaches a station that is being set up. -/
def meetsSetup (ctx : LineContext) (d : Nat → StationDraws) : Nat → List WorkCenter → Bool
  | _, [] => false
  | idx, s :: rest =>
    !decide (Stopped s) &&
      (s.state = .setup || (verdict ctx (d idx) s && meetsSetup ctx d (idx + 1) rest))

/-- The line stays balanced exactly if the product meets no station in setup. -/
theorem passage_balanced_iff (h : Passage ctx d idx line st line' st')
    (hb : ∀ s ∈ line, Balanced s) :
    (∀ s ∈ line', Balanced s) ↔ meetsSetup ctx d idx line = false := by
  induction h with
  | done => simp [meetsSetup]
  | stopped hstop => simpa [meetsSetup, hstop] using hb
  | @rejected idx s rest st hrun hbad =>
    obtain ⟨hs,hrest⟩ := List.forall_mem_cons.mp hb
    rw [List.forall_mem_cons, visited_balanced_iff hrun hs]
    have hmeets : meetsSetup ctx d idx (s :: rest) = false ↔ s.state ≠ .setup := by
      simp [meetsSetup, hrun, hbad]
    rw [hmeets]
    exact and_iff_left hrest
  | @passed idx s rest rest' st st' hrun hgood _ ih =>
    obtain ⟨hs,hrest⟩ := List.forall_mem_cons.mp hb
    rw [List.forall_mem_cons, visited_balanced_iff hrun hs, ih hrest]
    simp [meetsSetup, hrun, hgood]

/-- A product that passes the line without meeting a setup was worked on everywhere. -/
theorem passage_processed (h : Passage ctx d idx line st line' st')
    (hpass : st'.product.status = .inProcess) (hsetup : meetsSetup ctx d idx line = false) :
    List.Forall₂ Processed line line' := by
  induction h with
  | done => exact .nil
  | stopped _ => cases hpass
  | @rejected idx s rest st _ _ =>
    unfold reject at hpass
    dsimp only at hpass
    split at hpass <;> cases hpass
  | @passed idx s rest rest' st st' hrun hgood _ ih =>
    obtain ⟨hstate,hrest⟩ : s.state ≠ .setup ∧ meetsSetup ctx d (idx + 1) rest = false := by
      simpa [meetsSetup, hrun, hgood] using hsetup
    exact .cons (visited_processed hrun hstate _) (ih hpass hrest)

/-! ### Runs -/

def LineBalanced (f : Factory) : Prop := ∀ s ∈ f.line, Balanced s

/-- If the event is a cycle that ends with a good product, every station of the
line has run its cycle in it. -/
def GoodProcessed (f : Factory) (e : FactoryEvent) : Prop :=
  .good ∈ endStatus f e → List.Forall₂ Processed f.line (e.apply f).line

/-- If the event is a cycle, its product reaches no station that is being set up. -/
def NoSetupMet (f : Factory) : FactoryEvent → Prop
  | .runCycle d => meetsSetup (lineContext f d) d.station 0 f.line = false
  | _ => True

theorem apply_balanced_iff (f : Factory) (e : FactoryEvent) (hb : LineBalanced f) :
    LineBalanced (e.apply f) ↔ NoSetupMet f e := by
  cases e with
  | runCycle d =>
    change (∀ s ∈ (f.runCycle d).1.line, Balanced s) ↔ _
    rw [runCycle_line]
    exact passage_balanced_iff (passLine_passage f d) hb
  | station i e =>
    refine iff_of_true ?_ trivial
    refine forall_modify (fun s hs => ?_) i hb
    obtain ⟨hgood,hdefect,htotal⟩ := stationEvent_counts e s
    unfold Balanced
    rw [hgood, hdefect, htotal]
    exact hs
  | newOrder o => exact iff_of_true hb trivial
  | materialArrival key qty => exact iff_of_true hb trivial
  | ambientChange temp => exact iff_of_true hb trivial

theorem good_processed {f : Factory} {e : FactoryEvent} (h : NoSetupMet f e) :
    GoodProcessed f e := by
  intro hgood
  cases e with
  | runCycle d =>
    have hfinal : finalStatus f d = .good := (List.mem_singleton.mp hgood).symm
    have hpass : PassesLine f d := (finalStatus_good f d).mp hfinal
    change List.Forall₂ Processed f.line (f.runCycle d).1.line
    rw [runCycle_line]
    exact passage_processed (passLine_passage f d) hpass h
  | _ => simp [endStatus] at hgood

/-- The runs on which every station has as many verdicts as cycles, and every good
product was worked on by every station, are those whose products never reach a
station in setup. -/
theorem stations_counted_iff (d : InitDraws) (es : List FactoryEvent) :
    (Runs.Always FactoryEvent.apply LineBalanced (Factory.new d) es ∧
      Runs.Along FactoryEvent.apply GoodProcessed (Factory.new d) es) ↔
    Runs.Along FactoryEvent.apply NoSetupMet (Factory.new d) es := by
  have hstart : LineBalanced (Factory.new d) := by
    have hline : ∀ s ∈ createProductionLine, s.goodCount + s.defectCount = s.totalCycles := by
      decide
    exact hline
  have hiff : Runs.Always FactoryEvent.apply LineBalanced (Factory.new d) es ↔
      Runs.Along FactoryEvent.apply NoSetupMet (Factory.new d) es :=
    Runs.always_iff_along (fun _ => True) (fun _ _ _ => trivial)
      (fun f e _ hb => apply_balanced_iff f e hb) trivial hstart
  constructor
  · intro h
    exact hiff.mp h.1
  · intro h
    exact ⟨hiff.mpr h,Runs.along_mono (fun _ _ hmet => good_processed hmet) h⟩

/-- The first station is being set up while a product passes it: the product is
good, and the station has a good verdict and no cycle. -/
theorem setup_station_passes_product :
    let es : List FactoryEvent := [.station 0 (.startSetup 300), .runCycle quietTick.cycle]
    let f := Runs.run FactoryEvent.apply (Factory.new ShipmentLedger.plainDraws) es
    f.totalProduced = 1 ∧ f.line.head?.map (fun s => (s.goodCount, s.totalCycles)) = some (1, 0) ∧
      ¬ Runs.Always FactoryEvent.apply LineBalanced (Factory.new ShipmentLedger.plainDraws) es := by
  refine ⟨by decide +kernel,by decide +kernel,?_⟩
  intro h
  have hlast := h.2.2
  have hcounts : ¬ ∀ s ∈ (Runs.run FactoryEvent.apply (Factory.new ShipmentLedger.plainDraws)
      [.station 0 (.startSetup 300), .runCycle quietTick.cycle]).line,
      s.goodCount + s.defectCount = s.totalCycles := by decide +kernel
  exact hcounts hlast

end ManufacturingMas.Proofs.LineVisits
