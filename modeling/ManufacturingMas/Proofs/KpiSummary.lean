import ManufacturingMas.Lib.Shares
import ManufacturingMas.Proofs.FactoryLedger
import ManufacturingMas.Proofs.LoopRefinement
import ManufacturingMas.Proofs.StationFigures
import ManufacturingMas.Py.FloatOrder

/-! The summary of key figures over a run of the runtime's loops: no average is below the
bottleneck's figure, and the units delivered are those that left the stock. -/

namespace ManufacturingMas.Proofs.KpiSummary
open Py Machines Environment Factory ScenarioRuntime FactoryEvents EnvLoops FactoryLoop Shares
open FirstPassYield FactoryLedger LoopRefinement StationFigures
open UnitBalance (deliveredSum)

variable {f : Factory} {s best : WorkCenter} {rest : List WorkCenter}

/-! ### The bottleneck -/

theorem lowestOee_first (best : WorkCenter) (rest : List WorkCenter) :
    FirstLeast (fun s => s.oee.oee) (best :: rest) (lowestOee best rest) := by
  induction rest generalizing best with
  | nil => exact .singleton best
  | cons s rest ih =>
    unfold lowestOee
    by_cases hlower : s.oee.oee < best.oee.oee
    · rw [if_pos hlower]
      exact (ih s).cons hlower
    · rw [if_neg hlower]
      exact (ih best).skip (not_lt.mp hlower)

/-! ### The stations -/

theorem part_of_booked (h : Booked s) : Part s.goodCount (s.goodCount + s.defectCount) := by
  have hverdicts : s.goodCount + s.defectCount = s.totalCycles := h.life.verdicts
  have hdefects := h.defects
  have hgood := h.time.good
  exact ⟨by omega,by omega⟩

theorem yieldRate_nonneg (h : Booked s) : 0 ≤ s.yieldRate := (part_of_booked h).share_nonneg

/-- The first-pass yield lies between the yields of the stations. -/
theorem firstPassYield_between (hline : f.line ≠ []) (hbooked : ∀ s ∈ f.line, Booked s) :
    (∀ m, (∀ s ∈ f.line, m ≤ s.yieldRate) → m ≤ f.firstPassYield) ∧
      ∃ s ∈ f.line, f.firstPassYield ≤ s.yieldRate :=
  ⟨fun _ hm => le_pooled hline (fun s hs => part_of_booked (hbooked s hs)) hm,
    exists_pooled_le hline fun s hs => part_of_booked (hbooked s hs)⟩

/-! ### The orders -/

theorem onTime_part (h : ∀ o ∈ f.orders, WithinOrder o) :
    Part (f.orders.map (·.delivered)).sum (f.orders.map (·.quantity)).sum :=
  part_sum fun o ho => ⟨(h o ho).1,(h o ho).2⟩

/-! ### The summary -/

/-- What the summary of a factory says of it. -/
structure Summarised (f : Factory) (k : KpiSummary) : Prop where
  bottleneck : ∃ s, FirstLeast (fun s => s.oee.oee) f.line s ∧
    k.bottleneck = s.stationId ∧ k.bottleneckOee = roundTo 4 s.yieldRate
  average : 0 ≤ k.bottleneckOee ∧ k.bottleneckOee ≤ k.avgOee ∧ k.avgOee ≤ 1
  firstPass : k.bottleneckOee ≤ k.fpy ∧ ∃ s ∈ f.line, k.fpy ≤ roundTo 4 s.yieldRate
  stock : 0 ≤ k.fgStock ∧ k.fgStock ≤ k.totalProduced
  delivery : k.onTimeDelivery =
    roundTo 4 (share (k.totalProduced - k.fgStock) (f.orders.map (·.quantity)).sum)
  onTime : 0 ≤ k.onTimeDelivery ∧ k.onTimeDelivery ≤ 1
  cycles : k.totalProduced + k.scrapCount + k.reworkCount ≤ k.cycle

/-- The books of a factory and of its line. -/
structure Sound (f : Factory) : Prop where
  line : f.line ≠ []
  stations : ∀ s ∈ f.line, Booked s
  units : ∃ holds, Conserved f holds

/-- Each effectiveness is a rounded yield. -/
theorem Sound.stationOee (h : Sound f) (hs : s ∈ f.line) :
    s.oee.oee = roundTo 4 s.yieldRate ∧ 0 ≤ s.oee.oee ∧ s.oee.oee ≤ 1 := by
  have hbooked := h.stations s hs
  rw [hbooked.reported.oee]
  exact ⟨rfl,roundTo_nonneg 4 (yieldRate_nonneg hbooked),roundTo_le_one 4 hbooked.yield_le⟩

/-- The bottleneck's figure, rounded already, is below the mean of all of them. -/
theorem Sound.oee_le_mean (h : Sound f) (hfirst : FirstLeast (fun s => s.oee.oee) f.line s) :
    let oees : List ℚ := f.line.map (·.oee.oee)
    s.oee.oee ≤ roundTo 4 (oees.sum / oees.length) ∧ roundTo 4 (oees.sum / oees.length) ≤ 1 := by
  intro oees
  have hoees : oees ≠ [] := by simpa [oees] using h.line
  have hlow : ∀ q ∈ oees, s.oee.oee ≤ q := by
    intro q hq
    obtain ⟨t,ht,rfl⟩ := List.mem_map.mp hq
    exact hfirst.le ht
  have hhigh : ∀ q ∈ oees, q ≤ 1 := by
    intro q hq
    obtain ⟨t,ht,rfl⟩ := List.mem_map.mp hq
    exact (h.stationOee ht).2.2
  have hrounded : roundTo 4 s.oee.oee = s.oee.oee := by
    rw [(h.stationOee hfirst.mem).1, roundTo_roundTo]
  exact ⟨hrounded ▸ roundTo_mono 4 (le_mean hoees hlow),roundTo_le_one 4 (mean_le hoees hhigh)⟩

/-- It is below the first-pass yield too, though the one is the least of rounded yields and the
other the rounded yield of all stations. -/
theorem Sound.oee_le_fpy (h : Sound f) (hfirst : FirstLeast (fun s => s.oee.oee) f.line s) :
    s.oee.oee ≤ roundTo 4 f.firstPassYield ∧
      ∃ t ∈ f.line, roundTo 4 f.firstPassYield ≤ roundTo 4 t.yieldRate := by
  obtain ⟨hbelow,t,ht,habove⟩ := firstPassYield_between h.line h.stations
  refine ⟨?_,t,ht,roundTo_mono 4 habove⟩
  obtain ⟨worst,hworst,hleast⟩ := Set.exists_min_image { s | s ∈ f.line } WorkCenter.yieldRate
    f.line.finite_toSet ⟨s,hfirst.mem⟩
  calc s.oee.oee ≤ worst.oee.oee := hfirst.le hworst
    _ = roundTo 4 worst.yieldRate := (h.stationOee hworst).1
    _ ≤ roundTo 4 f.firstPassYield := roundTo_mono 4 (hbelow _ hleast)

theorem Sound.summarised (h : Sound f) : ∃ k, f.getKpiSummary = some k ∧ Summarised f k := by
  obtain ⟨best,rest,hline⟩ := List.exists_cons_of_ne_nil h.line
  obtain ⟨holds,hunits⟩ := h.units
  have hfirst : FirstLeast (fun s => s.oee.oee) f.line (lowestOee best rest) :=
    hline ▸ lowestOee_first best rest
  obtain ⟨hoee,hnonneg,_⟩ := h.stationOee hfirst.mem
  have hproduced := hunits.produced
  have hshipped : f.totalProduced - f.fgStock = deliveredSum f.orders := by omega
  have hpart := onTime_part hunits.delivered
  have hstock : f.fgStock ≤ f.totalProduced := by
    have hdelivered : 0 ≤ deliveredSum f.orders := hpart.nonneg
    omega
  have hcycles := hunits.cycles
  unfold getKpiSummary
  split
  · rename_i hnil
    exact absurd hnil h.line
  · rename_i best' rest' hline'
    obtain ⟨rfl,rfl⟩ := List.cons.inj (hline.symm.trans hline')
    refine ⟨_,rfl,?_⟩
    constructor
    · exact ⟨lowestOee best rest,hfirst,rfl,hoee⟩
    · exact ⟨hnonneg,h.oee_le_mean hfirst⟩
    · exact h.oee_le_fpy hfirst
    · exact ⟨hunits.stock,hstock⟩
    · dsimp only
      rw [hshipped]
      rfl
    · exact ⟨roundTo_nonneg 4 hpart.share_nonneg,roundTo_le_one 4 hpart.share_le_one⟩
    · dsimp only
      omega

/-! ### Any run of the loops -/

theorem run_sound (d : InitDraws) (es : List LoopEvent) :
    Sound (Runs.run LoopEvent.apply (.new d) es).factory := by
  have hleads := run_leads d es
  have hyield : YieldBooks (Runs.run LoopEvent.apply (.new d) es).factory :=
    hleads.keeps apply_books (new_books d)
  have hbooked : LineBooked (Runs.run LoopEvent.apply (.new d) es) :=
    Runs.run_invariant apply_booked (new_lineBooked d)
  have hunits : ∃ holds, Conserved (Runs.run LoopEvent.apply (.new d) es).factory holds := by
    have hkeep : ∀ (f : Factory) (e : FactoryEvent), (∃ holds, Conserved f holds) →
        ∃ holds, Conserved (e.apply f) holds := by
      rintro f e ⟨holds,h⟩
      exact ⟨_,apply_conserved h e⟩
    exact hleads.keeps hkeep ⟨0,new_conserved d⟩
  exact ⟨hyield.line_ne_nil,hbooked,hunits⟩

/-- Whenever the summary is asked for, its bottleneck is the first station of the lowest
figure, which no average is below, and its on-time share is of the units that were produced
and are no longer in stock. -/
theorem kpi_summarised (d : InitDraws) (es : List LoopEvent) :
    ∃ k, (Runs.run LoopEvent.apply (.new d) es).factory.getKpiSummary = some k ∧
      Summarised (Runs.run LoopEvent.apply (.new d) es).factory k :=
  (run_sound d es).summarised

end ManufacturingMas.Proofs.KpiSummary
