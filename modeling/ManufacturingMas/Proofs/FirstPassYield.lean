import ManufacturingMas.Lib.Runs
import ManufacturingMas.Proofs.FactoryCycle

/-! The first-pass yield of the KPI summary, which counts verdicts, against the
share of the units that passed the whole line. -/

namespace ManufacturingMas.Proofs.FirstPassYield
open Py Machines Environment FactoryEvents UnitBalance FactoryCycle

variable {ctx : LineContext} {d : Nat → StationDraws} {idx : Nat}
  {line line' : List WorkCenter} {st st' : LineState} {f : Factory}

def goods (line : List WorkCenter) : Int := (line.map (·.goodCount)).sum
def defects (line : List WorkCenter) : Int := (line.map (·.defectCount)).sum

/-- Finished units, scrapped ones and those sent to rework. -/
def units (f : Factory) : Int := f.totalProduced + f.scrapCount + f.reworkCount

/-- The share of the units that passed the whole line the first time. -/
def unitShare (f : Factory) : ℚ := f.totalProduced / units f

/-- The yield before it is rounded is the share of the units. -/
def CountsUnits (f : Factory) : Prop := 0 < units f → f.firstPassYield = unitShare f

/-- The reported yield is the share of the units, rounded. -/
def ReportsUnits (f : Factory) : Prop :=
  0 < units f → ∃ kpi, f.getKpiSummary = some kpi ∧ kpi.fpy = roundTo 4 (unitShare f)

/-- The product gets a failed verdict on its way. -/
def meetsFailure (ctx : LineContext) (d : Nat → StationDraws) : Nat → List WorkCenter → Bool
  | _, [] => false
  | idx, s :: rest =>
    !decide (Stopped s) && (!verdict ctx (d idx) s || meetsFailure ctx d (idx + 1) rest)

/-- The product gets a good verdict on its way: the first station gives it one. -/
def meetsPass (ctx : LineContext) (d : Nat → StationDraws) : Nat → List WorkCenter → Bool
  | _, [] => false
  | idx, s :: _ => !decide (Stopped s) && verdict ctx (d idx) s

def NoFailure (f : Factory) : FactoryEvent → Prop
  | .runCycle d => meetsFailure (lineContext f d) d.station 0 f.line = false
  | _ => True

def NoPass (f : Factory) : FactoryEvent → Prop
  | .runCycle d => meetsPass (lineContext f d) d.station 0 f.line = false
  | _ => True

/-! ### One cycle -/

@[simp] theorem goods_cons (s : WorkCenter) (rest : List WorkCenter) :
    goods (s :: rest) = s.goodCount + goods rest := by simp [goods]

@[simp] theorem defects_cons (s : WorkCenter) (rest : List WorkCenter) :
    defects (s :: rest) = s.defectCount + defects rest := by simp [defects]

theorem visited_defects (ctx : LineContext) (d : StationDraws) (s : WorkCenter) :
    (visited ctx d s).defectCount = s.defectCount + (if verdict ctx d s then 0 else 1) := by
  obtain ⟨hboth,hgood⟩ := visited_counts ctx d s
  split
  · rename_i hv
    rw [if_pos hv] at hgood
    omega
  · rename_i hv
    rw [if_neg hv] at hgood
    omega

/-- The verdicts a passage adds: at most one failed one, and at every station for
a product that passes the whole line. -/
theorem passage_counts (h : Passage ctx d idx line st line' st')
    (hst : st.product.status = .inProcess) :
    defects line' = defects line + (if meetsFailure ctx d idx line then 1 else 0) ∧
    ∃ n : Nat, goods line' = goods line + n ∧
      (n = 0 ↔ meetsPass ctx d idx line = false ∨ line = []) ∧
      (st'.product.status = .inProcess → n = line.length) := by
  induction h with
  | done => exact ⟨by simp [meetsFailure],0,by simp [goods],by simp,fun _ => rfl⟩
  | stopped hstop =>
    refine ⟨by simp [meetsFailure, hstop],0,by simp,by simp [meetsPass, hstop],?_⟩
    intro hend
    cases hend
  | @rejected idx s rest st hrun hbad =>
    have hdefect := visited_defects ctx (d idx) s
    obtain ⟨_,hgood⟩ := visited_counts ctx (d idx) s
    refine ⟨?_,0,?_,?_,?_⟩
    · simp only [defects_cons, hdefect, hbad, meetsFailure, hrun]
      simp
      omega
    · simp [hgood, hbad]
    · simp [meetsPass, hbad]
    · intro hend
      unfold reject at hend
      dsimp only at hend
      split at hend <;> cases hend
  | @passed idx s rest rest' st st' hrun hverdict _ ih =>
    have hdefect := visited_defects ctx (d idx) s
    obtain ⟨_,hgood⟩ := visited_counts ctx (d idx) s
    obtain ⟨hdefects,n,hgoods,_,hwhole⟩ := ih hst
    refine ⟨?_,n + 1,?_,?_,?_⟩
    · simp only [defects_cons, hdefect, hdefects, hverdict, meetsFailure, hrun]
      simp
      omega
    · simp only [goods_cons, hgood, hgoods, hverdict, ↓reduceIte]
      omega
    · simp [meetsPass, hrun, hverdict]
    · intro hend
      rw [hwhole hend]
      rfl

/-- The rejected products are those with a failed verdict. -/
theorem passage_rejects (h : Passage ctx d idx line st line' st')
    (hst : st.product.status = .inProcess) :
    one .scrap st'.product.status + one .rework st'.product.status =
      if meetsFailure ctx d idx line then 1 else 0 := by
  induction h with
  | done => simp [hst, one, meetsFailure]
  | stopped hstop => simp [held, one, meetsFailure, hstop]
  | rejected hrun hbad =>
    simp only [meetsFailure, hrun, hbad]
    unfold reject inspected visit one
    dsimp only
    split <;> simp
  | passed hrun hverdict _ ih =>
    rw [ih hst]
    simp [meetsFailure, hrun, hverdict]

/-! ### The books -/

/-- Every rejected unit has one failed verdict, every finished one six good ones. -/
structure YieldBooks (f : Factory) : Prop where
  length : f.line.length = 6
  rejected : defects f.line = f.scrapCount + f.reworkCount
  finished : 6 * f.totalProduced ≤ goods f.line
  produced : 0 ≤ f.totalProduced
  failed : 0 ≤ defects f.line

theorem YieldBooks.line_ne_nil (h : YieldBooks f) : f.line ≠ [] := by
  intro hnil
  have hlen := h.length
  rw [hnil] at hlen
  cases hlen

/-- The verdicts a cycle adds. -/
theorem runCycle_verdicts (hline : f.line ≠ []) (d : CycleDraws) :
    defects (f.runCycle d).1.line = defects f.line +
      (if meetsFailure (lineContext f d) d.station 0 f.line then 1 else 0) ∧
    ∃ n : Nat, goods (f.runCycle d).1.line = goods f.line + n ∧
      (n = 0 ↔ NoPass f (.runCycle d)) ∧ (PassesLine f d → n = f.line.length) := by
  obtain ⟨hdefects,n,hgoods,hnone,hwhole⟩ := passage_counts (passLine_passage f d) rfl
  rw [or_iff_left hline] at hnone
  rw [runCycle_line]
  exact ⟨hdefects,n,hgoods,hnone,hwhole⟩

theorem runCycle_books (h : YieldBooks f) (d : CycleDraws) : YieldBooks (f.runCycle d).1 := by
  have hpassage := passLine_passage f d
  have hrejects := passage_rejects hpassage rfl
  obtain ⟨_,hscrap,hrework⟩ := hpassage.tally rfl
  change _ = f.scrapCount + _ at hscrap
  change _ = f.reworkCount + _ at hrework
  obtain ⟨hdefects,n,hgoods,_,hwhole⟩ := runCycle_verdicts h.line_ne_nil d
  have hlength := congrArg List.length (runCycle_nameplates f d fun _ => ())
  rw [List.length_map, List.length_map] at hlength
  have hproduced := runCycle_produced f d
  have hfinished : one .good (finalStatus f d) * 6 ≤ n := by
    by_cases hpass : PassesLine f d
    · rw [(finalStatus_good f d).mpr hpass, hwhole hpass, h.length]
      simp [one]
    · rw [one_of_rejected f d hpass, zero_mul]
      exact Int.natCast_nonneg n
  have hone : 0 ≤ one .good (finalStatus f d) := by
    unfold one
    split <;> omega
  obtain ⟨hlen,hrej,hfin,hprod,hfail⟩ := h
  refine ⟨hlength.trans hlen,?_,?_,?_,?_⟩
  · rw [runCycle_scrapCount, runCycle_reworkCount, hdefects, hscrap, hrework]
    omega
  · rw [hproduced, hgoods]
    omega
  · rw [hproduced]
    omega
  · rw [hdefects]
    split <;> omega

/-- An event takes no verdict away, and which it adds. -/
structure AddsVerdicts (f : Factory) (e : FactoryEvent) : Prop where
  failed : defects f.line ≤ defects (e.apply f).line
  noFailure : defects (e.apply f).line = defects f.line ↔ NoFailure f e
  good : goods f.line ≤ goods (e.apply f).line
  noPass : goods (e.apply f).line = goods f.line ↔ NoPass f e

theorem runCycle_adds (hline : f.line ≠ []) (d : CycleDraws) : AddsVerdicts f (.runCycle d) := by
  obtain ⟨hdefects,n,hgoods,hnone,_⟩ := runCycle_verdicts hline d
  constructor
  · change _ ≤ defects (f.runCycle d).1.line
    rw [hdefects]
    split <;> omega
  · change defects (f.runCycle d).1.line = _ ↔
      meetsFailure (lineContext f d) d.station 0 f.line = false
    rw [hdefects]
    cases hmeets : meetsFailure (lineContext f d) d.station 0 f.line <;> simp
  · change _ ≤ goods (f.runCycle d).1.line
    omega
  · change goods (f.runCycle d).1.line = _ ↔ _
    rw [← hnone, hgoods]
    omega

/-- What is done to a station from outside leaves the verdicts. -/
theorem station_verdicts (f : Factory) (i : Nat) (e : FactoryEvents.StationEvent) :
    goods (f.line.modify i e.apply) = goods f.line ∧
      defects (f.line.modify i e.apply) = defects f.line :=
  ⟨congrArg List.sum (map_modify_same (fun s => (stationEvent_counts e s).1) i f.line),
    congrArg List.sum (map_modify_same (fun s => (stationEvent_counts e s).2.1) i f.line)⟩

theorem apply_books (f : Factory) (e : FactoryEvent) (h : YieldBooks f) :
    YieldBooks (e.apply f) := by
  cases e with
  | runCycle d => exact runCycle_books h d
  | station i e =>
    obtain ⟨hgoods,hdefects⟩ := station_verdicts f i e
    exact ⟨(List.length_modify _ _ _).trans h.length,hdefects.trans h.rejected,
      h.finished.trans hgoods.ge,h.produced,h.failed.trans hdefects.ge⟩
  | _ => exact ⟨h.length,h.rejected,h.finished,h.produced,h.failed⟩

theorem apply_adds (hline : f.line ≠ []) (e : FactoryEvent) : AddsVerdicts f e := by
  cases e with
  | runCycle d => exact runCycle_adds hline d
  | station i e =>
    obtain ⟨hgoods,hdefects⟩ := station_verdicts f i e
    exact ⟨hdefects.ge,iff_of_true hdefects trivial,hgoods.ge,iff_of_true hgoods trivial⟩
  | _ => exact ⟨le_refl _,iff_of_true rfl trivial,le_refl _,iff_of_true rfl trivial⟩

theorem new_books (d : InitDraws) : YieldBooks (Factory.new d) := by
  have hcounts : defects createProductionLine = 0 ∧ goods createProductionLine = 0 := by decide
  exact ⟨rfl,hcounts.1,hcounts.2.ge,le_refl 0,hcounts.1.ge⟩

/-- With its books right, the yield counts units exactly where no verdict failed
or none passed. -/
theorem countsUnits_iff (h : YieldBooks f) :
    CountsUnits f ↔ defects f.line = 0 ∨ goods f.line = 0 := by
  obtain ⟨_,hrej,hfin,hprod,hfail⟩ := h
  have hitems : (f.line.map fun s => s.goodCount + s.defectCount).sum =
      goods f.line + defects f.line := List.sum_map_add
  have hunits : units f = f.totalProduced + defects f.line := by
    unfold units
    omega
  have hyield : f.firstPassYield = if 0 < goods f.line + defects f.line then
      (goods f.line : ℚ) / ((goods f.line + defects f.line : Int) : ℚ) else 1 := by
    unfold Factory.firstPassYield
    rw [hitems]
    rfl
  by_cases hpos : 0 < units f
  · have htotal : 0 < goods f.line + defects f.line := by omega
    have hne : ((goods f.line + defects f.line : Int) : ℚ) ≠ 0 := by
      exact_mod_cast htotal.ne'
    have hne' : ((f.totalProduced + defects f.line : Int) : ℚ) ≠ 0 := by
      rw [hunits] at hpos
      exact_mod_cast hpos.ne'
    unfold CountsUnits unitShare
    rw [hyield, if_pos htotal, hunits, div_eq_div_iff hne hne']
    -- G (P + D) = P (G + D) leaves G D = P D, and G is 6 P at least
    have hcross : (goods f.line : ℚ) * ((f.totalProduced + defects f.line : Int) : ℚ) =
        f.totalProduced * ((goods f.line + defects f.line : Int) : ℚ) ↔
        defects f.line * (goods f.line - f.totalProduced) = 0 := by
      rw [← @Int.cast_inj ℚ]
      push_cast
      constructor <;> intro heq <;> linarith
    rw [hcross, mul_eq_zero, ← hunits]
    constructor
    · intro hcount
      rcases hcount hpos with hzero | hzero
      · exact .inl hzero
      · exact .inr (by omega)
    · intro hzero _
      rcases hzero with hzero | hzero
      · exact .inl hzero
      · exact .inr (by omega)
  · exact iff_of_true (fun hu => absurd hu hpos) (.inl (by omega))

theorem reportsUnits_of_countsUnits (h : YieldBooks f) (hcounts : CountsUnits f) :
    ReportsUnits f := by
  intro hpos
  cases hline : f.line with
  | nil =>
    have hlen := h.length
    rw [hline] at hlen
    cases hlen
  | cons s rest =>
    unfold Factory.getKpiSummary
    rw [hline]
    exact ⟨_,rfl,congrArg (roundTo 4) (hcounts hpos)⟩

/-! ### Runs -/

/-- No verdict has failed at the end of exactly the runs without a failed verdict. -/
theorem no_defects_iff (d : InitDraws) (es : List FactoryEvent) :
    defects (Runs.run FactoryEvent.apply (Factory.new d) es).line = 0 ↔
      Runs.Along FactoryEvent.apply NoFailure (Factory.new d) es := by
  have hback : ∀ f e, YieldBooks f → defects (FactoryEvent.apply f e).line = 0 →
      defects f.line = 0 := by
    intro f e h hzero
    have hle := (apply_adds h.line_ne_nil e).failed
    have hfail := h.failed
    omega
  have hexact : ∀ f e, YieldBooks f → defects f.line = 0 →
      (defects (FactoryEvent.apply f e).line = 0 ↔ NoFailure f e) := by
    intro f e h hzero
    rw [← (apply_adds h.line_ne_nil e).noFailure, hzero]
  have hlast : Runs.Always FactoryEvent.apply (fun f => defects f.line = 0) (Factory.new d) es ↔
      defects (Runs.run FactoryEvent.apply (Factory.new d) es).line = 0 :=
    Runs.always_iff_last apply_books hback (new_books d)
  exact hlast.symm.trans (Runs.always_iff_along YieldBooks apply_books hexact (new_books d) rfl)

/-- No verdict has passed at the end of exactly the runs without a good verdict. -/
theorem no_goods_iff (d : InitDraws) (es : List FactoryEvent) :
    goods (Runs.run FactoryEvent.apply (Factory.new d) es).line = 0 ↔
      Runs.Along FactoryEvent.apply NoPass (Factory.new d) es := by
  have hback : ∀ f e, YieldBooks f → goods (FactoryEvent.apply f e).line = 0 →
      goods f.line = 0 := by
    intro f e h hzero
    have hle := (apply_adds h.line_ne_nil e).good
    have hfin := h.finished
    have hprod := h.produced
    omega
  have hexact : ∀ f e, YieldBooks f → goods f.line = 0 →
      (goods (FactoryEvent.apply f e).line = 0 ↔ NoPass f e) := by
    intro f e h hzero
    rw [← (apply_adds h.line_ne_nil e).noPass, hzero]
  have hlast : Runs.Always FactoryEvent.apply (fun f => goods f.line = 0) (Factory.new d) es ↔
      goods (Runs.run FactoryEvent.apply (Factory.new d) es).line = 0 :=
    Runs.always_iff_last apply_books hback (new_books d)
  exact hlast.symm.trans (Runs.always_iff_along YieldBooks apply_books hexact (new_books d) rfl)

/-- The yield counts units in every state of exactly those runs in which no
verdict fails or none passes, and there the reported yield is the rounded share. -/
theorem fpy_counts_units_iff (d : InitDraws) (es : List FactoryEvent) :
    (Runs.Always FactoryEvent.apply CountsUnits (Factory.new d) es ↔
      Runs.Along FactoryEvent.apply NoFailure (Factory.new d) es ∨
        Runs.Along FactoryEvent.apply NoPass (Factory.new d) es) ∧
    (Runs.Along FactoryEvent.apply NoFailure (Factory.new d) es ∨
        Runs.Along FactoryEvent.apply NoPass (Factory.new d) es →
      Runs.Always FactoryEvent.apply ReportsUnits (Factory.new d) es) := by
  have hback : ∀ f e, YieldBooks f → CountsUnits (FactoryEvent.apply f e) → CountsUnits f := by
    intro f e h hcounts
    have hadds := apply_adds h.line_ne_nil e
    have hdefects := hadds.failed
    have hgoods := hadds.good
    have hfail := h.failed
    have hfin := h.finished
    have hprod := h.produced
    rw [countsUnits_iff h]
    rcases (countsUnits_iff (apply_books f e h)).mp hcounts with hzero | hzero
    · exact .inl (by omega)
    · exact .inr (by omega)
  have hbooks : YieldBooks (Runs.run FactoryEvent.apply (Factory.new d) es) :=
    Runs.run_invariant apply_books (new_books d)
  have hiff : Runs.Always FactoryEvent.apply CountsUnits (Factory.new d) es ↔
      Runs.Along FactoryEvent.apply NoFailure (Factory.new d) es ∨
        Runs.Along FactoryEvent.apply NoPass (Factory.new d) es := by
    rw [Runs.always_iff_last apply_books hback (new_books d), countsUnits_iff hbooks,
      no_defects_iff, no_goods_iff]
  refine ⟨hiff,fun h => ?_⟩
  refine Runs.always_imp apply_books ?_ (new_books d) (hiff.mpr h)
  exact fun f hf hcounts => reportsUnits_of_countsUnits hf hcounts

/-- A cycle whose product fails at the second station. -/
def failsSecond : CycleDraws :=
  { quietTick.cycle with station := fun i =>
      { quietTick.cycle.station i with judge := if i = 1 then (quietTick.cycle.station i).rework
          else (quietTick.cycle.station i).judge } }

/-- Half of the verdicts are good, none of the units is. -/
theorem failed_unit_counts_half :
    let f := Runs.run FactoryEvent.apply (Factory.new ShipmentLedger.plainDraws)
      [.runCycle failsSecond]
    units f = 1 ∧ f.totalProduced = 0 ∧ f.getKpiSummary.map (·.fpy) = some (1/2) ∧
      ¬ ReportsUnits f := by
  have hkpi : (Runs.run FactoryEvent.apply (Factory.new ShipmentLedger.plainDraws)
      [.runCycle failsSecond]).getKpiSummary.map (·.fpy) = some (1/2) := by decide +kernel
  have hshare : 0 < units (Runs.run FactoryEvent.apply (Factory.new ShipmentLedger.plainDraws)
        [.runCycle failsSecond]) ∧
      roundTo 4 (unitShare (Runs.run FactoryEvent.apply (Factory.new ShipmentLedger.plainDraws)
        [.runCycle failsSecond])) = 0 := by decide +kernel
  refine ⟨by decide +kernel,by decide +kernel,hkpi,?_⟩
  intro h
  obtain ⟨kpi,hsome,hfpy⟩ := h hshare.1
  rw [hsome, Option.map_some, hfpy, hshare.2] at hkpi
  norm_num at hkpi

end ManufacturingMas.Proofs.FirstPassYield
