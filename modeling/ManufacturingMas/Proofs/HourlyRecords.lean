import ManufacturingMas.Lib.Runs
import ManufacturingMas.Lib.Logs
import ManufacturingMas.Proofs.FactoryCycle

/-! The factory's hourly records over a run: the figures at the end of every fortieth cycle. -/

namespace ManufacturingMas.Proofs.HourlyRecords
open Py Environment FactoryEvents FactoryCycle Sampling

variable {f : Factory} {ends : List Factory}

/-- The factory as a cycle leaves it. -/
def cycleEnd (f : Factory) : FactoryEvent → List Factory
  | .runCycle d => [(f.runCycle d).1]
  | _ => []

/-- The mean effectiveness of the line. -/
def meanOee (f : Factory) : ℚ :=
  let oees : List ℚ := f.line.map (·.oee.oee)
  oees.sum / oees.length

/-- The records are the figures of the factories at the end of every fortieth cycle. -/
structure Recorded (ends : List Factory) (f : Factory) : Prop where
  cycles : f.cycle = ends.length
  yield : f.hourlyYield = (everyNth 40 0 ends).map Factory.firstPassYield
  oee : f.hourlyOee = (everyNth 40 0 ends).map meanOee
  throughput : f.hourlyThroughput = (everyNth 40 0 ends).map (·.totalProduced)

/-- What the end of a cycle appends to the records, in terms of the factory it leaves. -/
theorem recordHourly_appends (f : Factory) :
    (f.cycle % 40 = 0 →
      f.recordHourly.hourlyYield = f.hourlyYield ++ [f.recordHourly.firstPassYield] ∧
      f.recordHourly.hourlyOee = f.hourlyOee ++ [meanOee f.recordHourly] ∧
      f.recordHourly.hourlyThroughput = f.hourlyThroughput ++ [f.recordHourly.totalProduced]) ∧
    (f.cycle % 40 ≠ 0 → f.recordHourly = f) := by
  unfold Factory.recordHourly
  constructor
  · intro hdue
    rw [if_pos hdue]
    exact ⟨rfl,rfl,rfl⟩
  · intro hdue
    rw [if_neg hdue]

/-- The records and the number of cycles they are made by. -/
def records (f : Factory) : Int × List ℚ × List ℚ × List Int :=
  (f.cycle,f.hourlyYield,f.hourlyOee,f.hourlyThroughput)

/-- A cycle counts itself and does nothing else to the records before its end. -/
theorem before_record (f : Factory) (d : CycleDraws) : ∃ g : Factory,
    (f.runCycle d).1 = g.recordHourly ∧
    records g = (f.cycle + 1,f.hourlyYield,f.hourlyOee,f.hourlyThroughput) :=
  ⟨_,rfl,finish_same records (fun _ _ _ _ _ _ => rfl) _ d _⟩

theorem runCycle_recorded (h : Recorded ends f) (d : CycleDraws) :
    Recorded (ends ++ [(f.runCycle d).1]) (f.runCycle d).1 := by
  obtain ⟨g,hend,hrecords⟩ := before_record f d
  simp only [records, Prod.mk.injEq] at hrecords
  obtain ⟨hcycle,hyield,hoee,hthroughput⟩ := hrecords
  have hcycles := h.cycles
  have hlength : ((ends ++ [(f.runCycle d).1]).length : Int) = f.cycle + 1 := by simp [hcycles]
  have hsampled : ∀ {β : Type} (figure : Factory → β),
      (everyNth 40 0 (ends ++ [(f.runCycle d).1])).map figure =
        if g.cycle % 40 = 0 then (everyNth 40 0 ends).map figure ++ [figure (f.runCycle d).1]
        else (everyNth 40 0 ends).map figure := by
    intro β figure
    rw [everyNth_snoc]
    by_cases hdue : g.cycle % 40 = 0
    · have hnat : (0 + ends.length + 1) % 40 = 0 := by omega
      rw [if_pos hdue, if_pos hnat, List.map_append]
      rfl
    · have hnat : ¬ (0 + ends.length + 1) % 40 = 0 := by omega
      rw [if_neg hdue, if_neg hnat]
  obtain ⟨happends,hkeeps⟩ := recordHourly_appends g
  refine ⟨(runCycle_cycle f d).trans hlength.symm,?_,?_,?_⟩
  all_goals
    rw [hsampled, hend]
    by_cases hdue : g.cycle % 40 = 0
  · rw [if_pos hdue, (happends hdue).1, hyield, h.yield]
  · rw [if_neg hdue, hkeeps hdue, hyield, h.yield]
  · rw [if_pos hdue, (happends hdue).2.1, hoee, h.oee]
  · rw [if_neg hdue, hkeeps hdue, hoee, h.oee]
  · rw [if_pos hdue, (happends hdue).2.2, hthroughput, h.throughput]
  · rw [if_neg hdue, hkeeps hdue, hthroughput, h.throughput]

theorem apply_recorded (ends : List Factory) (f : Factory) (e : FactoryEvent)
    (h : Recorded ends f) : Recorded (ends ++ cycleEnd f e) (e.apply f) := by
  cases e with
  | runCycle d => exact runCycle_recorded h d
  | station i e =>
    simp only [cycleEnd, List.append_nil]
    exact ⟨h.cycles,h.yield,h.oee,h.throughput⟩
  | ambientChange temp =>
    simp only [cycleEnd, List.append_nil]
    exact ⟨h.cycles,h.yield,h.oee,h.throughput⟩
  | materialArrival key qty =>
    simp only [cycleEnd, List.append_nil]
    exact ⟨h.cycles,h.yield,h.oee,h.throughput⟩
  | newOrder o =>
    simp only [cycleEnd, List.append_nil]
    exact ⟨h.cycles,h.yield,h.oee,h.throughput⟩

/-- As many hours are recorded as the cycles have completed. -/
theorem Recorded.hours (h : Recorded ends f) : (f.hourlyThroughput.length : Int) = f.cycle / 40 := by
  rw [h.throughput, List.length_map, length_everyNth, h.cycles]
  rfl

/-- In every run of a factory one record is made for forty cycles, of the figures as the last
of them ended, whatever happened between the cycles. -/
theorem hourly_recorded (d : InitDraws) (es : List FactoryEvent) :
    let f := Runs.run FactoryEvent.apply (Factory.new d) es
    Recorded (Runs.outputs FactoryEvent.apply cycleEnd (Factory.new d) es) f ∧
      (f.hourlyThroughput.length : Int) = f.cycle / 40 := by
  have hrecorded : Recorded (Runs.outputs FactoryEvent.apply cycleEnd (Factory.new d) es)
      (Runs.run FactoryEvent.apply (Factory.new d) es) :=
    Runs.outputs_invariant_nil apply_recorded ⟨rfl,rfl,rfl,rfl⟩
  exact ⟨hrecorded,hrecorded.hours⟩

end ManufacturingMas.Proofs.HourlyRecords
