import ManufacturingMas.Lib.Runs
import ManufacturingMas.Proofs.FactoryCycle

/-! The shift calendar and the hourly records against the simulated clock. -/

namespace ManufacturingMas.Proofs.ShiftClock
open Py Machines Environment FactoryEvents UnitBalance FactoryCycle

variable {f : Factory} {n : Nat}

/-- The hours that the shift calendar has counted. -/
def calendarHours (f : Factory) : Nat := f.shiftMgr.shiftChanges * 8 + f.shiftMgr.hourInShift

/-- The hours of the clock that a snapshot shows. -/
def clockHours (f : Factory) : Int := truncate (f.simTimeSec / 3600)

/-- The calendar, the shift it shows and the hourly records are those of the clock. -/
structure FollowsClock (f : Factory) : Prop where
  hours : (calendarHours f : Int) = clockHours f
  shift : (f.shiftMgr.currentIdx.val : Int) = clockHours f / 8 % 3
  yields : (f.hourlyYield.length : Int) = clockHours f
  oees : (f.hourlyOee.length : Int) = clockHours f
  throughputs : (f.hourlyThroughput.length : Int) = clockHours f

def isCycle : FactoryEvent → Bool
  | .runCycle _ => true
  | _ => false

/-- Both calendars after `n` cycles: one counts 40 cycles to the hour, the clock
adds the cycle time of the first station. -/
structure ClockAt (n : Nat) (f : Factory) : Prop where
  cycle : f.cycle = n
  pace : f.line.head?.map (·.cycleTimeSec) = some (9/2)
  simTime : f.simTimeSec = n * (9/2)
  count : f.shiftMgr.shiftCycleCount = n % 320
  hour : f.shiftMgr.hourInShift = n % 320 / 40
  changes : f.shiftMgr.shiftChanges = n / 320
  shift : f.shiftMgr.currentIdx.val = n / 320 % 3
  yields : f.hourlyYield.length = n / 40
  oees : f.hourlyOee.length = n / 40
  throughputs : f.hourlyThroughput.length = n / 40

/-! ### One cycle -/

section
variable (f : Factory) (d : CycleDraws)

theorem runCycle_shiftMgr : (f.runCycle d).1.shiftMgr = f.shiftMgr.advance :=
  runCycle_of_line (·.shiftMgr) (fun _ _ _ _ => rfl) (fun _ _ _ => rfl)
    (fun _ _ _ _ _ _ => rfl) f d

theorem runCycle_simTimeSec : (f.runCycle d).1.simTimeSec =
    f.simTimeSec + (f.line.head?.map (·.cycleTimeSec)).getD 0 :=
  runCycle_of_line (·.simTimeSec) (fun _ _ _ _ => rfl) (fun _ _ _ => rfl)
    (fun _ _ _ _ _ _ => rfl) f d

/-- A cycle leaves every station its cycle time. -/
theorem runCycle_pace : (f.runCycle d).1.line.head?.map (·.cycleTimeSec) =
    f.line.head?.map (·.cycleTimeSec) := by
  have hline : (f.runCycle d).1.line.map (·.cycleTimeSec) = f.line.map (·.cycleTimeSec) :=
    runCycle_nameplates f d (·.cycleTimeSec)
  rw [← List.head?_map, ← List.head?_map, hline]

/-- The cycle counter with the lengths of the hourly records. -/
def hourly (f : Factory) : Int × Nat × Nat × Nat :=
  (f.cycle, f.hourlyYield.length, f.hourlyOee.length, f.hourlyThroughput.length)

/-- One entry more in each record at every 40th cycle. -/
def oneMoreHourly : Int × Nat × Nat × Nat → Int × Nat × Nat × Nat
  | (cycle, y, o, t) => if cycle % 40 = 0 then (cycle, y + 1, o + 1, t + 1) else (cycle, y, o, t)

theorem recordHourly_hourly : hourly f.recordHourly = oneMoreHourly (hourly f) := by
  unfold Factory.recordHourly hourly oneMoreHourly
  by_cases h : f.cycle % 40 = 0
  · simp [h]
  · simp [h]

theorem runCycle_hourly : hourly (f.runCycle d).1 = oneMoreHourly
    (f.cycle + 1, f.hourlyYield.length, f.hourlyOee.length, f.hourlyThroughput.length) := by
  have hfinish := finish_same hourly (fun _ _ _ _ _ _ => rfl)
    ((f.beginCycle d).1.afterLine (f.passLine d).1 (f.passLine d).2) d (f.passLine d).2.product
  exact (recordHourly_hourly _).trans (congrArg oneMoreHourly hfinish)

end

/-- The shift manager after one more cycle of its 320-cycle shift. -/
theorem advance_clock {m : ShiftManager} (hcount : m.shiftCycleCount = n % 320)
    (hchanges : m.shiftChanges = n / 320) (hshift : m.currentIdx.val = n / 320 % 3) :
    m.advance.shiftCycleCount = (n + 1) % 320 ∧ m.advance.hourInShift = (n + 1) % 320 / 40 ∧
      m.advance.shiftChanges = (n + 1) / 320 ∧ m.advance.currentIdx.val = (n + 1) / 320 % 3 := by
  unfold ShiftManager.advance
  dsimp only
  by_cases hend : 8 ≤ (m.shiftCycleCount + 1) / 40
  · rw [if_pos hend]
    have hnext : (m.currentIdx + 1).val = (m.currentIdx.val + 1) % 3 := Fin.val_add _ _
    refine ⟨?_,?_,?_,?_⟩
    all_goals simp only
    all_goals omega
  · rw [if_neg hend]
    refine ⟨?_,?_,?_,?_⟩
    all_goals simp only
    all_goals omega

theorem runCycle_clock (h : ClockAt n f) (d : CycleDraws) : ClockAt (n + 1) (f.runCycle d).1 := by
  have hmgr := runCycle_shiftMgr f d
  obtain ⟨hcount,hhour,hchanges,hshift⟩ := advance_clock h.count h.changes h.shift
  have hhourly := runCycle_hourly f d
  rw [h.cycle, h.yields, h.oees, h.throughputs] at hhourly
  have hrecords : oneMoreHourly ((n : Int) + 1, n / 40, n / 40, n / 40) =
      ((n : Int) + 1, (n + 1) / 40, (n + 1) / 40, (n + 1) / 40) := by
    unfold oneMoreHourly
    dsimp only
    split
    · have hnext : n / 40 + 1 = (n + 1) / 40 := by omega
      rw [hnext]
    · have hsame : n / 40 = (n + 1) / 40 := by omega
      rw [hsame]
  rw [hrecords] at hhourly
  simp only [hourly, Prod.mk.injEq] at hhourly
  obtain ⟨_,hyields,hoees,hthroughputs⟩ := hhourly
  rw [← hmgr] at hcount hhour hchanges hshift
  refine ⟨?_,?_,?_,hcount,hhour,hchanges,hshift,hyields,hoees,hthroughputs⟩
  · rw [runCycle_cycle, h.cycle]
    rfl
  · rw [runCycle_pace]
    exact h.pace
  · rw [runCycle_simTimeSec, h.pace, h.simTime]
    push_cast
    simp only [Option.getD_some]
    ring

/-! ### Runs -/

theorem apply_clock (h : ClockAt n f) (e : FactoryEvent) :
    ClockAt (n + [e].countP isCycle) (e.apply f) := by
  cases e with
  | runCycle d => exact runCycle_clock h d
  | station i e =>
    have hpace : (f.line.modify i e.apply).map (·.cycleTimeSec) = f.line.map (·.cycleTimeSec) :=
      map_modify_same (fun s => by cases e <;> rfl) i f.line
    refine ⟨h.cycle,?_,h.simTime,h.count,h.hour,h.changes,h.shift,h.yields,h.oees,h.throughputs⟩
    change ((f.line.modify i e.apply).head?.map (·.cycleTimeSec)) = _
    rw [← List.head?_map, hpace, List.head?_map]
    exact h.pace
  | _ =>
    exact ⟨h.cycle,h.pace,h.simTime,h.count,h.hour,h.changes,h.shift,h.yields,h.oees,
      h.throughputs⟩

theorem new_clock (d : InitDraws) : ClockAt 0 (Factory.new d) :=
  ⟨rfl,rfl,by norm_num [Factory.new],rfl,rfl,rfl,rfl,rfl,rfl,rfl⟩

theorem run_clock (es : List FactoryEvent) (h : ClockAt n f) :
    ClockAt (n + es.countP isCycle) (Runs.run FactoryEvent.apply f es) := by
  induction es generalizing n f with
  | nil => exact h
  | cons e es ih =>
    have hrest := ih (apply_clock h e)
    rw [Nat.add_assoc, ← List.countP_append] at hrest
    exact hrest

/-- The clock counts 800 cycles to the hour. -/
theorem ClockAt.hours (h : ClockAt n f) : clockHours f = (n / 800 : Nat) := by
  have htime : f.simTimeSec / 3600 = (n : ℚ) / (800 : Nat) := by
    rw [h.simTime]
    push_cast
    ring
  unfold clockHours truncate
  rw [htime, if_pos (by positivity), Rat.floor_natCast_div_natCast]
  rfl

theorem ClockAt.follows_iff (h : ClockAt n f) : FollowsClock f ↔ n < 40 := by
  have hhours := h.hours
  have hcalendar : calendarHours f = n / 40 := by
    unfold calendarHours
    rw [h.changes, h.hour]
    omega
  constructor
  · intro hf
    have hagree := hf.hours
    rw [hcalendar, hhours] at hagree
    omega
  · intro hn
    have hzero : n / 800 = 0 := by omega
    have hempty : n / 40 = 0 := by omega
    have hday : n / 320 % 3 = 0 := by omega
    rw [hzero] at hhours
    constructor
    · rw [hcalendar, hempty, hhours]
    · rw [h.shift, hday, hhours]
      rfl
    · rw [h.yields, hempty, hhours]
    · rw [h.oees, hempty, hhours]
    · rw [h.throughputs, hempty, hhours]

/-- After the cycles of a run the calendar follows the clock exactly when there were
fewer than 40. -/
theorem shift_calendar_follows_clock_iff (d : InitDraws) (es : List FactoryEvent) :
    FollowsClock (Runs.run FactoryEvent.apply (Factory.new d) es) ↔ es.countP isCycle < 40 := by
  have hclock := run_clock es (new_clock d)
  rw [Nat.zero_add] at hclock
  exact hclock.follows_iff

/-- After 40 cycles the calendar is an hour on, the clock three minutes. -/
theorem ClockAt.after_forty (h : ClockAt 40 f) :
    calendarHours f = 1 ∧ f.simTimeSec = 180 ∧ clockHours f = 0 ∧ ¬ FollowsClock f := by
  refine ⟨?_,?_,h.hours,?_⟩
  · unfold calendarHours
    rw [h.changes, h.hour]
  · rw [h.simTime]
    norm_num
  · rw [h.follows_iff]
    omega

theorem calendar_ahead_after_forty :
    let f := Runs.run FactoryEvent.apply (Factory.new ShipmentLedger.plainDraws)
      (List.replicate 40 (.runCycle quietTick.cycle))
    calendarHours f = 1 ∧ f.simTimeSec = 180 ∧ clockHours f = 0 ∧ ¬ FollowsClock f := by
  have hclock := run_clock (List.replicate 40 (.runCycle quietTick.cycle))
    (new_clock ShipmentLedger.plainDraws)
  have hcycles : (List.replicate 40 (FactoryEvent.runCycle quietTick.cycle)).countP isCycle = 40 :=
    List.countP_replicate
  rw [hcycles, Nat.zero_add] at hclock
  exact hclock.after_forty

end ManufacturingMas.Proofs.ShiftClock
