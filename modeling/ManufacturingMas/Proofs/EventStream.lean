import ManufacturingMas.Lib.Logs
import ManufacturingMas.Lib.Runs
import ManufacturingMas.Proofs.FactoryCycle

/-! The stream of business events that the cycles of a factory emit, against its
counters, and what the buffer keeps of it. -/

namespace ManufacturingMas.Proofs.EventStream
open Py Machines Environment BusinessEvents FactoryEvents UnitBalance FactoryCycle

variable {ctx : LineContext} {d : Nat → StationDraws} {idx : Nat}
  {line line' : List WorkCenter} {st st' : LineState}

def emitAll (store : BusinessEventStore) (evs : List BusinessEvent) : BusinessEventStore :=
  evs.foldl (·.emit ·) store

theorem emitAll_append (store : BusinessEventStore) (evs evs' : List BusinessEvent) :
    emitAll store (evs ++ evs') = emitAll (emitAll store evs) evs' := List.foldl_append

theorem emitAll_buffer (store : BusinessEventStore) (evs : List BusinessEvent) :
    (emitAll store evs).maxlen = store.maxlen ∧
    (emitAll store evs).q = evs.foldl (Ring.push store.maxlen) store.q := by
  induction evs generalizing store with
  | nil => exact ⟨rfl,rfl⟩
  | cons ev evs ih => exact ih (store.emit ev)

/-! ### What a cycle emits -/

def verdictEvent (ctx : LineContext) (product : Product) (s : WorkCenter) (isGood : Bool) :
    BusinessEvent :=
  { eventType := .inspectionVerdict, logicalCycle := ctx.cycle, simTimeSec := ctx.simTimeSec,
    payload := .verdict product.serial s.stationId isGood,
    stationId := some s.stationId, lotId := some product.lot }

/-- Emitted for the product as the verdict has left it. -/
def escalationEvent (ctx : LineContext) (product : Product) (s : WorkCenter) : BusinessEvent :=
  { eventType := .qualityEscalation, logicalCycle := ctx.cycle, simTimeSec := ctx.simTimeSec,
    payload := .escalation product.serial product.status.value product.defectCodes,
    stationId := some s.stationId, lotId := some product.lot }

/-- The events of the station loop from a station on. -/
def lineEvents (ctx : LineContext) (d : Nat → StationDraws) :
    Nat → List WorkCenter → LineState → List BusinessEvent
  | _, [], _ => []
  | idx, s :: rest, st =>
    let after := visited ctx (d idx) s
    let st' := inspected ctx (d idx) idx s st
    if Stopped s then []
    else if verdict ctx (d idx) s then
      verdictEvent ctx st.product after true :: lineEvents ctx d (idx + 1) rest st'
    else
      [verdictEvent ctx st.product after false,
        escalationEvent ctx (reject ctx after (d idx).rework st').product after]

def tickEvent (f : Factory) (d : CycleDraws) : BusinessEvent :=
  { eventType := .factoryTick, logicalCycle := (lineContext f d).cycle,
    simTimeSec := (lineContext f d).simTimeSec, payload := .tick (lineContext f d).cycle,
    stationId := none, lotId := none }

def startedEvent (f : Factory) (d : CycleDraws) : BusinessEvent :=
  let product := (entering f d).product
  { eventType := .workStarted, logicalCycle := (lineContext f d).cycle,
    simTimeSec := (lineContext f d).simTimeSec, payload := .started product.serial product.lot,
    stationId := none, lotId := some product.lot }

def completeEvent (f : Factory) (d : CycleDraws) : BusinessEvent :=
  let product := (f.passLine d).2.product
  { eventType := .workComplete, logicalCycle := (lineContext f d).cycle,
    simTimeSec := (lineContext f d).simTimeSec,
    payload := .complete product.serial product.lot "GOOD",
    stationId := none, lotId := some product.lot }

/-- The events of one production cycle, in the order of their emission. -/
def cycleEvents (f : Factory) (d : CycleDraws) : List BusinessEvent :=
  [tickEvent f d, startedEvent f d] ++
    (lineEvents (lineContext f d) d.station 0 f.line (entering f d) ++
      if PassesLine f d then [completeEvent f d] else [])

theorem reject_store (s : WorkCenter) (draw : Unit01) (st : LineState) :
    (reject ctx s draw st).eventStore =
      st.eventStore.emit (escalationEvent ctx (reject ctx s draw st).product s) := by
  unfold reject
  dsimp only
  split <;> rfl

theorem passage_store (h : Passage ctx d idx line st line' st') :
    st'.eventStore = emitAll st.eventStore (lineEvents ctx d idx line st) := by
  induction h with
  | done => rfl
  | stopped hstop =>
    unfold lineEvents
    rw [if_pos hstop]
    rfl
  | @rejected idx s rest st hrun hbad =>
    have hverdict : (inspected ctx (d idx) idx s st).eventStore = st.eventStore.emit
        (verdictEvent ctx st.product (visited ctx (d idx) s) (verdict ctx (d idx) s)) := rfl
    rw [reject_store, hverdict]
    simp only [lineEvents, if_neg hrun, hbad, Bool.false_eq_true, if_false]
    rfl
  | @passed idx s rest rest' st st' hrun hgood _ ih =>
    have hverdict : (inspected ctx (d idx) idx s st).eventStore = st.eventStore.emit
        (verdictEvent ctx st.product (visited ctx (d idx) s) (verdict ctx (d idx) s)) := rfl
    rw [ih, hverdict]
    simp only [lineEvents, if_neg hrun, hgood, if_true]
    rfl

theorem runCycle_store (f : Factory) (d : CycleDraws) :
    (f.runCycle d).1.eventStore = emitAll f.eventStore (cycleEvents f d) := by
  have hbegin : (entering f d).eventStore =
      emitAll f.eventStore [tickEvent f d, startedEvent f d] := rfl
  have hline := passage_store (passLine_passage f d)
  rw [runCycle_of_finish (·.eventStore) (fun _ _ _ _ => rfl) (fun _ _ _ => rfl)]
  unfold cycleEvents
  rw [emitAll_append, emitAll_append, ← hbegin, ← hline]
  by_cases h : PassesLine f d
  · rw [finish_passed _ d h, if_pos h]
    rfl
  · rw [finish_rejected _ d h, if_neg h]
    rfl

/-! ### Counting events -/

def kindCount (kind : BusinessEventType) (evs : List BusinessEvent) : Nat :=
  evs.countP (·.eventType = kind)

/-- A verdict that passes its product. -/
def passes (ev : BusinessEvent) : Bool :=
  match ev.payload with
  | .verdict _ _ pass => pass
  | _ => false

/-- The product an event reports as complete. -/
def completed (ev : BusinessEvent) : Option Nat :=
  match ev.payload with
  | .complete serial _ _ => some serial
  | _ => none

/-- The product an event reports as escalated. -/
def escalated (ev : BusinessEvent) : Option Nat :=
  match ev.payload with
  | .escalation serial _ _ => some serial
  | _ => none

def verdictSum (line : List WorkCenter) : Int :=
  (line.map fun s => s.goodCount + s.defectCount).sum

def goodSum (line : List WorkCenter) : Int := (line.map (·.goodCount)).sum

theorem verdictSum_cons (s : WorkCenter) (rest : List WorkCenter) :
    verdictSum (s :: rest) = s.goodCount + s.defectCount + verdictSum rest := rfl

theorem goodSum_cons (s : WorkCenter) (rest : List WorkCenter) :
    goodSum (s :: rest) = s.goodCount + goodSum rest := rfl

/-- What the loop emits is one verdict for each it counts, and one escalation for
each product it counts as scrap or rework. -/
structure LineTally (line : List WorkCenter) (st : LineState) (line' : List WorkCenter)
    (st' : LineState) (evs : List BusinessEvent) : Prop where
  ticks : kindCount .factoryTick evs = 0
  started : kindCount .workStarted evs = 0
  complete : kindCount .workComplete evs = 0
  verdicts : verdictSum line' = verdictSum line + kindCount .inspectionVerdict evs
  passing : goodSum line' = goodSum line + evs.countP passes
  escalations : st'.scrapCount + st'.reworkCount =
    st.scrapCount + st.reworkCount + kindCount .qualityEscalation evs

theorem LineTally.none (line : List WorkCenter) {st st' : LineState}
    (hscrap : st'.scrapCount = st.scrapCount) (hrework : st'.reworkCount = st.reworkCount) :
    LineTally line st line st' [] := by
  constructor <;> simp [kindCount, hscrap, hrework]

/-- A verdict that ends the way of the product escalates it. -/
theorem rejected_tally {s : WorkCenter} (rest : List WorkCenter) (st : LineState)
    (hbad : verdict ctx (d idx) s = false) :
    LineTally (s :: rest) st (visited ctx (d idx) s :: rest)
      (reject ctx (visited ctx (d idx) s) (d idx).rework (inspected ctx (d idx) idx s st))
      [verdictEvent ctx st.product (visited ctx (d idx) s) false,
        escalationEvent ctx (reject ctx (visited ctx (d idx) s) (d idx).rework
          (inspected ctx (d idx) idx s st)).product (visited ctx (d idx) s)] := by
  obtain ⟨hverdicts,hgood⟩ := visited_counts ctx (d idx) s
  constructor
  · rfl
  · rfl
  · rfl
  · rw [verdictSum_cons, verdictSum_cons, hverdicts]
    simp only [kindCount, verdictEvent, escalationEvent, List.countP_cons, List.countP_nil,
      decide_true, if_true, reduceCtorEq, decide_false, Bool.false_eq_true, if_false]
    omega
  · rw [goodSum_cons, goodSum_cons, hgood, hbad]
    simp [passes, verdictEvent, escalationEvent]
  · change (reject ctx _ _ _).scrapCount + (reject ctx _ _ _).reworkCount = _ + 1
    unfold reject inspected visit
    dsimp only
    split
    · exact (add_assoc _ _ _).symm
    · exact add_right_comm _ _ _

/-- A good verdict adds one to the verdicts and to the good ones. -/
theorem passed_tally {s : WorkCenter} {rest rest' : List WorkCenter} {st st' : LineState}
    {evs : List BusinessEvent} (hgood : verdict ctx (d idx) s = true)
    (h : LineTally rest (inspected ctx (d idx) idx s st) rest' st' evs) :
    LineTally (s :: rest) st (visited ctx (d idx) s :: rest') st'
      (verdictEvent ctx st.product (visited ctx (d idx) s) true :: evs) := by
  obtain ⟨hverdict,hpass⟩ := visited_counts ctx (d idx) s
  rw [hgood, if_pos rfl] at hpass
  constructor
  · exact h.ticks
  · exact h.started
  · exact h.complete
  · have hone : kindCount .inspectionVerdict
        (verdictEvent ctx st.product (visited ctx (d idx) s) true :: evs) =
        kindCount .inspectionVerdict evs + 1 := List.countP_cons_of_pos rfl
    rw [verdictSum_cons, verdictSum_cons, hverdict, h.verdicts, hone]
    omega
  · have hone : (verdictEvent ctx st.product (visited ctx (d idx) s) true :: evs).countP passes =
        evs.countP passes + 1 := List.countP_cons_of_pos rfl
    rw [goodSum_cons, goodSum_cons, hpass, h.passing, hone]
    omega
  · exact h.escalations

theorem passage_tally (h : Passage ctx d idx line st line' st') :
    LineTally line st line' st' (lineEvents ctx d idx line st) := by
  induction h with
  | done => exact .none [] rfl rfl
  | @stopped idx s rest st hstop =>
    simp only [lineEvents, if_pos hstop]
    exact .none (s :: rest) rfl rfl
  | @rejected idx s rest st hrun hbad =>
    simp only [lineEvents, if_neg hrun, hbad, Bool.false_eq_true, if_false]
    exact rejected_tally rest st hbad
  | @passed idx s rest rest' st st' hrun hgood _ ih =>
    simp only [lineEvents, if_neg hrun, hgood, if_true]
    exact passed_tally hgood ih

/-- The loop reports its product as escalated at most, and not if it passes. -/
theorem passage_serials (h : Passage ctx d idx line st line' st') :
    (lineEvents ctx d idx line st).filterMap completed = [] ∧
    (∀ serial ∈ (lineEvents ctx d idx line st).filterMap escalated,
      serial = st.product.serial ∧ st'.product.status ≠ .inProcess) ∧
    st'.product.serial = st.product.serial := by
  induction h with
  | done => simp [lineEvents]
  | @stopped idx s rest st hstop => simp [lineEvents, hstop, held]
  | @rejected idx s rest st hrun hbad =>
    have hproduct : (reject ctx (visited ctx (d idx) s) (d idx).rework
          (inspected ctx (d idx) idx s st)).product.serial = st.product.serial ∧
        (reject ctx (visited ctx (d idx) s) (d idx).rework
          (inspected ctx (d idx) idx s st)).product.status ≠ .inProcess := by
      unfold reject inspected visit
      dsimp only
      split <;> simp
    obtain ⟨hserial,hstatus⟩ := hproduct
    simp only [lineEvents, if_neg hrun, hbad, Bool.false_eq_true, if_false]
    refine ⟨rfl,?_,hserial⟩
    intro serial hmem
    rw [List.mem_singleton.mp hmem]
    exact ⟨hserial,hstatus⟩
  | @passed idx s rest rest' st st' hrun hgood _ ih =>
    simp only [lineEvents, if_neg hrun, hgood, if_true]
    exact ih

/-! ### The stream of a run -/

/-- The events that a factory event emits; only cycles emit any. -/
def emitted (f : Factory) : FactoryEvent → List BusinessEvent
  | .runCycle d => cycleEvents f d
  | _ => []

/-- The stream agrees with the counters of the factory. -/
structure Agrees (stream : List BusinessEvent) (f : Factory) : Prop where
  ticks : (kindCount .factoryTick stream : Int) = f.cycle
  started : (kindCount .workStarted stream : Int) = f.cycle
  complete : (kindCount .workComplete stream : Int) = f.totalProduced
  escalations : (kindCount .qualityEscalation stream : Int) = f.scrapCount + f.reworkCount
  verdicts : (kindCount .inspectionVerdict stream : Int) = verdictSum f.line
  passing : (stream.countP passes : Int) = goodSum f.line

/-- The products reported so far have been started, and none is reported twice over. -/
structure Reported (stream : List BusinessEvent) (f : Factory) : Prop where
  completedBound : ∀ serial ∈ stream.filterMap completed, serial ≤ f.productCounter
  escalatedBound : ∀ serial ∈ stream.filterMap escalated, serial ≤ f.productCounter
  exclusive : ∀ serial ∈ stream.filterMap completed, serial ∉ stream.filterMap escalated

structure Buffered (stream : List BusinessEvent) (f : Factory) : Prop where
  size : f.eventStore.maxlen = 2500
  kept : f.eventStore.q = stream.rtake 2500

theorem kindCount_append (kind : BusinessEventType) (evs evs' : List BusinessEvent) :
    kindCount kind (evs ++ evs') = kindCount kind evs + kindCount kind evs' :=
  List.countP_append

/-- The counts of one cycle's events. -/
theorem cycleEvents_counts (f : Factory) (d : CycleDraws) :
    kindCount .factoryTick (cycleEvents f d) = 1 ∧
    kindCount .workStarted (cycleEvents f d) = 1 ∧
    (kindCount .workComplete (cycleEvents f d) : Int) = one .good (finalStatus f d) ∧
    kindCount .inspectionVerdict (cycleEvents f d) = kindCount .inspectionVerdict
      (lineEvents (lineContext f d) d.station 0 f.line (entering f d)) ∧
    kindCount .qualityEscalation (cycleEvents f d) = kindCount .qualityEscalation
      (lineEvents (lineContext f d) d.station 0 f.line (entering f d)) ∧
    (cycleEvents f d).countP passes =
      (lineEvents (lineContext f d) d.station 0 f.line (entering f d)).countP passes := by
  obtain ⟨hticks,hstarted,hcomplete,_,_,_⟩ := passage_tally (passLine_passage f d)
  by_cases hpass : PassesLine f d
  · have hgood : finalStatus f d = .good := (finalStatus_good f d).mpr hpass
    simp only [cycleEvents, if_pos hpass, kindCount_append, List.countP_append, hticks, hstarted,
      hcomplete, hgood]
    refine ⟨rfl,rfl,rfl,?_,?_,?_⟩
    · exact Nat.zero_add _
    · exact Nat.zero_add _
    · exact Nat.zero_add _
  · have hgood : one .good (finalStatus f d) = 0 := one_of_rejected f d hpass
    simp only [cycleEvents, if_neg hpass, List.append_nil, kindCount_append, List.countP_append,
      hticks, hstarted, hcomplete, hgood]
    refine ⟨rfl,rfl,rfl,?_,?_,?_⟩
    · exact Nat.zero_add _
    · exact Nat.zero_add _
    · exact Nat.zero_add _

theorem runCycle_agrees {stream : List BusinessEvent} {f : Factory} (h : Agrees stream f)
    (d : CycleDraws) : Agrees (stream ++ cycleEvents f d) (f.runCycle d).1 := by
  obtain ⟨hticks,hstarted,hcomplete,hverdict,hescalation,hpasses⟩ := cycleEvents_counts f d
  obtain ⟨_,_,_,hsum,hgood,hrejected⟩ := passage_tally (passLine_passage f d)
  constructor
  · rw [kindCount_append, hticks, runCycle_cycle, Nat.cast_add, h.ticks]
    rfl
  · rw [kindCount_append, hstarted, runCycle_cycle, Nat.cast_add, h.started]
    rfl
  · rw [kindCount_append, runCycle_produced, Nat.cast_add, h.complete, hcomplete]
  · rw [kindCount_append, hescalation, Nat.cast_add, h.escalations, runCycle_scrapCount,
      runCycle_reworkCount, hrejected]
    rfl
  · rw [kindCount_append, hverdict, Nat.cast_add, h.verdicts, runCycle_line, hsum]
  · rw [List.countP_append, hpasses, Nat.cast_add, h.passing, runCycle_line, hgood]

theorem cycleEvents_serials (f : Factory) (d : CycleDraws) :
    (∀ serial ∈ (cycleEvents f d).filterMap completed,
      serial = f.productCounter + 1 ∧ PassesLine f d) ∧
    ∀ serial ∈ (cycleEvents f d).filterMap escalated,
      serial = f.productCounter + 1 ∧ ¬ PassesLine f d := by
  obtain ⟨hnone,hescalated,hserial⟩ := passage_serials (passLine_passage f d)
  constructor
  · intro serial hmem
    simp only [cycleEvents, List.filterMap_append, hnone, List.nil_append] at hmem
    by_cases hpass : PassesLine f d
    · rw [if_pos hpass] at hmem
      rw [List.mem_singleton.mp hmem]
      exact ⟨hserial,hpass⟩
    · rw [if_neg hpass] at hmem
      cases hmem
  · intro serial hmem
    simp only [cycleEvents, List.filterMap_append, List.mem_append] at hmem
    rcases hmem with hopening | hline | hclosing
    · cases hopening
    · exact hescalated serial hline
    · split at hclosing <;> cases hclosing

/-- A cycle reports a new product, as complete or as escalated but not both. -/
theorem runCycle_reported {stream : List BusinessEvent} {f : Factory} (h : Reported stream f)
    (d : CycleDraws) : Reported (stream ++ cycleEvents f d) (f.runCycle d).1 := by
  obtain ⟨hcompleted,hescalated⟩ := cycleEvents_serials f d
  constructor
  · intro serial hmem
    rw [runCycle_productCounter]
    rcases List.mem_append.mp (List.filterMap_append ▸ hmem) with hold | hnew
    · exact (h.completedBound serial hold).trans (Nat.le_succ _)
    · exact (hcompleted serial hnew).1.le
  · intro serial hmem
    rw [runCycle_productCounter]
    rcases List.mem_append.mp (List.filterMap_append ▸ hmem) with hold | hnew
    · exact (h.escalatedBound serial hold).trans (Nat.le_succ _)
    · exact (hescalated serial hnew).1.le
  · intro serial hmem hother
    rcases List.mem_append.mp (List.filterMap_append ▸ hmem) with hold | hnew
    · rcases List.mem_append.mp (List.filterMap_append ▸ hother) with hold' | hnew'
      · exact h.exclusive serial hold hold'
      · have hle := h.completedBound serial hold
        have heq := (hescalated serial hnew').1
        omega
    · rcases List.mem_append.mp (List.filterMap_append ▸ hother) with hold' | hnew'
      · have hle := h.escalatedBound serial hold'
        have heq := (hcompleted serial hnew).1
        omega
      · exact (hescalated serial hnew').2 (hcompleted serial hnew).2

theorem runCycle_buffered {stream : List BusinessEvent} {f : Factory} (h : Buffered stream f)
    (d : CycleDraws) : Buffered (stream ++ cycleEvents f d) (f.runCycle d).1 := by
  obtain ⟨hsize,hq⟩ := emitAll_buffer f.eventStore (cycleEvents f d)
  constructor
  · rw [runCycle_store, hsize, h.size]
  · rw [runCycle_store, hq, h.size, h.kept]
    exact Ring.foldl_push 2500 stream (cycleEvents f d)

/-- The stream of events, the counters and the buffer of a factory in a run. -/
def Recorded (stream : List BusinessEvent) (f : Factory) : Prop :=
  Agrees stream f ∧ Reported stream f ∧ Buffered stream f

theorem apply_recorded {stream : List BusinessEvent} {f : Factory} (h : Recorded stream f)
    (e : FactoryEvent) : Recorded (stream ++ emitted f e) (e.apply f) := by
  obtain ⟨hagrees,hreported,hbuffered⟩ := h
  cases e with
  | runCycle d =>
    exact ⟨runCycle_agrees hagrees d,runCycle_reported hreported d,runCycle_buffered hbuffered d⟩
  | station i e =>
    have hcounts := stationEvent_counts e
    have hverdicts : verdictSum (f.line.modify i e.apply) = verdictSum f.line :=
      congrArg List.sum (map_modify_same (fun s => by rw [(hcounts s).1, (hcounts s).2.1]) i _)
    have hgood : goodSum (f.line.modify i e.apply) = goodSum f.line :=
      congrArg List.sum (map_modify_same (fun s => (hcounts s).1) i _)
    simp only [emitted, List.append_nil]
    refine ⟨⟨hagrees.ticks,hagrees.started,hagrees.complete,hagrees.escalations,?_,?_⟩,
      ⟨hreported.completedBound,hreported.escalatedBound,hreported.exclusive⟩,
      hbuffered.size,hbuffered.kept⟩
    · exact hagrees.verdicts.trans hverdicts.symm
    · exact hagrees.passing.trans hgood.symm
  | _ =>
    simp only [emitted, List.append_nil]
    exact ⟨⟨hagrees.ticks,hagrees.started,hagrees.complete,hagrees.escalations,hagrees.verdicts,
      hagrees.passing⟩,⟨hreported.completedBound,hreported.escalatedBound,hreported.exclusive⟩,
      hbuffered.size,hbuffered.kept⟩

theorem new_recorded (d : InitDraws) : Recorded [] (Factory.new d) := by
  have hline : verdictSum createProductionLine = 0 ∧ goodSum createProductionLine = 0 := by decide
  refine ⟨⟨rfl,rfl,rfl,rfl,hline.1.symm,hline.2.symm⟩,⟨?_,?_,?_⟩,⟨rfl,rfl⟩⟩
  · intro serial hmem
    cases hmem
  · intro serial hmem
    cases hmem
  · intro serial hmem
    cases hmem

/-- In every run of a factory the stream it has emitted agrees with its counters,
reports no product both as complete and as escalated, and ends with what the
buffer holds. -/
theorem stream_agrees (d : InitDraws) (es : List FactoryEvent) :
    let f := Runs.run FactoryEvent.apply (Factory.new d) es
    let stream := Runs.outputs FactoryEvent.apply emitted (Factory.new d) es
    Agrees stream f ∧
      (∀ serial, ¬ (serial ∈ stream.filterMap completed ∧ serial ∈ stream.filterMap escalated)) ∧
      f.eventStore.q = stream.rtake (min 2500 stream.length) := by
  have hrun : Recorded (Runs.outputs FactoryEvent.apply emitted (Factory.new d) es)
      (Runs.run FactoryEvent.apply (Factory.new d) es) := by
    have hkeep : ∀ (stream : List BusinessEvent) (f : Factory) (e : FactoryEvent),
        Recorded stream f → Recorded (stream ++ emitted f e) (e.apply f) :=
      fun _ _ e h => apply_recorded h e
    exact Runs.outputs_invariant_nil hkeep (new_recorded d)
  obtain ⟨hagrees,hreported,hbuffered⟩ := hrun
  refine ⟨hagrees,?_,?_⟩
  · intro serial hboth
    exact hreported.exclusive serial hboth.1 hboth.2
  · rw [Ring.rtake_min_length]
    exact hbuffered.kept

/-! ### What is read back from a buffer -/

theorem emitAll_new_q (maxlen : Nat) (history : List BusinessEvent) :
    (emitAll (.new maxlen) history).q = history.rtake maxlen := by
  have hfold : (emitAll (.new maxlen) history).q = history.foldl (Ring.push maxlen) [] :=
    (emitAll_buffer (.new maxlen) history).2
  have hpush := Ring.foldl_push maxlen [] history
  rw [List.rtake_nil, List.nil_append] at hpush
  rw [hfold, hpush]

/-- The slice of a positive `n` is the last `n` of what the buffer holds. -/
theorem tail_emitAll {maxlen n : Nat} (hn : n ≠ 0) (history : List BusinessEvent) :
    (emitAll (.new maxlen) history).tail n = history.rtake (min n maxlen) := by
  have hslice : (emitAll (.new maxlen) history).tail n =
      (emitAll (.new maxlen) history).q.rtake n := if_neg hn
  rw [hslice, emitAll_new_q, Ring.rtake_rtake]

/-- A reader gets the last events it asks for, unless it asks for none of a buffer
that has some: that slice is the whole buffer. -/
theorem tail_last_iff {maxlen : Nat} (hmaxlen : 1 ≤ maxlen) (n : Nat)
    (history : List BusinessEvent) :
    (emitAll (.new maxlen) history).tail n =
      history.rtake (min n (min maxlen history.length)) ↔ n ≠ 0 ∨ history = [] := by
  by_cases hn : n = 0
  · subst hn
    have hall : (emitAll (.new maxlen) history).tail 0 = history.rtake maxlen :=
      emitAll_new_q maxlen history
    rw [hall, Nat.zero_min, List.rtake_zero, Ring.rtake_eq_nil hmaxlen]
    exact (or_iff_right (not_not.mpr rfl)).symm
  · rw [tail_emitAll hn, ← Nat.min_assoc, Ring.rtake_min_length]
    exact iff_of_true rfl (Or.inl hn)

/-- One tick, emitted to a buffer of the default size. -/
def oneTick : BusinessEvent :=
  { eventType := .factoryTick, logicalCycle := 1, simTimeSec := 0, payload := .tick 1,
    stationId := none, lotId := none }

theorem tail_none_returns_all :
    ¬ ((emitAll .new [oneTick]).tail 0 = [oneTick].rtake (min 0 (min 2500 [oneTick].length))) := by
  decide

theorem tail_last_two :
    (1 ≤ 2) ∧ ((emitAll (.new 2) [oneTick, oneTick, oneTick]).tail 5 =
      [oneTick, oneTick, oneTick].rtake (min 5 (min 2 3)) ↔
        5 ≠ 0 ∨ [oneTick, oneTick, oneTick] = []) :=
  ⟨by decide,tail_last_iff (by decide) 5 [oneTick, oneTick, oneTick]⟩

end ManufacturingMas.Proofs.EventStream
