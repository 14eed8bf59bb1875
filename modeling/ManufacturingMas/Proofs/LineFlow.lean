import ManufacturingMas.Lib.Runs
import ManufacturingMas.Proofs.FirstPassYield

/-! Where the products of a line end: every one that comes to a station is held there, or
rejected there, or goes on to the next. -/

namespace ManufacturingMas.Proofs.LineFlow
open Py Machines Environment FactoryEvents UnitBalance FactoryCycle

/-- What a station has counted. -/
structure Visits where
  stationId : String
  good : Int
  defect : Int

def visits (s : WorkCenter) : Visits := ⟨s.stationId,s.goodCount,s.defectCount⟩

def heldAt (stationId : String) (p : Product) : Bool :=
  p.status = .hold ∧ p.defectCodes = [stationId ++ "_정지"]

def rejectedAt (stationId : String) (p : Product) : Bool :=
  (p.status = .rework ∧ p.defectCodes = [stationId ++ "_재작업"]) ∨
    (p.status = .scrap ∧ p.defectCodes = [stationId ++ "_폐기"])

/-- Of the `n` products that came to the first station, each was held or judged there, and
those judged good came to the next one; `out` of them left the line. `ends` are the products
whose cycle has ended. -/
def Flow (ends : List Product) : Int → List Visits → Int → Prop
  | n, [], out => n = out
  | n, v :: vs, out =>
    n = v.good + v.defect + ends.countP (heldAt v.stationId) ∧
    v.defect = ends.countP (rejectedAt v.stationId) ∧
    Flow ends v.good vs out

/-- The product of a cycle, as it ends. -/
def endProduct (f : Factory) : FactoryEvent → List Product
  | .runCycle d => [(f.runCycle d).2.product]
  | _ => []

variable {ctx : LineContext} {d : Nat → StationDraws} {idx : Nat} {line line' : List WorkCenter}
  {st st' : LineState} {ends : List Product} {p : Product} {n out : Int} {id : String}

/-! ### One product -/

/-- The product has met no stop and no failed verdict. -/
def Clean (p : Product) : Prop := p.status = .inProcess ∧ p.defectCodes = []

def endsAt (id : String) (p : Product) : Bool := heldAt id p || rejectedAt id p

theorem held_ends (id : String) (s : WorkCenter) (h : Clean st.product) :
    heldAt id (held s st).product = (id = s.stationId) ∧
      rejectedAt id (held s st).product = false := by
  have hcodes : (held s st).product.defectCodes = [s.stationId ++ "_정지"] := by
    change st.product.defectCodes ++ _ = _
    rw [h.2]
    rfl
  constructor
  · unfold heldAt
    rw [hcodes]
    simp only [held, true_and, List.cons.injEq, and_true, decide_eq_true_eq, eq_iff_iff]
    exact ⟨fun heq => ((String.append_left_inj _).mp heq).symm,fun heq => by rw [heq]⟩
  · simp [rejectedAt, held]

theorem rejected_ends (id : String) (ctx : LineContext) (d : Nat → StationDraws) (idx : Nat)
    (s : WorkCenter) (h : Clean st.product) :
    let rejected := (reject ctx (visited ctx (d idx) s) (d idx).rework
      (inspected ctx (d idx) idx s st)).product
    rejectedAt id rejected = (id = s.stationId) ∧ heldAt id rejected = false ∧
      rejected.status ≠ .inProcess := by
  have hid : (visited ctx (d idx) s).stationId = s.stationId :=
    congrArg Nameplate.stationId (visited_nameplate ctx (d idx) s)
  have hcodes : (inspected ctx (d idx) idx s st).product.defectCodes = [] := h.2
  have hiff : ∀ suffix, s.stationId ++ suffix = id ++ suffix ↔ id = s.stationId := fun suffix =>
    ⟨fun heq => ((String.append_left_inj _).mp heq).symm,fun heq => by rw [heq]⟩
  intro rejected
  unfold rejected reject
  dsimp only
  split <;> simp [rejectedAt, heldAt, hcodes, hid, hiff]

/-- A product ends on its passage, and at a station of the line. -/
theorem passage_end (h : Passage ctx d idx line st line' st') (hclean : Clean st.product)
    (hend : endsAt id st'.product = true) : id ∈ line.map (·.stationId) := by
  induction h with
  | done =>
    simp [endsAt, heldAt, rejectedAt, hclean.1] at hend
  | @stopped idx s rest st _ =>
    obtain ⟨hheld,hrejected⟩ := held_ends id s hclean
    unfold endsAt at hend
    rw [hrejected, Bool.or_false, hheld] at hend
    exact List.mem_cons.mpr (.inl hend)
  | @rejected idx s rest st _ _ =>
    obtain ⟨hrejected,hheld,_⟩ := rejected_ends id ctx d idx s hclean
    unfold endsAt at hend
    rw [hheld, Bool.false_or, hrejected] at hend
    exact List.mem_cons.mpr (.inl hend)
  | passed _ _ _ ih => exact List.mem_cons_of_mem _ (ih hclean hend)

/-! ### One passage -/

/-- A product that does not end at any of the stations leaves their flow. -/
theorem flow_other {vs : List Visits} (h : Flow ends n vs out)
    (hnone : ∀ v ∈ vs, endsAt v.stationId p = false) : Flow (ends ++ [p]) n vs out := by
  induction vs generalizing n with
  | nil => exact h
  | cons v vs ih =>
    obtain ⟨hhead,hrest⟩ := List.forall_mem_cons.mp hnone
    obtain ⟨hcame,hdefect,hflow⟩ := h
    obtain ⟨hheld,hrejected⟩ := Bool.or_eq_false_iff.mp hhead
    refine ⟨?_,?_,ih hflow hrest⟩
    · rw [List.countP_append, List.countP_singleton, hheld]
      simpa using hcame
    · rw [List.countP_append, List.countP_singleton, hrejected]
      simpa using hdefect

theorem visits_visited (ctx : LineContext) (d : StationDraws) (s : WorkCenter) :
    visits (visited ctx d s) = ⟨s.stationId,
      s.goodCount + (if verdict ctx d s then 1 else 0),
      s.defectCount + (if verdict ctx d s then 0 else 1)⟩ := by
  have hid : (visited ctx d s).stationId = s.stationId :=
    congrArg Nameplate.stationId (visited_nameplate ctx d s)
  unfold visits
  rw [hid, (visited_counts ctx d s).2, FirstPassYield.visited_defects]

/-- Only one station of the line is where the product ends. -/
theorem ends_once {s : WorkCenter} {rest : List WorkCenter}
    (hids : ((s :: rest).map (·.stationId)).Nodup)
    (hend : ∀ id, endsAt id p = true → id = s.stationId) :
    ∀ v ∈ rest.map visits, endsAt v.stationId p = false := by
  intro v hv
  obtain ⟨t,ht,rfl⟩ := List.mem_map.mp hv
  rw [← Bool.not_eq_true]
  intro htrue
  have hsame : t.stationId = s.stationId := hend _ htrue
  exact (List.nodup_cons.mp hids).1 (List.mem_map.mpr ⟨t,ht,hsame⟩)

theorem countP_next (P : Product → Bool) : (((ends ++ [p]).countP P : Nat) : Int) =
    ends.countP P + if P p then 1 else 0 := by
  rw [List.countP_append, List.countP_singleton]
  split <;> rfl

theorem passage_flow (h : Passage ctx d idx line st line' st') (hclean : Clean st.product)
    (hids : (line.map (·.stationId)).Nodup) (hflow : Flow ends n (line.map visits) out) :
    Flow (ends ++ [st'.product]) (n + 1) (line'.map visits)
      (out + if st'.product.status = .inProcess then 1 else 0) := by
  induction h generalizing n with
  | done =>
    rw [if_pos hclean.1]
    exact congrArg (· + 1) hflow
  | @stopped idx s rest st _ =>
    obtain ⟨hcame,hdefect,hrest⟩ := hflow
    have hends : ∀ id, endsAt id (held s st).product = true → id = s.stationId := by
      intro id hend
      obtain ⟨hheld,hrejected⟩ := held_ends id s hclean
      unfold endsAt at hend
      rwa [hrejected, Bool.or_false, hheld] at hend
    obtain ⟨hheld,hrejected⟩ := held_ends s.stationId s hclean
    rw [if_neg (by simp [held]), add_zero]
    refine ⟨?_,?_,flow_other hrest (ends_once hids hends)⟩
    · rw [countP_next, hcame]
      simp [visits, hheld]
      omega
    · rw [countP_next, hdefect]
      simp [visits, hrejected]
  | @rejected idx s rest st _ hbad =>
    obtain ⟨hcame,hdefect,hrest⟩ := hflow
    have hends : ∀ id, endsAt id (reject ctx (visited ctx (d idx) s) (d idx).rework
        (inspected ctx (d idx) idx s st)).product = true → id = s.stationId := by
      intro id hend
      obtain ⟨hrejected,hheld,_⟩ := rejected_ends id ctx d idx s hclean
      unfold endsAt at hend
      rwa [hheld, Bool.false_or, hrejected] at hend
    obtain ⟨hrejected,hheld,hstatus⟩ := rejected_ends s.stationId ctx d idx s hclean
    have hvisits : visits (visited ctx (d idx) s) =
        ⟨s.stationId,s.goodCount,s.defectCount + 1⟩ := by
      simp [visits_visited, hbad]
    rw [if_neg hstatus, add_zero, List.map_cons, hvisits]
    refine ⟨?_,?_,flow_other hrest (ends_once hids hends)⟩
    · rw [countP_next, hcame]
      simp [visits, hheld]
      omega
    · rw [countP_next]
      simp only [visits] at hdefect
      simp [hrejected, hdefect]
  | @passed idx s rest rest' st st' _ hgood hpassage ih =>
    obtain ⟨hcame,hdefect,hrest⟩ := hflow
    have hnot : endsAt s.stationId st'.product = false := by
      rw [← Bool.not_eq_true]
      exact fun hend => (List.nodup_cons.mp hids).1 (passage_end hpassage hclean hend)
    obtain ⟨hheld,hrejected⟩ := Bool.or_eq_false_iff.mp hnot
    have hvisits : visits (visited ctx (d idx) s) =
        ⟨s.stationId,s.goodCount + 1,s.defectCount⟩ := by
      simp [visits_visited, hgood]
    rw [List.map_cons, hvisits]
    refine ⟨?_,?_,ih hclean (List.nodup_cons.mp hids).2 hrest⟩
    · rw [countP_next, hcame]
      simp [visits, hheld]
      omega
    · rw [countP_next]
      simp only [visits] at hdefect
      simp [hrejected, hdefect]

/-! ### One event -/

/-- The line's flow, with the cycles as the products that came. -/
structure Flowing (ends : List Product) (f : Factory) : Prop where
  ids : (f.line.map (·.stationId)).Nodup
  flow : Flow ends f.cycle (f.line.map visits) f.totalProduced
  cycles : f.cycle = ends.length

/-- Two lists of products that end at the same stations have the same flow. -/
theorem flow_congr {vs : List Visits} {ends' : List Product}
    (hheld : ∀ id, ends.countP (heldAt id) = ends'.countP (heldAt id))
    (hrejected : ∀ id, ends.countP (rejectedAt id) = ends'.countP (rejectedAt id))
    (h : Flow ends n vs out) : Flow ends' n vs out := by
  induction vs generalizing n with
  | nil => exact h
  | cons v vs ih =>
    obtain ⟨hcame,hdefect,hflow⟩ := h
    exact ⟨hheld _ ▸ hcame,hrejected _ ▸ hdefect,ih hflow⟩

/-- A product that passed the line becomes good, and ends at no station. -/
theorem finish_ends (f : Factory) (d : CycleDraws) (p : Product) (id : String) :
    heldAt id (f.finish d p).2 = heldAt id p ∧ rejectedAt id (f.finish d p).2 = rejectedAt id p := by
  unfold Factory.finish
  split
  · rename_i hprocess
    constructor
    · simp [heldAt, Factory.finishGood, hprocess]
    · simp [rejectedAt, Factory.finishGood, hprocess]
  · exact ⟨rfl,rfl⟩

theorem runCycle_flowing {f : Factory} (h : Flowing ends f) (d : CycleDraws) :
    Flowing (ends ++ [(f.runCycle d).2.product]) (f.runCycle d).1 := by
  have hids := runCycle_nameplates f d (·.stationId)
  have hclean : Clean (entering f d).product := ⟨rfl,rfl⟩
  have hflow := passage_flow (passLine_passage f d) hclean h.ids h.flow
  have hproduced : (f.runCycle d).1.totalProduced = f.totalProduced +
      if (f.passLine d).2.product.status = .inProcess then 1 else 0 := by
    rw [runCycle_produced, finalStatus_eq]
    by_cases hpass : PassesLine f d
    · rw [if_pos hpass, if_pos (by exact hpass)]
      rfl
    · rw [if_neg hpass, if_neg (by exact hpass)]
      have hnot := ((passLine_passage f d).tally rfl).1
      simp [one, hnot]
  refine ⟨?_,?_,?_⟩
  · exact hids.symm ▸ h.ids
  · rw [runCycle_cycle, runCycle_line, hproduced]
    have hends := finish_ends ((f.beginCycle d).1.afterLine (f.passLine d).1 (f.passLine d).2) d
      (f.passLine d).2.product
    refine flow_congr (fun id => ?_) (fun id => ?_) hflow
    · rw [List.countP_append, List.countP_append, List.countP_singleton, List.countP_singleton,
        ← (hends id).1]
      rfl
    · rw [List.countP_append, List.countP_append, List.countP_singleton, List.countP_singleton,
        ← (hends id).2]
      rfl
  · rw [runCycle_cycle, h.cycles, List.length_append]
    rfl

theorem station_visits (e : StationEvent) (s : WorkCenter) : visits (e.apply s) = visits s := by
  obtain ⟨hgood,hdefect,_⟩ := stationEvent_counts e s
  have hid : (e.apply s).stationId = s.stationId := by cases e <;> rfl
  unfold visits
  rw [hid, hgood, hdefect]

theorem apply_flowing (ends : List Product) (f : Factory) (e : FactoryEvent)
    (h : Flowing ends f) : Flowing (ends ++ endProduct f e) (e.apply f) := by
  cases e with
  | runCycle d => exact runCycle_flowing h d
  | station i e =>
    have hvisits : (f.line.modify i e.apply).map visits = f.line.map visits :=
      map_modify_same (station_visits e) i f.line
    have hids : (f.line.modify i e.apply).map (·.stationId) = f.line.map (·.stationId) :=
      map_modify_same (g := (·.stationId)) (fun s => congrArg Visits.stationId (station_visits e s))
        i f.line
    change Flowing (ends ++ []) _
    rw [List.append_nil]
    refine ⟨?_,?_,h.cycles⟩
    · exact hids.symm ▸ h.ids
    · exact hvisits.symm ▸ h.flow
  | _ =>
    change Flowing (ends ++ []) _
    rw [List.append_nil]
    exact ⟨h.ids,h.flow,h.cycles⟩

/-- In every reachable state each product whose cycle has ended is accounted for at one place:
the products are as many as the cycles, at each station those that came are the ones judged
good, rejected or held there, those judged good are the ones that come to the next station,
and after the last station they are the finished units. -/
theorem line_flow (d : InitDraws) (es : List FactoryEvent) :
    let f := Runs.run FactoryEvent.apply (.new d) es
    let ends := Runs.outputs FactoryEvent.apply endProduct (.new d) es
    Flow ends f.cycle (f.line.map visits) f.totalProduced ∧ f.cycle = ends.length := by
  intro f ends
  have hstart : Flowing [] (Factory.new d) := by
    have hids : (createProductionLine.map (·.stationId)).Nodup := by decide
    refine ⟨hids,?_,rfl⟩
    change Flow [] 0 (createProductionLine.map visits) 0
    simp [createProductionLine, Flow, visits, createBlankingPress, createFormingPress,
      createSpotWelder, createHeatTreatment, createCncMachine, createAssemblyStation,
      WorkCenter.new]
  have hflowing : Flowing ends f := Runs.outputs_invariant_nil apply_flowing hstart
  exact ⟨hflowing.flow,hflowing.cycles⟩

end ManufacturingMas.Proofs.LineFlow
