import ManufacturingMas.Lib.Pointwise
import ManufacturingMas.Lib.Simulation
import ManufacturingMas.Proofs.LineFlow
import ManufacturingMas.Runtime.FactoryLoop

/-! The loops of the factory's runtime refine the factory under its events: each iteration is
a run of events, with the same products. -/

namespace ManufacturingMas.Proofs.LoopRefinement
open Py Machines Environment ScenarioRuntime FactoryEvents EnvLoops FactoryLoop
open FactoryCycle LineFlow Simulation

/-- The product of an iteration, as its cycle ends. -/
def loopProduct (s : LoopState) : LoopEvent → List Product
  | .tick d => [(s.factory.runCycle d.cycle).2.product]
  | _ => []

/-- Events lead from one factory to another, and their cycles end with these products. -/
abbrev Leads (f : Factory) (products : List Product) (g : Factory) : Prop :=
  Reaches FactoryEvent.apply endProduct f products g

/-- Events at a station lead from one of its states to another. -/
abbrev Changes (s t : WorkCenter) : Prop :=
  Reaches (fun wc (e : StationEvent) => e.apply wc) (fun _ _ => ([] : List Unit)) s [] t

variable {f : Factory} {s : WorkCenter} {i : Nat} {change : Nat → WorkCenter → WorkCenter}

/-! ### Stations -/

theorem changes_event (s : WorkCenter) (e : StationEvent) : Changes s (e.apply s) := .single s e

theorem recover_changes (d : DynamicsDraws) (i : Nat) (s : WorkCenter) :
    Changes s (AgentRuntime.recoverSensors d i s) := by
  unfold AgentRuntime.recoverSensors
  rw [Pointwise.mapIdx_eq_foldl]
  refine reaches_foldl (fun sensors => { s with sensors := sensors })
    (fun _ => True) (fun _ _ h => h) (fun sensors j _ => ?_) trivial _
  by_cases hrecovers : (d.recovers i j).val < 1/20
  · simp only [if_pos hrecovers]
    exact changes_event _ (.recoverSensor j (d.amount i j).val)
  · simp only [if_neg hrecovers]
    rw [show sensors.modify j (fun p => (p.1,p.2)) = sensors from List.modify_id j sensors]
    exact .refl _

theorem repair_changes (d : DynamicsDraws) (i : Nat) (s : WorkCenter) :
    Changes s (AgentRuntime.repairStation d i s) := by
  unfold AgentRuntime.repairStation
  split
  · exact changes_event s .completeRepair
  · exact .refl s

/-- Events at one station of a line. -/
theorem station_run (i : Nat) (es : List StationEvent) (f : Factory) :
    Runs.run FactoryEvent.apply f (es.map (.station i)) =
      { f with line := f.line.modify i fun wc => Runs.run (fun wc e => e.apply wc) wc es } ∧
    Runs.outputs FactoryEvent.apply endProduct f (es.map (.station i)) = [] := by
  induction es generalizing f with
  | nil =>
    have hsame : f.line.modify i (fun wc => Runs.run (fun wc (e : StationEvent) => e.apply wc) wc []) =
        f.line := List.modify_id i f.line
    rw [hsame]
    exact ⟨rfl,rfl⟩
  | cons e es ih =>
    obtain ⟨hstate,hout⟩ := ih (FactoryEvent.apply f (.station i e))
    refine ⟨?_,hout⟩
    rw [List.map_cons, Runs.run_cons, hstate]
    simp only [FactoryEvent.apply, List.modify_modify_eq]
    rfl

/-- What can be done to a station can be done to it in its line. -/
theorem leads_modify {change : WorkCenter → WorkCenter}
    (h : ∀ s, f.line[i]? = some s → Changes s (change s)) :
    Leads f [] { f with line := f.line.modify i change } := by
  cases hs : f.line[i]? with
  | none =>
    rw [List.modify_eq_self (List.getElem?_eq_none_iff.mp hs)]
    exact .refl f
  | some s =>
    obtain ⟨es,hes,_⟩ := h s hs
    obtain ⟨hstate,hout⟩ := station_run i es f
    refine ⟨es.map (.station i),?_,hout⟩
    rw [hstate, Pointwise.modify_congr fun wc hwc => ?_]
    rw [hs] at hwc
    cases hwc
    exact hes

theorem leads_mapIdx (h : ∀ i s, Changes s (change i s)) :
    Leads f [] { f with line := f.line.mapIdx change } := by
  rw [Pointwise.mapIdx_eq_foldl]
  exact reaches_foldl (fun line => { f with line := line }) (fun _ => True)
    (fun _ _ h => h) (fun line i _ => leads_modify fun s _ => h i s) trivial _

/-! ### Materials -/

/-- No two materials have the same key. -/
def Keyed (f : Factory) : Prop := (f.materials.map Prod.fst).Nodup

theorem receive_modify {materials : List (String × Material)} {key : String} {m : Material}
    (hkeys : (materials.map Prod.fst).Nodup) (hm : materials[i]? = some (key,m)) (qty : Nat) :
    receiveMaterial key qty materials =
      materials.modify i fun p => (p.1,{ p.2 with stock := p.2.stock + qty }) := by
  apply List.ext_getElem?
  intro j
  unfold receiveMaterial
  rw [List.getElem?_map, List.getElem?_modify]
  by_cases hj : i = j
  · subst hj
    rw [hm]
    simp
  · cases hother : materials[j]? with
    | none => simp
    | some p =>
      have hne : p.1 ≠ key := by
        rintro rfl
        have hi : (materials.map Prod.fst)[i]? = some p.1 := by rw [List.getElem?_map, hm]; rfl
        have hjkey : (materials.map Prod.fst)[j]? = some p.1 := by rw [List.getElem?_map, hother]; rfl
        exact hj ((List.getElem?_inj (List.getElem?_eq_some_iff.mp hi).1 hkeys).mp
          (hi.trans hjkey.symm))
      simp [hj, hne]

/-- A delivery of one material. -/
theorem leads_delivery (hf : Keyed f) {qty : Int} (hqty : 0 ≤ qty) {key : String} {m : Material}
    (hm : f.materials[i]? = some (key,m)) :
    Leads f [] { f with materials := f.materials.modify i fun p =>
      (p.1,{ p.2 with stock := p.2.stock + qty }) } := by
  have hevent : Leads f [] (FactoryEvent.apply f (.materialArrival key qty.toNat)) := .single f _
  have hreceived := receive_modify hf hm qty.toNat
  rw [Int.toNat_of_nonneg hqty] at hreceived
  rwa [FactoryEvent.apply, hreceived] at hevent

theorem keys_modify {materials : List (String × Material)} {g : String × Material → Material}
    (i : Nat) : (materials.modify i fun p => (p.1,g p)).map Prod.fst = materials.map Prod.fst := by
  apply List.ext_getElem?
  intro j
  rw [List.getElem?_map, List.getElem?_modify, List.getElem?_map]
  by_cases hj : i = j
  · subst hj
    cases materials[i]? <;> simp
  · simp [hj]

theorem restock_leads (hf : Keyed f) (d : DynamicsDraws) (i : Nat) :
    Leads f [] { f with materials := f.materials.modify i fun p =>
      (p.1,AgentRuntime.restock d i p.2) } := by
  have hquantity : 0 ≤ (d.quantity i).val := le_trans (by omega) (d.quantity i).lo_le
  cases hm : f.materials[i]? with
  | none =>
    rw [List.modify_eq_self (List.getElem?_eq_none_iff.mp hm)]
    exact .refl f
  | some p =>
    obtain ⟨key,m⟩ := p
    by_cases hrestocks : AgentRuntime.restocks d i m = true
    · have hdelivery := leads_delivery hf hquantity hm
      rwa [Pointwise.modify_congr fun p hp => ?_]
      rw [hm] at hp
      cases hp
      unfold AgentRuntime.restock
      rw [if_pos hrestocks]
    · rw [show f.materials.modify i (fun p => (p.1,AgentRuntime.restock d i p.2)) =
          f.materials.modify i (fun p => (p.1,p.2)) from Pointwise.modify_congr fun p hp => ?_]
      · rw [show f.materials.modify i (fun p => (p.1,p.2)) = f.materials from List.modify_id i _]
        exact .refl f
      · rw [hm] at hp
        cases hp
        unfold AgentRuntime.restock
        rw [if_neg hrestocks]

theorem restocks_lead (hf : Keyed f) (d : DynamicsDraws) :
    Leads f [] { f with materials := f.materials.mapIdx fun i (key,m) =>
      (key,AgentRuntime.restock d i m) } := by
  rw [Pointwise.mapIdx_eq_foldl]
  refine reaches_foldl (fun materials => { f with materials := materials })
    (fun materials => (materials.map Prod.fst).Nodup) (fun materials i h => ?_)
    (fun materials i h => restock_leads h d i) hf _
  rw [keys_modify (g := fun p => AgentRuntime.restock d i p.2)]
  exact h

/-! ### Iterations -/

/-- No event adds a material, takes one away or renames it. -/
theorem event_keys (f : Factory) (e : FactoryEvent) :
    (e.apply f).materials.map Prod.fst = f.materials.map Prod.fst := by
  have hconsume : ∀ (draw : Nat → Unit01) (i : Nat) (materials : List (String × Material)),
      (consumeMaterials draw i materials).map Prod.fst = materials.map Prod.fst := by
    intro draw i materials
    induction materials generalizing i with
    | nil => rfl
    | cons p rest ih =>
      obtain ⟨key,m⟩ := p
      exact congrArg (key :: ·) (ih (i + 1))
  cases e with
  | runCycle d => rw [FactoryEvent.apply, runCycle_materials, hconsume]
  | materialArrival key qty =>
    rw [FactoryEvent.apply, receiveMaterial, List.map_map]
    apply List.map_congr_left
    intro p _
    dsimp only [Function.comp_apply]
    split <;> rfl
  | _ => rfl

theorem event_keyed (f : Factory) (e : FactoryEvent) (h : Keyed f) : Keyed (e.apply f) := by
  unfold Keyed
  rw [event_keys]
  exact h

theorem tick_leads (s : LoopState) (hs : Keyed s.factory) (d : TickDraws) :
    Leads s.factory (loopProduct s (.tick d)) (s.tick d).factory := by
  have hcycle : Leads s.factory (loopProduct s (.tick d)) (s.factory.runCycle d.cycle).1 :=
    Reaches.single s.factory (FactoryEvent.runCycle d.cycle)
  have hkeyed : Keyed (s.factory.runCycle d.cycle).1 := event_keyed s.factory (.runCycle d.cycle) hs
  unfold LoopState.tick FactoryRuntime.applyDynamics
  dsimp only [LoopState.factory]
  change Leads _ _ { (s.factory.runCycle d.cycle).1 with
    line := (s.factory.runCycle d.cycle).1.line.mapIdx _
    materials := (s.factory.runCycle d.cycle).1.materials.mapIdx _ }
  generalize (s.factory.runCycle d.cycle).1 = f at hcycle hkeyed ⊢
  have hline := leads_mapIdx (f := f) fun i wc =>
    (recover_changes d.dynamics i wc).quiet_trans (repair_changes d.dynamics i _)
  refine hcycle.trans_quiet (hline.quiet_trans ?_)
  generalize f.line.mapIdx _ = line
  exact restocks_lead (f := { f with line := line }) hkeyed d.dynamics

/-- What happens at one station, if it can happen there. -/
theorem atStation_leads (s : LoopState) (i : Nat) {happens : WorkCenter → Bool}
    {change : WorkCenter → WorkCenter} (h : ∀ wc, Changes wc (change wc)) :
    Leads s.factory [] (s.atStation i happens change).factory := by
  unfold LoopState.atStation
  split
  · exact leads_modify fun wc _ => h wc
  · exact .refl _

theorem apply_leads (s : LoopState) (hs : Keyed s.factory) (e : LoopEvent) :
    Leads s.factory (loopProduct s e) (e.apply s).factory := by
  cases e with
  | tick d => exact tick_leads s hs d
  | breakdown i repair =>
    exact atStation_leads s i fun wc => changes_event wc (.triggerBreakdown repair.val)
  | newOrder o =>
    have hquantity : 0 < o.quantity.val := lt_of_lt_of_le (by omega) o.quantity.lo_le
    exact Reaches.single s.factory (FactoryEvent.newOrder
      { orderId := _, customer := _, part := _, quantity := _, dueDate := _, priority := _
        positive := hquantity })
  | toolWearSpike i spike => exact atStation_leads s i fun wc => changes_event wc _
  | qualityDrift i sensor drift => exact atStation_leads s i fun wc => changes_event wc _
  | materialArrival i qty =>
    have hqty : 0 ≤ qty.val := le_trans (by omega) qty.lo_le
    change Leads s.factory [] { s.factory with
      materials := s.factory.materials.modify i (LoopState.receive qty) }
    cases hm : s.factory.materials[i]? with
    | none =>
      rw [List.modify_eq_self (List.getElem?_eq_none_iff.mp hm)]
      exact .refl _
    | some p => exact leads_delivery hs hqty hm
  | speedRecovery i amount =>
    exact atStation_leads s i fun wc =>
      changes_event wc (.setSpeed (min 100 (wc.speedPct + amount.val)))
  | ambientChange change =>
    exact Reaches.single s.factory (FactoryEvent.ambientChange (s.factory.ambientTemp + change))
  | setSpeed pct =>
    have hall : Leads s.factory [] { s.factory with
        line := s.factory.line.mapIdx fun _ wc => wc.setSpeed pct } :=
      leads_mapIdx fun i wc => changes_event wc (.setSpeed pct)
    have hmap : s.factory.line.mapIdx (fun _ wc => wc.setSpeed pct) =
        s.factory.line.map (·.setSpeed pct) := by
      apply List.ext_getElem?
      simp
    rwa [hmap] at hall

theorem new_keyed (d : InitDraws) : Keyed (LoopState.new d).factory := by
  change (initMaterials.map Prod.fst).Nodup
  decide

theorem run_leads (d : InitDraws) (es : List LoopEvent) :
    Leads (Factory.new d) (Runs.outputs LoopEvent.apply loopProduct (.new d) es)
      (Runs.run LoopEvent.apply (.new d) es).factory :=
  reaches_run LoopState.factory (fun s => Keyed s.factory)
    (fun s e h => (apply_leads s h e).keeps event_keyed h) (fun s e h => apply_leads s h e)
    (new_keyed d) es

/-- Whatever the two loops and the rounds do, the factory is in a state that events alone lead
to, and as many cycles have ended in the same products. -/
theorem loops_refine (d : InitDraws) (es : List LoopEvent) :
    ∃ fs : List FactoryEvent,
      (Runs.run LoopEvent.apply (.new d) es).factory = Runs.run FactoryEvent.apply (.new d) fs ∧
      Runs.outputs LoopEvent.apply loopProduct (.new d) es =
        Runs.outputs FactoryEvent.apply endProduct (.new d) fs := by
  obtain ⟨fs,hstate,hout⟩ := run_leads d es
  exact ⟨fs,hstate.symm,hout.symm⟩

end ManufacturingMas.Proofs.LoopRefinement
