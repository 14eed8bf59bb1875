import ManufacturingMas.Agents.EquipmentAgent
import ManufacturingMas.Agents.PlanningCycle
import ManufacturingMas.Proofs.RouterPolicy

/-! What the router sees of the alerts that the planning agent and the equipment agent
sense. -/

namespace ManufacturingMas.Proofs.AlertGate
open Py Protocol Messaging Agents Intelligence Stateful

/-! ### From a sense to the router -/

/-- The observations as the router is given them. -/
def routerView (observations : Dict) : Except PyErr Dict := do
  let alerts ← ((getD observations "alerts" .none).orElse (.list [])).toList
  pure (Assoc.set observations "new_alerts" (.list alerts))

/-- The routing of an agent's observations. -/
def routeSensed (r : HybridDecisionRouter) (printer : Printer) (agentId : String)
    (observations enriched : Dict) : RouterM (Option RoutedResult) := do
  let view ← Stateful.ofExcept (routerView observations)
  r.route printer agentId (Sensed.ofDict view) enriched

/-- Routing the observations calls the LLM. -/
def Consults (r : HybridDecisionRouter) (printer : Printer) (agentId : String)
    (observations enriched : Dict) (s : RouterState) : Prop :=
  (finalState (routeSensed r printer agentId observations enriched s)).llmCalls ≠ s.llmCalls

theorem get_ofDict (d : Dict) (key : String) :
    Assoc.get (Sensed.ofDict d) key = (Assoc.get d key).map .value := by
  induction d with
  | nil => rfl
  | cons p d ih =>
    obtain ⟨k,v⟩ := p
    unfold Sensed.ofDict at ih ⊢
    rw [List.map_cons, Assoc.get_cons, Assoc.get_cons, ih]
    split <;> rfl

/-- The alerts of a view are those of the observations, whatever else these hold. -/
theorem sensedAlerts_view {observations : Dict} {alerts : List Val}
    (h : getD observations "alerts" .none = .list alerts ∨
      getD observations "alerts" .none = .none ∧ alerts = []) :
    ∃ view, routerView observations = .ok view ∧
      sensedAlerts (Sensed.ofDict view) = .ok (alerts.map .value) := by
  have hlist : ((getD observations "alerts" .none).orElse (.list [])).toList = .ok alerts := by
    rcases h with hsome | ⟨hnone,rfl⟩
    · rw [hsome]
      cases alerts <;> rfl
    · rw [hnone]
      rfl
  refine ⟨Assoc.set observations "new_alerts" (.list alerts),?_,?_⟩
  · unfold routerView
    rw [hlist]
    rfl
  · have hother : ((Assoc.get observations "alerts").map SensedVal.value).getD (.value .none) =
        .value (getD observations "alerts" .none) := by
      unfold getD
      cases Assoc.get observations "alerts" <;> rfl
    have hkey : ("alerts" : String) ≠ "new_alerts" := by decide
    unfold sensedAlerts
    simp only [get_ofDict, Assoc.get_set_self, Assoc.get_set_of_ne hkey, hother]
    cases alerts with
    | cons alert alerts => rfl
    | nil =>
      rcases h with hsome | ⟨hnone,_⟩
      · rw [hsome]
        rfl
      · rw [hnone]
        rfl

/-! ### A gate that stays shut -/

theorem record_calls (route agentId ruleName reasoning : String) :
    Keeps RouterState.llmCalls (record route agentId ruleName reasoning) := fun _ => rfl

/-- Where the gate is shut, the LLM is not called, whatever the rules find or raise. -/
theorem route_calls {r : HybridDecisionRouter} {agentId : String} {sensed : Sensed}
    (h : r.shouldRouteToLlm agentId sensed = .ok false) (printer : Printer) (snap : Dict) :
    Keeps RouterState.llmCalls (r.route printer agentId sensed snap) := by
  unfold HybridDecisionRouter.route
  refine (keeps_ofExcept _).bind fun safety => ?_
  cases safety with
  | some result => exact (record_calls _ _ _ _).bind fun _ => keeps_pure _
  | none =>
    refine (keeps_ofExcept _).bind fun threshold => ?_
    cases threshold with
    | some result => exact (record_calls _ _ _ _).bind fun _ => keeps_pure _
    | none =>
      unfold HybridDecisionRouter.routeStrategic
      rw [h]
      exact keeps_pure _

theorem not_consults {r : HybridDecisionRouter} {agentId : String} {observations view : Dict}
    (hview : routerView observations = .ok view)
    (h : r.shouldRouteToLlm agentId (Sensed.ofDict view) = .ok false) (printer : Printer)
    (enriched : Dict) (s : RouterState) :
    ¬ Consults r printer agentId observations enriched s := by
  refine not_not_intro ?_
  unfold routeSensed
  rw [hview]
  exact route_calls h printer enriched s

theorem shouldRouteToLlm_pa {r : HybridDecisionRouter} {sensed : Sensed}
    (h : shouldUseLlmPa sensed = .ok false) : r.shouldRouteToLlm "PA" sensed = .ok false := by
  unfold HybridDecisionRouter.shouldRouteToLlm
  cases r.llm with
  | none => rfl
  | some llm =>
    dsimp only
    rw [if_pos rfl, h]
    split <;> rfl

theorem shouldRouteToLlm_ea {r : HybridDecisionRouter} {sensed : Sensed}
    (h : sensedAlerts sensed = .ok []) : r.shouldRouteToLlm "EA" sensed = .ok false := by
  have hnone : shouldUseLlmNonPa sensed = .ok false := by
    unfold shouldUseLlmNonPa
    rw [h]
    rfl
  unfold HybridDecisionRouter.shouldRouteToLlm
  cases r.llm with
  | none => rfl
  | some llm =>
    dsimp only
    split
    · rfl
    · rw [if_neg (by decide)]
      split
      · rfl
      · rw [if_neg (by decide), hnone]

/-! ### The alerts of the planning agent -/

/-- The body of a message is nested in its alert, so the alert itself has no type. -/
theorem collectInboxAlert_type {msg : AgentMessage Dict} {alert : Dict}
    (h : collectInboxAlert msg = some alert) : getD alert "type" (.str "") = .str "" := by
  unfold collectInboxAlert at h
  split at h
  · cases h
    rfl
  · cases h

theorem alertTypes_untyped {alerts : List Dict}
    (h : ∀ alert ∈ alerts, getD alert "type" (.str "") = .str "") :
    ∃ types, alertTypes (alerts.map fun alert => .value (.dict alert)) = .ok types ∧
      types.length < 2 := by
  have hfields : (alerts.map fun alert => AlertItem.value (.dict alert)).filterMap
      AlertItem.fields = alerts := by
    rw [List.filterMap_map]
    exact List.filterMap_some
  have htypes : alerts.mapM (fun d => setKey (getD d "type" (.str ""))) =
      .ok (List.replicate alerts.length (SetKey.str "")) := by
    rw [Traverse.mapM_ok_iff]
    clear hfields
    induction alerts with
    | nil => exact .nil
    | cons alert alerts ih =>
      refine .cons ?_ (ih fun a ha => h a (List.mem_cons_of_mem _ ha))
      rw [h alert List.mem_cons_self]
      rfl
  unfold alertTypes
  rw [hfields, htypes]
  refine ⟨_,rfl,?_⟩
  cases alerts with
  | nil => decide
  | cons alert alerts =>
    rw [List.length_cons, List.replicate_succ, List.eraseDups_cons]
    have hrest : (List.replicate alerts.length (SetKey.str "")).filter
        (fun b => !b == SetKey.str "") = [] := by
      rw [List.filter_eq_nil_iff]
      intro b hb
      rw [(List.mem_replicate.mp hb).2]
      decide
    rw [hrest]
    decide

theorem shouldUseLlmPa_untyped {sensed : Sensed} {alerts : List Dict}
    (hsensed : sensedAlerts sensed = .ok ((alerts.map Val.dict).map .value))
    (h : ∀ alert ∈ alerts, getD alert "type" (.str "") = .str "") :
    shouldUseLlmPa sensed = .ok false := by
  obtain ⟨types,htypes,hfew⟩ := alertTypes_untyped h
  have hitems : (alerts.map Val.dict).map AlertItem.value =
      alerts.map fun alert => .value (.dict alert) := by
    rw [List.map_map]
    rfl
  unfold shouldUseLlmPa
  rw [hsensed, hitems]
  change (if _ then _ else alertTypes _ >>= _) = _
  rw [htypes]
  split
  · rfl
  · exact congrArg Except.ok (decide_eq_false (by omega))

theorem pa_not_consulting (r : HybridDecisionRouter) (printer : Printer) (pa : PlanningAgent)
    (inbox : List (AgentMessage Dict)) (snapshot enriched : Dict) (s : RouterState) :
    ¬ Consults r printer "PA" (pa.sense inbox snapshot).1 enriched s := by
  have halerts : getD (pa.sense inbox snapshot).1 "alerts" .none =
      .list ((collectInboxAlerts inbox).map .dict) := rfl
  obtain ⟨view,hview,hsensed⟩ := sensedAlerts_view (.inl halerts)
  refine not_consults hview (shouldRouteToLlm_pa (shouldUseLlmPa_untyped hsensed ?_)) _ _ _
  intro alert hmem
  obtain ⟨msg,_,hmsg⟩ := List.mem_filterMap.mp hmem
  exact collectInboxAlert_type hmsg

/-! ### The alarms of the equipment agent -/

theorem ea_not_consulting (r : HybridDecisionRouter) (printer : Printer)
    (obs : EquipmentObservation) (kpiByStation : Option Val) (businessEvents : Val)
    (enriched : Dict) (s : RouterState) :
    ¬ Consults r printer "EA" (obs.toDict kpiByStation businessEvents) enriched s := by
  have halerts : getD (obs.toDict kpiByStation businessEvents) "alerts" .none = .none := by
    cases kpiByStation <;> rfl
  obtain ⟨view,hview,hsensed⟩ := sensedAlerts_view (.inr ⟨halerts,rfl⟩)
  exact not_consults hview (shouldRouteToLlm_ea hsensed) _ _ _

/-- Neither the planning agent nor the equipment agent ever has the LLM consulted: the
types of the alerts are not where the gate looks for them, and the alarms are under
another key. -/
theorem composite_never_consults (r : HybridDecisionRouter) (printer : Printer)
    (enriched : Dict) (s : RouterState) :
    (∀ (pa : PlanningAgent) (inbox : List (AgentMessage Dict)) (snapshot : Dict),
      ¬ Consults r printer "PA" (pa.sense inbox snapshot).1 enriched s) ∧
    ∀ (ea : EquipmentAgent) (snapshot : FactorySnapshot.Snapshot) (kpiByStation : Option Val)
      (businessEvents : Val),
      ¬ Consults r printer "EA"
        ((ea.sense snapshot).2.toDict kpiByStation businessEvents) enriched s :=
  ⟨fun pa inbox snapshot => pa_not_consulting r printer pa inbox snapshot enriched s,
    fun ea snapshot kpi events =>
      ea_not_consulting r printer (ea.sense snapshot).2 kpi events enriched s⟩

/-- A router with an LLM for all agents, in a plant where no rule applies. -/
def openRouter : HybridDecisionRouter := ⟨some ⟨true,fun _ _ => .ok .none⟩,"all_gated",true⟩

def typedAlert (type messageId : String) : AgentMessage Dict :=
  .create "EA" "PA" .alert [("type", .str type), ("severity", .str "HIGH")] none "conv" "08:00"
    messageId

/-- A station with three sensors far off their averages. -/
def wildStation : FactorySnapshot.StationData :=
  { name := "블랭킹 프레스", type := "PRESS", state := "가동", toolLifePct := 100
    toolRegion := "초기안정", oee := ⟨1,1,1,1⟩, mtbf := none
    sensors := [("vibration", ⟨10,0,0,1⟩), ("oil_temp", ⟨10,0,0,1⟩), ("tonnage", ⟨10,0,0,1⟩)] }

/-- Two alerts of different types, and three alarms, that the LLM never hears of. -/
theorem composite_alerts_unheard :
    let printer : Printer := .blank
    let pa : PlanningAgent := ⟨0,.int 0,[],[]⟩
    let ea := EquipmentAgent.new.sense ⟨1,[("WC-01", wildStation)],0,0,0,[],[],[],[]⟩
    (∀ agentId ∈ ["PA", "EA"], ¬ RouterPolicy.RuleHolds agentId []) ∧ ea.2.alarms.length = 3 ∧
    ¬ Consults openRouter printer "PA"
      (pa.sense [typedAlert "vibration" "m1", typedAlert "shortage" "m2"] []).1 [] ⟨⟨0,0,0⟩,[],[]⟩ ∧
    ¬ Consults openRouter printer "EA" (ea.2.toDict none (.list [])) [] ⟨⟨0,0,0⟩,[],[]⟩ := by
  intro printer pa ea
  refine ⟨?_,by decide +kernel,?_,?_⟩
  · unfold RouterPolicy.RuleHolds RouterPolicy.SafetyHolds RouterPolicy.ThresholdHolds
    decide +kernel
  · exact pa_not_consulting openRouter printer pa _ [] [] _
  · exact ea_not_consulting openRouter printer ea.2 none (.list []) [] _

end ManufacturingMas.Proofs.AlertGate
