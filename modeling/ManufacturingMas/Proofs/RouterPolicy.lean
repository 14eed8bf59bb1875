import ManufacturingMas.Intelligence.DecisionRouter

/-! What the router keeps from the LLM, and what it counts. -/

namespace ManufacturingMas.Proofs.RouterPolicy
open Py Intelligence Stateful

/-! ### When a rule holds -/

/-- The number a snapshot has under a key. -/
def reading (snap : Dict) (key : String) (default : ℤ) : PyFloat :=
  match (getD snap key (.int default)).number with
  | .ok x => x
  | .error _ => .nan

def SafetyHolds (snap : Dict) : Prop :=
  PyFloat.le (.fin (11/2)) (reading snap "vibration" 0) = true ∨
    PyFloat.le (.fin 75) (reading snap "oil_temp" 0) = true

def ThresholdHolds (agentId : String) (snap : Dict) : Prop :=
  agentId = "EA" ∧ PyFloat.le (.fin (9/2)) (reading snap "vibration" 0) = true ∨
    agentId = "SA" ∧ PyFloat.lt (reading snap "material_buffer_hours" 99) (.fin 1) = true

def RuleHolds (agentId : String) (snap : Dict) : Prop :=
  SafetyHolds snap ∨ ThresholdHolds agentId snap

/-- The configuration keeps this agent from the LLM. -/
def OutOfScope (scope : String) (assist : Bool) (agentId : String) : Prop :=
  agentId ≠ "PA" ∧ (scope ≠ "all_gated" ∨ assist = false)

theorem reading_number {snap : Dict} (h : NumericFields snap) (key : String)
    (hkey : key ∈ ["vibration", "oil_temp", "material_buffer_hours"]) (default : ℤ)
    (hsmall : |default| ≤ 2 ^ 53) :
    (getD snap key (.int default)).number = .ok (reading snap key default) := by
  have hnumber : ∃ x, (getD snap key (.int default)).number = .ok x := by
    unfold getD
    cases hv : Assoc.get snap key with
    | none => exact ⟨_,PyFloat.ofInt_of_small hsmall⟩
    | some v => exact h key hkey v hv
  obtain ⟨x,hx⟩ := hnumber
  unfold reading
  rw [hx]

/-! ### The rules -/

/-- A check finds a result exactly if `P` holds, and then one of a rule. -/
def Finds (check : Except PyErr (Option RoutedResult)) (P : Prop) : Prop :=
  (¬ P ∧ check = .ok none) ∨
    P ∧ ∃ result, check = .ok (some result) ∧ result.decisionSource = "rule"

theorem finds_none : Finds (.ok none) False := .inl ⟨id,rfl⟩

/-- A rule finds its alert where its check holds, and else what comes after it. -/
theorem alertRule_finds {v : Val} {check : Except PyErr Bool} {critical : Bool} {digits : Nat}
    {shown : String} {text : String → RoutedResult} {other : Except PyErr (Option RoutedResult)}
    {P : Prop} (hcheck : check = .ok critical) (hshown : v.formatFixed digits = .ok shown)
    (htext : ∀ shown, (text shown).decisionSource = "rule") (hother : Finds other P) :
    Finds (do
      let critical ← check
      if critical then do
        let shown ← v.formatFixed digits
        pure (some (text shown))
      else other) (critical = true ∨ P) := by
  rw [hcheck, hshown]
  cases critical with
  | true => exact .inr ⟨.inl rfl,text shown,rfl,htext shown⟩
  | false =>
    rw [or_iff_right Bool.false_ne_true]
    exact hother

theorem checkOilRule_finds {snap : Dict} (h : NumericFields snap) :
    Finds (checkOilRule snap) (PyFloat.le (.fin 75) (reading snap "oil_temp" 0) = true) := by
  have hoil := reading_number h "oil_temp" (by simp) 0 (by simp)
  rw [← or_false (PyFloat.le _ _ = true)]
  exact alertRule_finds (Val.atLeast_of_number hoil (by norm_num)) (Val.formatFixed_of_number hoil 0)
    (fun _ => rfl) finds_none

theorem checkSafetyRules_finds {snap : Dict} (h : NumericFields snap) :
    Finds (checkSafetyRules snap) (SafetyHolds snap) := by
  have hvib := reading_number h "vibration" (by simp) 0 (by simp)
  exact alertRule_finds (Val.atLeast_of_number hvib (by norm_num)) (Val.formatFixed_of_number hvib 1)
    (fun _ => rfl) (checkOilRule_finds h)

theorem eaRules_finds {snap : Dict} (h : NumericFields snap) :
    Finds (eaRules snap) (PyFloat.le (.fin (9/2)) (reading snap "vibration" 0) = true) := by
  have hvib := reading_number h "vibration" (by simp) 0 (by simp)
  rw [← or_false (PyFloat.le _ _ = true)]
  exact alertRule_finds (Val.atLeast_of_number hvib (by norm_num)) (Val.formatFixed_of_number hvib 1)
    (fun _ => rfl) finds_none

theorem saRules_finds {snap : Dict} (h : NumericFields snap) :
    Finds (saRules snap)
      (PyFloat.lt (reading snap "material_buffer_hours" 99) (.fin 1) = true) := by
  have hbuf := reading_number h "material_buffer_hours" (by simp) 99 (by norm_num)
  rw [← or_false (PyFloat.lt _ _ = true)]
  exact alertRule_finds (Val.lessThan_of_number hbuf (by norm_num)) (Val.formatFixed_of_number hbuf 1)
    (fun _ => rfl) finds_none

theorem checkThresholdRules_finds {snap : Dict} (h : NumericFields snap) (agentId : String) :
    Finds (checkThresholdRules agentId snap) (ThresholdHolds agentId snap) := by
  unfold checkThresholdRules ThresholdHolds
  by_cases hea : agentId = "EA"
  · subst hea
    simpa using eaRules_finds h
  · by_cases hsa : agentId = "SA"
    · subst hsa
      simpa using saRules_finds h
    · rw [if_neg hea, if_neg hsa]
      refine .inl ⟨?_,rfl⟩
      rintro (⟨heq,_⟩ | ⟨heq,_⟩)
      · exact hea heq
      · exact hsa heq

/-! ### The three stages -/

/-- Where a rule holds, `route` records its result and returns it, whatever the router. -/
theorem route_rule {snap : Dict} (h : NumericFields snap) {agentId : String}
    (hrule : RuleHolds agentId snap) :
    ∃ result name, result.decisionSource = "rule" ∧
      ∀ (r : HybridDecisionRouter) (printer : Printer) (sensed : Sensed) (s : RouterState),
        r.route printer agentId sensed snap s =
          (record "rule" agentId name result.reasoning >>= fun _ => pure (some result)) s := by
  rcases checkSafetyRules_finds h with ⟨hno,hsafety⟩ | ⟨_,result,hsafety,hsource⟩
  · have hthreshold : ThresholdHolds agentId snap := hrule.resolve_left hno
    rcases checkThresholdRules_finds h agentId with ⟨hnot,_⟩ | ⟨_,result,hfound,hsource⟩
    · exact absurd hthreshold hnot
    · refine ⟨result,"threshold",hsource,?_⟩
      intro r printer sensed s
      unfold HybridDecisionRouter.route
      rw [hsafety, hfound]
      rfl
  · refine ⟨result,"safety_interlock",hsource,?_⟩
    intro r printer sensed s
    unfold HybridDecisionRouter.route
    rw [hsafety]
    rfl

theorem route_strategic {snap : Dict} (h : NumericFields snap) {agentId : String}
    (hrule : ¬ RuleHolds agentId snap) (r : HybridDecisionRouter) (printer : Printer)
    (sensed : Sensed) :
    r.route printer agentId sensed snap = r.routeStrategic printer agentId sensed snap := by
  have hsafety : checkSafetyRules snap = .ok none := by
    rcases checkSafetyRules_finds h with ⟨_,hnone⟩ | ⟨hholds,_⟩
    · exact hnone
    · exact absurd (.inl hholds) hrule
  have hthreshold : checkThresholdRules agentId snap = .ok none := by
    rcases checkThresholdRules_finds h agentId with ⟨_,hnone⟩ | ⟨hholds,_⟩
    · exact hnone
    · exact absurd (.inr hholds) hrule
  unfold HybridDecisionRouter.route
  rw [hsafety, hthreshold]
  rfl

theorem shouldRouteToLlm_outOfScope {r : HybridDecisionRouter} {agentId : String}
    (h : OutOfScope r.llmRouterScope r.llmPerAgentAssist agentId) (sensed : Sensed) :
    r.shouldRouteToLlm agentId sensed = .ok false := by
  obtain ⟨hpa,hscope⟩ := h
  unfold HybridDecisionRouter.shouldRouteToLlm
  cases r.llm with
  | none => rfl
  | some llm =>
    dsimp only
    split
    · rfl
    · rw [if_pos (by simpa using hscope)]
      rfl

theorem routeStrategic_outOfScope {r : HybridDecisionRouter} {agentId : String}
    (h : OutOfScope r.llmRouterScope r.llmPerAgentAssist agentId) (printer : Printer)
    (sensed : Sensed) (snap : Dict) :
    r.routeStrategic printer agentId sensed snap = pure none := by
  unfold HybridDecisionRouter.routeStrategic
  rw [shouldRouteToLlm_outOfScope h]
  rfl

/-! ### What is counted -/

/-- A result is counted once, under its own source; no result is not counted. -/
def Counted (m m' : RouterMetrics) : Option RoutedResult → Prop
  | none => m'.ruleDecisions = m.ruleDecisions ∧ m'.llmDecisions = m.llmDecisions
  | some result =>
    (result.decisionSource = "rule" ∧ m'.ruleDecisions = m.ruleDecisions + 1 ∧
      m'.llmDecisions = m.llmDecisions) ∨
    (result.decisionSource = "llm" ∧ m'.ruleDecisions = m.ruleDecisions ∧
      m'.llmDecisions = m.llmDecisions + 1)

theorem alertRule_source {v : Val} {check : Except PyErr Bool} {digits : Nat}
    {text : String → RoutedResult} {other : Except PyErr (Option RoutedResult)}
    {result : RoutedResult} (htext : ∀ shown, (text shown).decisionSource = "rule")
    (hother : ∀ result, other = .ok (some result) → result.decisionSource = "rule")
    (h : (do
      let critical ← check
      if critical then do
        let shown ← v.formatFixed digits
        pure (some (text shown))
      else other) = .ok (some result)) : result.decisionSource = "rule" := by
  obtain ⟨critical,_,h⟩ := Traverse.bind_ok_iff.mp h
  cases critical with
  | false => exact hother result h
  | true =>
    obtain ⟨shown,_,h⟩ := Traverse.bind_ok_iff.mp h
    cases h
    exact htext shown

theorem checkSafetyRules_source {snap : Dict} {result : RoutedResult}
    (h : checkSafetyRules snap = .ok (some result)) : result.decisionSource = "rule" := by
  refine alertRule_source (fun _ => rfl) ?_ h
  intro result h
  refine alertRule_source (fun _ => rfl) ?_ h
  intro result h
  cases h

theorem checkThresholdRules_source {agentId : String} {snap : Dict} {result : RoutedResult}
    (h : checkThresholdRules agentId snap = .ok (some result)) :
    result.decisionSource = "rule" := by
  unfold checkThresholdRules at h
  split_ifs at h
  · exact alertRule_source (fun _ => rfl) (fun _ h => by cases h) h
  · exact alertRule_source (fun _ => rfl) (fun _ h => by cases h) h
  · cases h

theorem llmResult_source {printer : Printer} {agentId : String} {answer : Val}
    {result : RoutedResult} (h : llmResult printer agentId answer = .ok (some result)) :
    result.decisionSource = "llm" := by
  unfold llmResult at h
  split at h
  · simp only [Traverse.bind_ok_iff] at h
    obtain ⟨_,_,_,_,_,_,_,_,_,_,h⟩ := h
    cases h
    rfl
  · cases h

/-- A consultation of the LLM counts nothing itself, and its results say whose they are. -/
theorem routeToLlm_ok {r : HybridDecisionRouter} {printer : Printer} {sensed : Sensed}
    {snap : Dict} {agentId : String} {s s' : RouterState} {found : Option RoutedResult}
    (h : r.routeToLlm printer sensed snap agentId s = .ok found s') :
    s'.metrics = s.metrics ∧ ∀ result, found = some result → result.decisionSource = "llm" := by
  unfold HybridDecisionRouter.routeToLlm at h
  cases hllm : r.llm with
  | none =>
    rw [hllm] at h
    cases h
    exact ⟨rfl,fun _ h => by cases h⟩
  | some llm =>
    rw [hllm] at h
    dsimp only at h
    split at h
    · cases h
      exact ⟨rfl,fun _ h => by cases h⟩
    · obtain ⟨alerts,_,halerts,h⟩ := bind_ok_iff.mp h
      obtain ⟨_,rfl⟩ := ofExcept_ok_iff.mp halerts
      obtain ⟨answer,s1,hcall,h⟩ := bind_ok_iff.mp h
      cases hcall
      obtain ⟨answer,s2,hanswer,h⟩ := bind_ok_iff.mp h
      obtain ⟨_,rfl⟩ := ofExcept_ok_iff.mp hanswer
      obtain ⟨hresult,rfl⟩ := ofExcept_ok_iff.mp h
      refine ⟨rfl,?_⟩
      rintro result rfl
      exact llmResult_source hresult

theorem record_ok {route agentId ruleName reasoning : String} {result found : Option RoutedResult}
    {s s' : RouterState}
    (h : (record route agentId ruleName reasoning >>= fun _ => pure result) s = .ok found s') :
    found = result ∧ s'.metrics = s.metrics.record route ∧ s'.llmCalls = s.llmCalls := by
  cases h
  exact ⟨rfl,rfl,rfl⟩

theorem counted_rule {m m' : RouterMetrics} {result : RoutedResult}
    (hsource : result.decisionSource = "rule") (hm : m' = m.record "rule") :
    Counted m m' (some result) := by
  subst hm
  exact .inl ⟨hsource,rfl,rfl⟩

theorem routeStrategic_counted {r : HybridDecisionRouter} {printer : Printer} {agentId : String}
    {sensed : Sensed} {snap : Dict} {s s' : RouterState} {found : Option RoutedResult}
    (h : r.routeStrategic printer agentId sensed snap s = .ok found s') :
    Counted s.metrics s'.metrics found := by
  unfold HybridDecisionRouter.routeStrategic at h
  obtain ⟨wanted,_,hwanted,h⟩ := bind_ok_iff.mp h
  obtain ⟨_,rfl⟩ := ofExcept_ok_iff.mp hwanted
  cases wanted with
  | false =>
    cases h
    exact ⟨rfl,rfl⟩
  | true =>
    obtain ⟨result,s1,hllm,h⟩ := bind_ok_iff.mp h
    obtain ⟨hsame,hsource⟩ := routeToLlm_ok hllm
    rw [← hsame]
    cases result with
    | none =>
      cases h
      exact ⟨rfl,rfl⟩
    | some result =>
      obtain ⟨rfl,hm,_⟩ := record_ok h
      rw [hm]
      exact .inr ⟨hsource result rfl,rfl,rfl⟩

/-- Every result of `route` is counted exactly once. -/
theorem route_counted {r : HybridDecisionRouter} {printer : Printer} {agentId : String}
    {sensed : Sensed} {snap : Dict} {s s' : RouterState} {found : Option RoutedResult}
    (h : r.route printer agentId sensed snap s = .ok found s') :
    Counted s.metrics s'.metrics found := by
  unfold HybridDecisionRouter.route at h
  obtain ⟨safety,_,hcheck,h⟩ := bind_ok_iff.mp h
  obtain ⟨hsafety,rfl⟩ := ofExcept_ok_iff.mp hcheck
  cases safety with
  | some result =>
    obtain ⟨rfl,hm,_⟩ := record_ok h
    exact counted_rule (checkSafetyRules_source hsafety) hm
  | none =>
    obtain ⟨threshold,_,hcheck,h⟩ := bind_ok_iff.mp h
    obtain ⟨hthreshold,rfl⟩ := ofExcept_ok_iff.mp hcheck
    cases threshold with
    | some result =>
      obtain ⟨rfl,hm,_⟩ := record_ok h
      exact counted_rule (checkThresholdRules_source hthreshold) hm
    | none => exact routeStrategic_counted h

/-! ### Two LLMs -/

/-- Where a rule holds, or the configuration keeps the agent from the LLM, `route` does
not call it and returns the same whichever it is. A rule that holds gives a result of a
rule, and every result is counted once. -/
theorem rules_never_delegated (printer : Printer) (scope : String) (assist : Bool)
    (llm llm' : Option RouterLlm) (agentId : String) (sensed : Sensed) (snap : Dict)
    (s : RouterState) (hnum : NumericFields snap) :
    let run (llm : Option RouterLlm) :=
      HybridDecisionRouter.route ⟨llm,scope,assist⟩ printer agentId sensed snap s
    (RuleHolds agentId snap ∨ OutOfScope scope assist agentId →
      (finalState (run llm)).llmCalls = s.llmCalls ∧ run llm = run llm') ∧
    (RuleHolds agentId snap →
      ∃ result s', run llm = .ok (some result) s' ∧ result.decisionSource = "rule") ∧
    ∀ found s', run llm = .ok found s' → Counted s.metrics s'.metrics found := by
  intro run
  refine ⟨?_,?_,fun found s' h => route_counted h⟩
  · intro hkept
    by_cases hrule : RuleHolds agentId snap
    · obtain ⟨result,name,_,hroute⟩ := route_rule hnum hrule
      have hrun : ∀ l, run l = (record "rule" agentId name result.reasoning >>= fun _ =>
          pure (some result)) s := fun l => hroute _ printer sensed s
      rw [hrun llm, hrun llm']
      exact ⟨rfl,rfl⟩
    · have hout : OutOfScope scope assist agentId := hkept.resolve_left hrule
      have hrun : ∀ l, run l = (pure none : RouterM (Option RoutedResult)) s := by
        intro l
        refine congrFun ((route_strategic hnum hrule _ printer sensed).trans ?_) s
        exact routeStrategic_outOfScope hout printer sensed snap
      rw [hrun llm, hrun llm']
      exact ⟨rfl,rfl⟩
  · intro hrule
    obtain ⟨result,name,hsource,hroute⟩ := route_rule hnum hrule
    exact ⟨result,_,hroute _ printer sensed s,hsource⟩

/-- A critical vibration of 5 mm/s is not given to an LLM that would raise. -/
theorem rules_never_delegated_vibration :
    let raising : RouterLlm := ⟨true,fun _ _ => .error .typeError⟩
    let run (llm : Option RouterLlm) :=
      HybridDecisionRouter.route ⟨llm,"all_gated",true⟩ .blank "EA" []
        [("vibration", .float (.fin 5))] ⟨⟨0,0,0⟩,[],[]⟩
    (finalState (run (some raising))).llmCalls = [] ∧ run (some raising) = run none := by
  intro raising run
  have hnum : NumericFields [("vibration", .float (.fin 5))] := by
    intro key _ v hv
    rw [Assoc.get_cons] at hv
    split at hv
    · cases hv
      exact ⟨_,rfl⟩
    · cases hv
  have hrule : RuleHolds "EA" [("vibration", .float (.fin 5))] :=
    .inr (.inl ⟨rfl,by decide +kernel⟩)
  exact (rules_never_delegated .blank "all_gated" true (some raising) none
    "EA" [] _ ⟨⟨0,0,0⟩,[],[]⟩ hnum).1 (.inl hrule)

end ManufacturingMas.Proofs.RouterPolicy
