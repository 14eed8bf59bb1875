import ManufacturingMas.Lib.Logs
import ManufacturingMas.Lib.Runs
import ManufacturingMas.Proofs.RouterPolicy

/-! The books of the router: its counters, its calls of the LLM and its log, against all the
results that it has returned. -/

namespace ManufacturingMas.Proofs.RouterBooks
open Py Stateful Protocol Agents Intelligence RouterPolicy

/-- A call of `route` with its arguments. -/
structure RouteCall where
  agentId : String
  sensed : Sensed
  snap : Dict

/-- A result with the agent it is for. -/
abbrev Routed := String × RoutedResult

def RouterState.new : RouterState :=
  { metrics := ⟨0,0,0⟩, decisionLog := [], llmCalls := [] }

section
variable (r : HybridDecisionRouter) (printer : Printer)

def routed (s : RouterState) (c : RouteCall) : EStateM.Result PyErr RouterState (Option RoutedResult) :=
  r.route printer c.agentId c.sensed c.snap s

/-- What a call leaves, also when it raises. -/
def step (s : RouterState) (c : RouteCall) : RouterState := finalState (routed r printer s c)

def results (s : RouterState) (c : RouteCall) : List Routed :=
  match routed r printer s c with
  | .ok (some result) _ => [(c.agentId,result)]
  | _ => []

end

/-! ### What a call can do -/

/-- The state with one more record. -/
def recorded (s : RouterState) (route agentId ruleName reasoning : String) : RouterState :=
  { s with
    metrics := s.metrics.record route
    decisionLog := Ring.pushCut 300 150 s.decisionLog ⟨agentId,route,ruleName,reasoning⟩ }

def asked (s : RouterState) (call : LlmCall) : RouterState :=
  { s with llmCalls := s.llmCalls ++ [call] }

def fellBack (s : RouterState) : RouterState :=
  { s with metrics := { s.metrics with llmFallbacks := s.metrics.llmFallbacks + 1 } }

/-- What a call for an agent can leave of a state, with the results it returns. -/
inductive Left (agentId : String) (s : RouterState) : List Routed → RouterState → Prop
  | nothing : Left agentId s [] s
  | rule {result : RoutedResult} (name : String) (hsource : result.decisionSource = "rule") :
      Left agentId s [(agentId,result)] (recorded s "rule" agentId name result.reasoning)
  | llm {result : RoutedResult} (name : String) (call : LlmCall)
      (hsource : result.decisionSource = "llm") :
      Left agentId s [(agentId,result)]
        (recorded (asked s call) "llm" agentId name result.reasoning)
  | fallback (call : LlmCall) : Left agentId s [] (fellBack (asked s call))
  | raised (call : LlmCall) : Left agentId s [] (asked s call)

/-- How a call of the LLM can end. -/
inductive Answered (s : RouterState) :
    EStateM.Result PyErr RouterState (Option RoutedResult) → Prop
  | unasked (e : PyErr) : Answered s (.error e s)
  | raised (call : LlmCall) (e : PyErr) : Answered s (.error e (asked s call))
  | nothing (call : LlmCall) : Answered s (.ok none (asked s call))
  | result {result : RoutedResult} (call : LlmCall) (hsource : result.decisionSource = "llm") :
      Answered s (.ok (some result) (asked s call))

variable {r : HybridDecisionRouter} {printer : Printer} {agentId : String} {sensed : Sensed}
  {snap : Dict} {s s' : RouterState} {history results : List Routed}

theorem shouldRoute_enabled (h : r.shouldRouteToLlm agentId sensed = .ok true) :
    ∃ llm, r.llm = some llm ∧ llm.enabled = true := by
  unfold HybridDecisionRouter.shouldRouteToLlm at h
  cases hllm : r.llm with
  | none =>
    rw [hllm] at h
    cases h
  | some llm =>
    rw [hllm] at h
    dsimp only at h
    cases henabled : llm.enabled with
    | true => exact ⟨llm,rfl,henabled⟩
    | false =>
      rw [henabled] at h
      cases h

theorem routeToLlm_answered {llm : RouterLlm} (hllm : r.llm = some llm)
    (henabled : llm.enabled = true) :
    Answered s (r.routeToLlm printer sensed snap agentId s) := by
  unfold HybridDecisionRouter.routeToLlm
  rw [hllm]
  dsimp only
  rw [henabled, Bool.not_true, if_neg Bool.false_ne_true, ofExcept_bind]
  cases sensedAlerts sensed with
  | error e => exact .unasked e
  | ok alerts =>
    dsimp only
    rw [modifyGet_bind, ofExcept_bind]
    generalize (⟨snap,alerts.filterMap AlertItem.forLlm,agentId⟩ : LlmCall) = call
    cases llm.analyzeSituation s.llmCalls call with
    | error e => exact .raised call e
    | ok answer =>
      dsimp only
      cases hresult : llmResult printer agentId answer with
      | error e => exact .raised call e
      | ok result =>
        cases result with
        | none => exact .nothing call
        | some result => exact .result call (llmResult_source hresult)

/-- What a program leaves, with its results. -/
def Leaves (agentId : String) (s : RouterState)
    (run : EStateM.Result PyErr RouterState (Option RoutedResult)) : Prop :=
  Left agentId s
    (match run with
    | .ok (some result) _ => [(agentId,result)]
    | _ => []) (finalState run)

theorem strategic_leaves :
    Leaves agentId s (r.routeStrategic printer agentId sensed snap s) := by
  unfold HybridDecisionRouter.routeStrategic
  rw [ofExcept_bind]
  cases hwanted : r.shouldRouteToLlm agentId sensed with
  | error e => exact .nothing
  | ok wanted =>
    cases wanted with
    | false => exact .nothing
    | true =>
      obtain ⟨llm,hllm,henabled⟩ := shouldRoute_enabled hwanted
      have hanswered : Answered s (r.routeToLlm printer sensed snap agentId s) :=
        routeToLlm_answered hllm henabled
      dsimp only
      rw [if_pos rfl, bind_apply]
      generalize r.routeToLlm printer sensed snap agentId s = answer at hanswered ⊢
      cases hanswered with
      | unasked e => exact .nothing
      | raised call e => exact .raised call
      | nothing call => exact .fallback call
      | result call hsource => exact .llm "strategic_decision" call hsource

theorem route_leaves : Leaves agentId s (r.route printer agentId sensed snap s) := by
  unfold HybridDecisionRouter.route
  rw [ofExcept_bind]
  cases hsafety : checkSafetyRules snap with
  | error e => exact .nothing
  | ok safety =>
    cases safety with
    | some result => exact .rule "safety_interlock" (checkSafetyRules_source hsafety)
    | none =>
      dsimp only
      rw [ofExcept_bind]
      cases hthreshold : checkThresholdRules agentId snap with
      | error e => exact .nothing
      | ok threshold =>
        cases threshold with
        | some result => exact .rule "threshold" (checkThresholdRules_source hthreshold)
        | none => exact strategic_leaves

/-! ### The books -/

/-- What a record shows of its result. -/
def shown (d : DecisionRecord) : String × String × String := (d.agentId,d.route,d.reasoning)

def shownResult (p : Routed) : String × String × String :=
  (p.1,p.2.decisionSource,p.2.reasoning)

def fromSource (source : String) (p : Routed) : Bool := p.2.decisionSource = source

/-- Every result has been counted once, under its source, and the log is the end of the list of
all results, with at least the last 150 of them. The LLM has been called for each of its
results and of its fallbacks. -/
structure Books (history : List Routed) (s : RouterState) : Prop where
  rule : s.metrics.ruleDecisions = history.countP (fromSource "rule")
  llm : s.metrics.llmDecisions = history.countP (fromSource "llm")
  total : s.metrics.ruleDecisions + s.metrics.llmDecisions = history.length
  asked : s.metrics.llmDecisions + s.metrics.llmFallbacks ≤ s.llmCalls.length
  log : s.decisionLog.map shown <:+ history.map shownResult
  room : s.decisionLog.length ≤ 300
  kept : min history.length 150 ≤ s.decisionLog.length

theorem map_pushCut {α β : Type} (f : α → β) (size keep : Nat) (log : List α) (x : α) :
    (Ring.pushCut size keep log x).map f = Ring.pushCut size keep (log.map f) (f x) := by
  unfold Ring.pushCut List.rtake
  simp only [List.length_append, List.length_map, List.length_singleton]
  split
  · rw [List.map_drop, List.map_append]
    rfl
  · rw [List.map_append]
    rfl

theorem Books.record {result : RoutedResult} {route ruleName : String} (h : Books history s)
    (hroute : route = "rule" ∨ route = "llm") (hsource : result.decisionSource = route)
    (hasked : route = "llm" → s.metrics.llmDecisions + s.metrics.llmFallbacks + 1 ≤
      s.llmCalls.length) :
    Books (history ++ [(agentId,result)])
      (recorded s route agentId ruleName result.reasoning) := by
  have hlog : ((recorded s route agentId ruleName result.reasoning).decisionLog.map shown) <:+
      (history ++ [(agentId,result)]).map shownResult := by
    change (Ring.pushCut 300 150 s.decisionLog _).map shown <:+ _
    rw [map_pushCut, List.map_append]
    have hshown : shownResult (agentId,result) = shown ⟨agentId,route,ruleName,result.reasoning⟩ := by
      unfold shownResult shown
      rw [hsource]
    rw [List.map_singleton, hshown]
    exact Ring.pushCut_suffix h.log _
  have hroom : (recorded s route agentId ruleName result.reasoning).decisionLog.length ≤ 300 :=
    Ring.length_pushCut_le (by omega) _ _
  have hkept : min (history ++ [(agentId,result)]).length 150 ≤
      (recorded s route agentId ruleName result.reasoning).decisionLog.length := by
    rw [List.length_append, List.length_singleton]
    exact Ring.le_length_pushCut (by omega) h.kept _
  have hrule := h.rule
  have hllm := h.llm
  have htotal := h.total
  have hcalls := h.asked
  rcases hroute with rfl | rfl
  · refine ⟨?_,?_,?_,?_,hlog,hroom,hkept⟩ <;>
      simp [recorded, RouterMetrics.record, fromSource, hsource] <;> omega
  · have hcall := hasked rfl
    refine ⟨?_,?_,?_,?_,hlog,hroom,hkept⟩ <;>
      simp [recorded, RouterMetrics.record, fromSource, hsource] <;> omega

theorem Left.books (h : Left agentId s results s') (hbooks : Books history s) :
    Books (history ++ results) s' := by
  have hasked := hbooks.asked
  cases h with
  | nothing => rwa [List.append_nil]
  | rule name hsource => exact hbooks.record (.inl rfl) hsource fun h => absurd h (by decide)
  | llm name call hsource =>
    have hcalled : Books history (asked s call) := by
      refine ⟨hbooks.rule,hbooks.llm,hbooks.total,?_,hbooks.log,hbooks.room,hbooks.kept⟩
      simp [asked]
      omega
    refine hcalled.record (.inr rfl) hsource fun _ => ?_
    simp [asked]
    omega
  | fallback call =>
    rw [List.append_nil]
    refine ⟨hbooks.rule,hbooks.llm,hbooks.total,?_,hbooks.log,hbooks.room,hbooks.kept⟩
    simp [asked, fellBack]
    omega
  | raised call =>
    rw [List.append_nil]
    refine ⟨hbooks.rule,hbooks.llm,hbooks.total,?_,hbooks.log,hbooks.room,hbooks.kept⟩
    simp [asked]
    omega

/-- After any calls of a new router, whether they return or raise, its books are those of all the
results that it has returned; the ten decisions that its status shows are the last ten. -/
theorem router_books (r : HybridDecisionRouter) (printer : Printer) (calls : List RouteCall) :
    let s := Runs.run (step r printer) RouterState.new calls
    let history := Runs.outputs (step r printer) (RouterBooks.results r printer)
      RouterState.new calls
    Books history s ∧
      (s.decisionLog.map shown).rtake 10 = (history.map shownResult).rtake 10 := by
  intro s history
  have hstart : Books [] RouterState.new :=
    ⟨rfl,rfl,rfl,le_refl 0,List.suffix_refl _,Nat.zero_le _,Nat.zero_le _⟩
  have hbooks : Books history s :=
    Runs.outputs_invariant_nil (fun _ _ c h => route_leaves.books h) hstart
  have hkept := hbooks.kept
  refine ⟨hbooks,Ring.rtake_of_suffix hbooks.log ?_⟩
  rw [List.length_map, List.length_map]
  omega

end ManufacturingMas.Proofs.RouterBooks
