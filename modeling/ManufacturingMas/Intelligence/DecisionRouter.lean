import ManufacturingMas.Intelligence.SnapshotEnrichment
import ManufacturingMas.Protocol.AgentProtocol

/-! The router in front of an agent's reasoning: safety rules, threshold rules, and
what is left for the LLM. -/

namespace ManufacturingMas.Intelligence
open Py Protocol Messaging Agents

/-! ### Results and records -/

/-- A result, with what it says of its origin. -/
structure RoutedResult extends ThinkResult where
  reasoning : String
  decisionSource : String

/-- A record of the log, without its times. -/
structure DecisionRecord where
  agentId : String
  route : String
  ruleName : String
  reasoning : String
deriving DecidableEq, Repr

structure RouterMetrics where
  ruleDecisions : Nat
  llmDecisions : Nat
  llmFallbacks : Nat
deriving DecidableEq, Repr

def RouterMetrics.record (m : RouterMetrics) (route : String) : RouterMetrics :=
  if route = "rule" then { m with ruleDecisions := m.ruleDecisions + 1 }
  else if route = "llm" then { m with llmDecisions := m.llmDecisions + 1 }
  else m

/-- The arguments of a call of `analyze_situation`. -/
structure LlmCall where
  env : Dict
  alerts : List Dict
  agentId : String

/-- An LLM client may answer anything, raise, and remember the calls made so far. -/
structure RouterLlm where
  enabled : Bool
  analyzeSituation : List LlmCall → LlmCall → Except PyErr Val

structure HybridDecisionRouter where
  llm : Option RouterLlm
  llmRouterScope : String
  llmPerAgentAssist : Bool

/-- What a call of `route` may change; `llmCalls` is the history of calls of the LLM. -/
structure RouterState where
  metrics : RouterMetrics
  decisionLog : List DecisionRecord
  llmCalls : List LlmCall

abbrev RouterM := EStateM PyErr RouterState

/-- `_record`; a full log is cut to its second half. -/
def record (route agentId ruleName reasoning : String) : RouterM Unit :=
  modify fun s =>
    let log := s.decisionLog ++ [⟨agentId,route,ruleName,reasoning⟩]
    { s with
      metrics := s.metrics.record route
      decisionLog := if 300 < log.length then log.rtake 150 else log }

/-! ### Rules -/

/-- A result that only logs an alert. -/
def alertResult (logMsg reasoning : String) : RoutedResult :=
  { actions := [{ type := .log, message := none, logMsg := logMsg, logLevel := "ALERT" }]
    reasoning := reasoning, decisionSource := "rule" }

def checkOilRule (snap : Dict) : Except PyErr (Option RoutedResult) := do
  let oil := getD snap "oil_temp" (.int 0)
  let critical ← oil.atLeast 75
  if critical then do
    let shown ← oil.formatFixed 0
    pure (some (alertResult s!"[유온위험] {shown}°C ≥ 75.0°C"
      s!"Safety interlock: oil temp {shown} >= critical"))
  else pure none

def checkSafetyRules (snap : Dict) : Except PyErr (Option RoutedResult) := do
  let vib := getD snap "vibration" (.int 0)
  let emergency ← vib.atLeast (11/2)
  if emergency then do
    let shown ← vib.formatFixed 1
    pure (some (alertResult s!"[비상정지] 진동 {shown}mm/s ≥ 5.5"
      s!"Safety interlock: vibration {shown} >= emergency threshold"))
  else checkOilRule snap

def eaRules (snap : Dict) : Except PyErr (Option RoutedResult) := do
  let vib := getD snap "vibration" (.int 0)
  let critical ← vib.atLeast (9/2)
  if critical then do
    let shown ← vib.formatFixed 1
    pure (some (alertResult s!"Rule: 진동 {shown} ≥ 4.5 → 즉시 감속"
      s!"Threshold rule: vib {shown} >= critical, force speed reduction"))
  else pure none

def saRules (snap : Dict) : Except PyErr (Option RoutedResult) := do
  let buf := getD snap "material_buffer_hours" (.int 99)
  let critical ← buf.lessThan 1
  if critical then do
    let shown ← buf.formatFixed 1
    pure (some (alertResult s!"Rule: 자재 버퍼 {shown}h < 1.0h → 긴급 보충"
      s!"Threshold rule: material buffer critical ({shown}h)"))
  else pure none

def checkThresholdRules (agentId : String) (snap : Dict) : Except PyErr (Option RoutedResult) :=
  if agentId = "EA" then eaRules snap
  else if agentId = "SA" then saRules snap
  else pure none

/-! ### Observed alerts -/

/-- One of the alerts of an observation: a message object, or any other value. -/
inductive AlertItem where
  | message (m : AgentMessage Dict)
  | value (v : Val)

/-- What an observation holds under a key. -/
inductive SensedVal where
  | items (alerts : List AlertItem)
  | value (v : Val)

abbrev Sensed := List (String × SensedVal)

def Sensed.ofDict (d : Dict) : Sensed := d.map fun p => (p.1, .value p.2)

def SensedVal.truthy : SensedVal → Bool
  | .items alerts => !alerts.isEmpty
  | .value v => v.truthy

/-- The elements of a list of alerts; a value without a length raises. -/
def SensedVal.alerts : SensedVal → Except PyErr (List AlertItem)
  | .items alerts => .ok alerts
  | .value v => v.toList.map (·.map .value)

/-- `sensed.get("new_alerts") or sensed.get("alerts") or []`. -/
def sensedAlerts (sensed : Sensed) : Except PyErr (List AlertItem) :=
  let field (key : String) : SensedVal := (Assoc.get sensed key).getD (.value .none)
  if (field "new_alerts").truthy then (field "new_alerts").alerts
  else if (field "alerts").truthy then (field "alerts").alerts
  else pure []

/-- The body of a message, or the dict that an alert is; other alerts have no fields. -/
def AlertItem.fields : AlertItem → Option Dict
  | .message m => some m.body
  | .value (.dict d) => some d
  | .value _ => none

/-- What a value is in a set, where equal numbers are one member. -/
inductive SetKey where
  | none
  | num (x : PyFloat)
  | str (s : String)
deriving DecidableEq, Repr

def setKey : Val → Except PyErr SetKey
  | .none => .ok .none
  | .bool b => .ok (.num (.fin (if b then 1 else 0)))
  | .int n => .ok (.num (.fin n))
  | .float x => .ok (.num x)
  | .str s => .ok (.str s)
  | .list _ | .dict _ => .error .typeError

/-- The set of the types of the alerts, as a list without repetitions. -/
def alertTypes (alerts : List AlertItem) : Except PyErr (List SetKey) := do
  let types ← (alerts.filterMap AlertItem.fields).mapM fun d => setKey (getD d "type" (.str ""))
  pure types.eraseDups

/-- `_sev`, or an empty text where a value that is no text would be printed. -/
def severityText (alert : AlertItem) : String :=
  match alert.fields.map fun d => getD d "severity" (.str "") with
  | some (.str s) => upper s
  | _ => ""

def shouldUseLlmPa (sensed : Sensed) : Except PyErr Bool := do
  let alerts ← sensedAlerts sensed
  if alerts.length < 2 then pure false
  else do
    let types ← alertTypes alerts
    pure (2 ≤ types.length)

def shouldUseLlmNonPa (sensed : Sensed) : Except PyErr Bool := do
  let alerts ← sensedAlerts sensed
  if alerts.length < 2 then pure false
  else if (alerts.map severityText).any (· ∈ ["CRITICAL", "HIGH"]) then pure true
  else pure (3 ≤ alerts.length)

/-- The dicts the LLM is given for the alerts. -/
def AlertItem.forLlm : AlertItem → Option Dict
  | .message m => some [("sender", .str m.header.sender), ("type", getD m.body "type" (.str "")),
      ("summary", getD m.body "summary" (.str ""))]
  | .value (.dict d) => some d
  | .value _ => none

/-- The result made of the LLM's answer; an empty answer counts as none. -/
def llmResult (printer : Printer) (agentId : String) (answer : Val) :
    Except PyErr (Option RoutedResult) :=
  if answer.truthy then do
    let severity ← fieldOf answer "severity" (.str "MEDIUM")
    let shouldCnp ← fieldOf answer "should_initiate_cnp" (.bool false)
    let immediate ← fieldOf answer "immediate_actions" (.list [])
    let texts ← immediate.toList
    let reasoning ← fieldOf answer "reasoning" (.str "")
    pure (some
      { actions := texts.map fun text =>
          { type := .log, message := none, logMsg := s!"LLM → {printer.str text}"
            logLevel := "INFO" }
        reasoning := s!"[{agentId}] LLM analysis: severity={printer.str severity}, " ++
          s!"CNP={printer.str shouldCnp}. {printer.str reasoning}"
        decisionSource := "llm" })
  else pure none

namespace HybridDecisionRouter

def shouldRouteToLlm (r : HybridDecisionRouter) (agentId : String) (sensed : Sensed) :
    Except PyErr Bool :=
  match r.llm with
  | none => pure false
  | some llm =>
    if !llm.enabled then pure false
    else if agentId = "PA" then shouldUseLlmPa sensed
    else if r.llmRouterScope ≠ "all_gated" ∨ !r.llmPerAgentAssist then pure false
    else if agentId ∉ ["EA", "QA", "SA", "DA", "IA"] then pure false
    else shouldUseLlmNonPa sensed

def routeToLlm (r : HybridDecisionRouter) (printer : Printer) (sensed : Sensed) (snap : Dict)
    (agentId : String) : RouterM (Option RoutedResult) :=
  match r.llm with
  | none => pure none
  | some llm =>
    if !llm.enabled then pure none
    else do
      let alerts ← Stateful.ofExcept (sensedAlerts sensed)
      let call : LlmCall := ⟨snap,alerts.filterMap AlertItem.forLlm,agentId⟩
      let answer ← modifyGet fun s =>
        (llm.analyzeSituation s.llmCalls call, { s with llmCalls := s.llmCalls ++ [call] })
      let answer ← Stateful.ofExcept answer
      Stateful.ofExcept (llmResult printer agentId answer)

/-- The third stage of `route`, where no rule applies. -/
def routeStrategic (r : HybridDecisionRouter) (printer : Printer) (agentId : String)
    (sensed : Sensed) (snap : Dict) : RouterM (Option RoutedResult) := do
  let wanted ← Stateful.ofExcept (r.shouldRouteToLlm agentId sensed)
  if wanted then do
    let result ← r.routeToLlm printer sensed snap agentId
    match result with
    | some result =>
      record "llm" agentId "strategic_decision" result.reasoning
      pure (some result)
    | none =>
      modify fun s => { s with metrics :=
        { s.metrics with llmFallbacks := s.metrics.llmFallbacks + 1 } }
      pure none
  else pure none

def route (r : HybridDecisionRouter) (printer : Printer) (agentId : String) (sensed : Sensed)
    (snap : Dict) : RouterM (Option RoutedResult) := do
  let safety ← Stateful.ofExcept (checkSafetyRules snap)
  match safety with
  | some result =>
    record "rule" agentId "safety_interlock" result.reasoning
    pure (some result)
  | none => do
    let threshold ← Stateful.ofExcept (checkThresholdRules agentId snap)
    match threshold with
    | some result =>
      record "rule" agentId "threshold" result.reasoning
      pure (some result)
    | none => r.routeStrategic printer agentId sensed snap

end HybridDecisionRouter
end ManufacturingMas.Intelligence
