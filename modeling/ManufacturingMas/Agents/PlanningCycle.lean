import ManufacturingMas.Agents.PlanningAgent
import ManufacturingMas.Messaging.Message

/-! The planning agent's own cycle: the snapshot it is given, the alerts it takes
from its inbox, and when it asks for a contract-net round. -/

namespace ManufacturingMas.Agents
open Py Protocol Messaging

/-- `adapter` makes the context and its validation from the snapshot, or raises. -/
def enrichSnapshotForAgents (adapter : Dict → Except PyErr (Dict × List Val)) (snapshot : Dict) :
    Dict :=
  match adapter snapshot with
  | .ok (mctx, validation) =>
    Assoc.set (Assoc.set snapshot "manufacturing_context" (.dict mctx))
      "manufacturing_context_validation" (.list validation)
  | .error _ =>
    let failed : Dict := [("contract_version", .str "error"), ("error", .str "adapter_failed")]
    Assoc.set (Assoc.set snapshot "manufacturing_context" (.dict failed))
      "manufacturing_context_validation" (.list [.str "adapter_failed"])

def collectInboxAlert (msg : AgentMessage Dict) : Option Dict :=
  if msg.intent = .alert ∨ msg.intent = .stockAlert ∨ msg.intent = .demandChange then
    some [("sender", .str msg.header.sender), ("intent", .str msg.intent.value),
      ("severity", getD msg.body "severity" (.str "LOW")),
      ("summary", getD msg.body "summary" (.str "")), ("body", .dict msg.body)]
  else none

def collectInboxAlerts (msgs : List (AgentMessage Dict)) : List Dict :=
  msgs.filterMap collectInboxAlert

namespace PlanningAgent

/-- The observations of a snapshot and the alerts taken with it. -/
def observe (snapshot : Dict) (alerts : List Dict) : Dict :=
  let mctx := (getD snapshot "manufacturing_context" .none).asDict
  let kpiSlices := (getD mctx "kpi_slices" .none).asDict
  [("cycle", getD snapshot "cycle" (.int 0)),
    ("avg_oee", getD snapshot "avg_oee" (.float (.fin 1))),
    ("fg_stock", getD snapshot "fg_stock" (.int 0)),
    ("total_produced", getD snapshot "total_produced" (.int 0)),
    ("scrap_count", getD snapshot "scrap_count" (.int 0)),
    ("shift", getD snapshot "shift" (.str "")),
    ("alerts", .list (alerts.map .dict)),
    ("stations", getD snapshot "stations" (.dict [])),
    ("business_events", (getD snapshot "business_events" .none).orElse (.list [])),
    ("standard_identifiers", .dict (getD mctx "identifiers" .none).asDict),
    ("standard_line_kpi", getD kpiSlices "line" .none),
    ("context_validation",
      (getD snapshot "manufacturing_context_validation" .none).orElse (.list []))]

/-- `sense` for the messages that `pop_inbox` returns. The new alerts replace the
pending ones, whatever became of these. -/
def sense (pa : PlanningAgent) (msgs : List (AgentMessage Dict)) (snapshot : Dict) :
    Dict × PlanningAgent :=
  let alerts := collectInboxAlerts msgs
  (observe snapshot alerts, { pa with pendingAlerts := alerts })

/-- The alerts of the observations; an element without `get` raises. -/
def alertsOf : Val → Except PyErr (List Dict)
  | .list xs => xs.mapM fun x =>
    match x with
    | .dict d => .ok d
    | _ => .error .attributeError
  | _ => .error .typeError

def hasSeverity (severity : String) (alert : Dict) : Bool :=
  (getD alert "severity" .none).isStr severity

/-- `should_cnp`; the last disjunct is only evaluated where the first two fail. -/
def shouldCnp (criticalCount highCount : Nat) (avgOee cycle last : Val) : Except PyErr Bool :=
  if 1 ≤ criticalCount ∨ 2 ≤ highCount then pure true
  else do
    let oee ← avgOee.compared
    if oee.lt (.fin (13/20)) then do
      let elapsed ← cycle.minus last
      pure (PyFloat.lt (.fin 30) elapsed)
    else pure false

/-- `should_cnp and cycle - self._last_cnp_cycle > 10`. -/
def asksForRound (criticalCount highCount : Nat) (avgOee cycle last : Val) : Except PyErr Bool := do
  let should ← shouldCnp criticalCount highCount avgOee cycle last
  if should then do
    let elapsed ← cycle.minus last
    pure (PyFloat.lt (.fin 10) elapsed)
  else pure false

def assessment (action : String) (initiateCnp : Bool) (alertsProcessed : Nat) (priority : String) :
    Dict :=
  [("type", .str "planning_assessment"), ("action", .str action),
    ("initiate_cnp", .bool initiateCnp), ("speed_adjustments", .dict []),
    ("alerts_processed", .int alertsProcessed), ("priority", .str priority)]

/-- The decision, the reasoning log left out; formatting the OEE for it may raise. -/
def reason (printer : Printer) (pa : PlanningAgent) (obs : Dict) : Except PyErr (Option Dict) := do
  let alerts ← alertsOf (getD obs "alerts" (.list []))
  let cycle := getD obs "cycle" (.int 0)
  let avgOee := getD obs "avg_oee" (.float (.fin 1))
  let criticalCount := alerts.countP (hasSeverity "CRITICAL")
  let highCount := alerts.countP (hasSeverity "HIGH")
  let asks ← asksForRound criticalCount highCount avgOee cycle pa.lastCnpCycle
  if asks then do
    avgOee.formatPercent
    let priority := if 0 < criticalCount then "CRITICAL" else "HIGH"
    pure (some (assessment "cnp" true alerts.length priority ++
      [("cnp_reason", .str (summarizeAlerts printer alerts))]))
  else if !alerts.isEmpty then pure (some (assessment "adjust" false alerts.length "MEDIUM"))
  else do
    -- `avg_oee >= 0.85` only chooses the text that is logged
    let _ ← avgOee.compared
    avgOee.formatPercent
    pure none

end PlanningAgent
end ManufacturingMas.Agents
