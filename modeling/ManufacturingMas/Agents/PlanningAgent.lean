import ManufacturingMas.Lib.Stateful
import ManufacturingMas.Protocol.CnpSession
import ManufacturingMas.Intelligence.OptimizationEngine

/-! A contract-net round of the planning agent. -/

namespace ManufacturingMas.Agents
open Py Protocol Intelligence

/-- The agent's fields, its reasoning log left out. -/
structure PlanningAgent where
  cnpCount : Nat
  lastCnpCycle : Val
  strategyLog : List Dict
  pendingAlerts : List Dict

/-- An agent that is asked for a proposal. Its methods may change `σ`, which all
agents share, and may raise. -/
structure Responder (σ : Type) where
  agentId : String
  handleCfp : Dict → σ → Except PyErr (Option Dict) × σ
  executeAcceptedProposal : Dict → σ → Except PyErr Unit × σ

/-- What surrounds a round: how values are printed, the id and the snapshot
context it is given, which checks find the deadline passed, and what the
publication of its call for proposals does, if there is a broker. -/
structure CnpEnv (σ : Type) where
  printer : Printer
  conversationId : String
  buildLlmContext : Dict → Except PyErr Dict
  expired : Nat → Bool
  publishCfp : Option (Dict → σ → σ)

/-- `executed` is the history of accepted proposals and who executed them. -/
structure CnpWorld (σ : Type) where
  pa : PlanningAgent
  rest : σ
  executed : List (String × Dict)

abbrev CnpM (σ : Type) := EStateM PyErr (CnpWorld σ)

variable {σ : Type}

def paId : String := "PA"

def summarizeAlerts (printer : Printer) (alerts : List Dict) : String :=
  if alerts.isEmpty then "steady-state monitoring"
  else String.intercalate " | " ((alerts.take 3).map fun alert =>
    let sender := printer.field alert "sender" "?"
    let summary := printer.field alert "summary" ""
    s!"{sender}: {String.ofList (summary.toList.take 40)}")

def snapshotSummary (snapshot : Dict) : Dict :=
  [("avg_oee", getD snapshot "avg_oee" (.int 0)), ("fg_stock", getD snapshot "fg_stock" (.int 0)),
    ("scrap", getD snapshot "scrap_count" (.int 0))]

def cfpData (session : CNPSession) (cnpId : Nat) (situation : String) (snapshot : Dict) : Dict :=
  [("initiator", .str paId), ("cnp_id", .int cnpId), ("protocol_version", .str protocolVersion),
    ("conversation_id", .str session.conversationId), ("situation", .str situation),
    ("snapshot_summary", .dict (snapshotSummary snapshot)),
    ("constraints", .dict session.constraints.toDict)]

/-- A failure of the publication is only written to the debug log. -/
def broadcastCfp (env : CnpEnv σ) (session : CNPSession) (situation : String) (snapshot : Dict) :
    CnpM σ Unit :=
  match env.publishCfp with
  | none => pure ()
  | some publish =>
    let body := Assoc.set (session.toCfpBody situation) "snapshot_summary"
      (.dict (snapshotSummary snapshot))
    modify fun w => { w with rest := publish body w.rest }

/-- What is stored of an answer to the call: nothing, or the proposal with its
speed clamped and its scores. -/
def acceptAnswer (env : CnpEnv σ) (session : CNPSession) (raw : Option Dict) :
    Except PyErr (Option Dict) :=
  match raw with
  | none | some [] => pure none
  | some proposal => do
    let speed := getD proposal "speed_recommendation" (getD proposal "target_speed_pct" (.int 100))
    let speed ← orOnBadNumber (intOf speed) 100
    let proposal := Assoc.set proposal "speed_recommendation" (.int (session.clampSpeed speed))
    let evaluated ← evaluateProposal env.printer proposal session.constraints.toDict
    pure (some evaluated)

/-- `_collect_proposals` from the `i`-th deadline check on. Whatever an answer
raises only loses that answer. -/
def collectProposals (env : CnpEnv σ) (session : CNPSession) (cfp : Dict) :
    Nat → List (Responder σ) → List Dict → CnpM σ (List Dict)
  | _, [], proposals => pure proposals
  | i, agent :: agents, proposals =>
    if agent.agentId = paId then collectProposals env session cfp i agents proposals
    else if env.expired i then pure []
    else do
      let raw ← modifyGet fun w =>
        let (raw, rest) := agent.handleCfp cfp w.rest
        (raw, { w with rest := rest })
      match raw >>= acceptAnswer env session with
      | .ok (some proposal) =>
        collectProposals env session cfp (i + 1) agents (proposals ++ [proposal])
      | _ => collectProposals env session cfp (i + 1) agents proposals

/-- A round that has ranked proposals. -/
structure Round where
  session : CNPSession
  situation : String
  cnpId : Nat
  ranked : List Dict

/-- The first part of `initiate_cnp`, up to the ranking. -/
def openRound (env : CnpEnv σ) (agents : List (Responder σ)) (snapshot : Dict) :
    CnpM σ (Option Round) := do
  modify fun w => { w with pa := { w.pa with
    cnpCount := w.pa.cnpCount + 1
    lastCnpCycle := getD snapshot "cycle" (.int 0) } }
  let session := (CNPSession.new .default).begin env.conversationId
  let w ← get
  let situation := summarizeAlerts env.printer w.pa.pendingAlerts
  broadcastCfp env session situation snapshot
  let session := { session with state := .collecting }
  let proposals ← collectProposals env session
    (cfpData session w.pa.cnpCount situation snapshot) 0 agents []
  if proposals.isEmpty then pure none
  else do
    let session := { session with state := .evaluating }
    let ranked ← Stateful.ofExcept
      (rankProposalsByComparison env.printer proposals session.constraints.toDict)
    pure (some ⟨session,situation,w.pa.cnpCount,ranked⟩)

def buildStrategyRules (cnpId : Nat) (proposals : List Dict) : Dict :=
  let best := proposals.head?.getD []
  [("cnp_id", .int cnpId), ("decision", .str "rule_based"),
    ("target_speed_pct", getD best "speed_recommendation" (.int 100)),
    ("inspection_mode", getD best "inspection_mode" (.str "standard")),
    ("best_agent", getD best "agent" (.str "")), ("best_score", getD best "total_score" (.int 0)),
    ("comparison_score", getD best "comparison_score" (.int 0)),
    ("business_score", getD best "business_score" (.int 0)),
    ("constraint_penalty", getD best "constraint_penalty" (.int 0)),
    ("proposals_count", .int proposals.length),
    ("rationale", .str "rule-ranked manufacturing proposal selected")]

/-- Any failure on the way to the client's strategy falls back to the rules. -/
def buildStrategyLlm (env : CnpEnv σ) (llm : LLMClient) (cnpId : Nat) (proposals : List Dict)
    (snapshot : Dict) : Dict :=
  match env.buildLlmContext snapshot >>= fun context => llm.evaluateProposals context proposals with
  | .ok (some result) =>
    if result.isEmpty then buildStrategyRules cnpId proposals
    else Assoc.set result "cnp_id" (.int cnpId)
  | _ => buildStrategyRules cnpId proposals

def buildStrategy (env : CnpEnv σ) (llm : Option LLMClient) (cnpId : Nat) (proposals : List Dict)
    (snapshot : Dict) : Dict :=
  match llm with
  | some llm =>
    if llm.enabled then buildStrategyLlm env llm cnpId proposals snapshot
    else buildStrategyRules cnpId proposals
  | none => buildStrategyRules cnpId proposals

/-- The strategy of a round: built, clamped, and given its card and report. -/
def settleRound (env : CnpEnv σ) (llm : Option LLMClient) (round : Round) (snapshot : Dict) :
    Except PyErr Dict := do
  let strategy := buildStrategy env llm round.cnpId round.ranked snapshot
  let strategy ← round.session.clampStrategy strategy
  let card ← fromCnpStrategy env.printer round.situation round.ranked strategy snapshot
  let strategy := Assoc.set strategy "operational_decision_card" (.dict card)
  let lines ← buildPaReportLines env.printer strategy round.ranked
  pure (Assoc.set strategy "pa_report_lines" (.list (lines.map .str)))

/-- The proposals of an agent, the ranking kept. -/
def matching (ranked : List Dict) (agentId : String) : List Dict :=
  ranked.filter fun p => (getD p "agent" .none).isStr agentId

/-- Every other agent executes the first proposal under its id; a failure is logged. -/
def executeAccepted (ranked : List Dict) : List (Responder σ) → CnpM σ Unit
  | [] => pure ()
  | agent :: agents =>
    if agent.agentId = paId then executeAccepted ranked agents
    else do
      match matching ranked agent.agentId with
      | [] => pure ()
      | proposal :: _ => modify fun w => { w with
          rest := (agent.executeAcceptedProposal proposal w.rest).2
          executed := w.executed ++ [(agent.agentId, proposal)] }
      executeAccepted ranked agents

def logStrategy (strategy : Dict) : CnpM σ Unit :=
  modify fun w => { w with pa := { w.pa with strategyLog := w.pa.strategyLog ++ [strategy] } }

def initiateCnp (env : CnpEnv σ) (llm : Option LLMClient) (agents : List (Responder σ))
    (snapshot : Dict) : CnpM σ (Option Dict) := do
  let opened ← openRound env agents snapshot
  match opened with
  | none => pure none
  | some round => do
    let strategy ← Stateful.ofExcept (settleRound env llm round snapshot)
    executeAccepted round.ranked agents
    logStrategy strategy
    pure (some strategy)

end ManufacturingMas.Agents
