import ManufacturingMas.Agents.PlanningSub

/-! The numeric side of a strategy, the merge of an LLM answer into it, and the
operational card made of the result. -/

namespace ManufacturingMas.Intelligence
open Py Agents Ranking

def numericKeys : List String :=
  ["target_speed_pct", "inspection_mode", "best_agent", "best_score", "decision"]

/-- The solver's reading of an inspection label. -/
def solverMode : Val → Val
  | .str mode =>
    let m := (strip mode.toList).map Char.toLower
    if contains "강화".toList mode.toList || contains "enhanced".toList m then .str "enhanced"
    else if contains "표준".toList mode.toList || contains "standard".toList m then .str "standard"
    else .str mode
  | mode => mode

def totalScore (p : Dict) : Except PyErr PyFloat :=
  ((getD p "total_score" (.int 0)).orElse (.int 0)).toFloat

def cnpNumericStrategy (proposals : List Dict) : Except PyErr Dict := do
  let keyed ← proposals.mapM fun p => do
    let score ← totalScore p
    pure (score, p)
  match sortDescending PyFloat.lt Prod.fst keyed with
  | [] => pure []
  | (score, best) :: _ =>
    let speed := getD best "speed_recommendation" (getD best "target_speed_pct" (.int 100))
    let speed ← orOnBadNumber (do let x ← speed.toFloat; x.toInt) 100
    let mode := solverMode (getD best "inspection_mode" (.str "standard"))
    pure [("target_speed_pct", .int (max 40 (min 100 speed))),
      ("inspection_mode",
        if mode.isStr "standard" || mode.isStr "enhanced" then mode else .str "standard"),
      ("best_agent", getD best "agent" (.str "")), ("best_score", .float score),
      ("decision", .str "solver_first")]

/-- The answer's entries in turn, those under numeric keys left out. -/
def mergeEntries (out : Dict) : Dict → Dict
  | [] => out
  | (k, v) :: part =>
    if k ∈ numericKeys then mergeEntries out part else mergeEntries (Assoc.set out k v) part

/-- An empty answer counts as none. -/
def mergeNumericAndRationale (numeric : Dict) (llmPart : Option Dict) : Dict :=
  match llmPart with
  | some (entry :: part) =>
    Assoc.setDefault (mergeEntries numeric (entry :: part)) "rationale"
      (.list [.str "솔버 결정에 대한 서술적 보강"])
  | _ =>
    let out := Assoc.setDefault numeric "rationale"
      (.list [.str "솔버 선정 결과에 따른 규칙 기반 근거( LLM 미사용 또는 실패 )"])
    let out := Assoc.setDefault out "risk_assessment" (.str "정보 부족 — 보수적 모니터링")
    Assoc.setDefault out "expected_ss_impact" (.str "미평가")

/-- The client: `prompt` makes the text of the rationale call and may fail on the
data it prints; `answer` is what the call returns, None or a JSON object. -/
structure LLMClient where
  enabled : Bool
  promptSuiteVersion : String
  prompt : Dict → List Dict → Dict → Except PyErr String
  answer : String → Option Dict

namespace LLMClient

def rationalizeCnpDecision (llm : LLMClient) (context : Dict) (proposals : List Dict)
    (numeric : Dict) : Except PyErr (Option Dict) := do
  let userMsg ← llm.prompt context proposals numeric
  pure (llm.answer userMsg)

/-- The rationale that `evaluate_proposals` merges; a disabled client is not called. -/
def rationale (llm : LLMClient) (context : Dict) (proposals : List Dict) (numeric : Dict) :
    Except PyErr (Option Dict) :=
  if llm.enabled then llm.rationalizeCnpDecision context proposals numeric else pure none

/-- The decision label tells whether an answer was merged. -/
def decisionLabel (llm : LLMClient) (rat : Option Dict) : String :=
  if llm.enabled && (rat.any fun r => !r.isEmpty) then "hybrid_solver_llm" else "solver_only"

def evaluateProposals (llm : LLMClient) (context : Dict) (proposals : List Dict) :
    Except PyErr (Option Dict) := do
  if proposals.isEmpty then pure none
  else
    let numeric ← cnpNumericStrategy proposals
    if numeric.isEmpty then pure none
    else
      let rat ← llm.rationale context proposals numeric
      let merged := mergeNumericAndRationale numeric rat
      let merged := Assoc.set merged "decision" (.str (llm.decisionLabel rat))
      pure (some (Assoc.set merged "prompt_suite_version" (.str llm.promptSuiteVersion)))

end LLMClient

/-! ### The operational card -/

def responseOption (label benefit risk : String) : Val :=
  .dict [("label", .str label), ("expected_benefit", .str benefit), ("risk", .str risk)]

/-- `p.get("comparison") or {}`, of which a field is printed. -/
def comparisonText (printer : Printer) (p : Dict) (key : String) : Except PyErr String := do
  let value ← fieldOf ((getD p "comparison" .none).orElse (.dict [])) key (.str "-")
  pure (printer.str value)

/-- The responses of the card from position `i` on. -/
def alternatives (printer : Printer) : Nat → List Dict → Except PyErr (List Val)
  | _, [] => pure []
  | i, p :: rest => do
    let effect ← comparisonText printer p "expected_effect"
    let cost ← comparisonText printer p "expected_cost"
    let others ← alternatives printer (i + 1) rest
    let agent := printer.field p "agent" "?"
    pure (responseOption s!"대안{i}: {agent}" s!"효과 {effect}" s!"비용 {cost}" :: others)

def cardTargets (printer : Printer) (snapshot : Dict) : Except PyErr Val := do
  let mctx := (getD snapshot "manufacturing_context" .none).asDict
  let ids := (getD mctx "identifiers" .none).orElse (.dict [])
  let site ← fieldOf ids "site_id" (.str "")
  let line ← fieldOf ids "line_id" (.str "")
  pure (.dict [("site_id", site), ("line_id", line),
    ("shift", .str (printer.str (getD snapshot "shift" (.str ""))))])

/-- What the card takes from proposals and snapshot: its targets and responses. -/
def cardParts (printer : Printer) (best : Dict) (others : List Dict) (snapshot : Dict) :
    Except PyErr (Val × List Val) := do
  let targets ← cardTargets printer snapshot
  let effect ← comparisonText printer best "expected_effect"
  let quality ← comparisonText printer best "quality_risk"
  let rest ← alternatives printer 2 (others.take 2)
  let agent := printer.field best "agent" "?"
  pure (targets,
    responseOption s!"{agent} 제안" s!"효과지수 {effect}" s!"품질리스크 {quality}" :: rest)

def emptyCard (reason : String) : Dict :=
  [("schema", .str "operational_decision_card/v1"), ("issue_title", .str reason),
    ("targets", .dict []), ("severity", .str "INFO"), ("impact_scope", .str ""),
    ("priority_rank", .int 0), ("responses", .list []), ("constraints", .list []),
    ("immediate_checks", .list []), ("owner_role", .str "PA"), ("review_at", .str ""),
    ("evidence_refs", .dict []), ("recommended_actions", .list [])]

def fromCnpStrategy (printer : Printer) (situation : String) (proposals : List Dict)
    (strategy snapshot : Dict) : Except PyErr Dict :=
  match proposals with
  | [] => pure (emptyCard "no_proposals")
  | best :: others => do
    let (targets, responses) ← cardParts printer best others snapshot
    let speed := printer.field strategy "target_speed_pct" "-"
    let mode := printer.field strategy "inspection_mode" "-"
    pure [("schema", .str "operational_decision_card/v1"),
      ("issue_title",
        .str (if situation = "" then "CNP 협상" else String.ofList (situation.toList.take 120))),
      ("targets", targets), ("severity", .str "HIGH"),
      ("impact_scope", .str s!"OEE·품질·납기 (제안 {(best :: others).length}건)"),
      ("priority_rank", .int 1), ("responses", .list responses),
      ("constraints", .list [.str s!"속도 {speed}%", .str s!"검사 {mode}"]),
      ("immediate_checks", .list [.str "최우선 제안 comparison 필드 확인", .str "라인 속도 한계"]),
      ("owner_role", .str "PA"), ("review_at", .str "cycle+10"),
      ("evidence_refs", .dict [("cnp_id", getD strategy "cnp_id" .none),
        ("best_agent", getD best "agent" .none)]),
      ("recommended_actions", .list responses)]

end ManufacturingMas.Intelligence
