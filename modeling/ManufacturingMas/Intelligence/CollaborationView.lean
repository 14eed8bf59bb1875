import Mathlib.Algebra.GroupWithZero.Nat
import ManufacturingMas.Lib.Ranking
import ManufacturingMas.Lib.Tally
import ManufacturingMas.Messaging.Broker

/-! The collaboration map of the monitoring API: drawn edges, and the recent traffic
between the agents. Coordinates and explanatory texts are left out. -/

namespace ManufacturingMas.CollaborationView
open Messaging

/-- `_AGENT_IDS`, a set. -/
def agentIds : IdSet := ⟨["EA","QA","SA","DA","IA","PA"],by decide⟩

/-- A drawn edge, with its ends `from` and `to`. -/
structure CollaborationEdge where
  source : AgentId
  target : AgentId
  label : String
  kind : String
  curve : Bool
deriving DecidableEq, Repr

/-- COLLABORATION_EDGES. -/
def collaborationEdges : List CollaborationEdge :=
  [⟨"EA","PA","설비 이상·RUL → 속도·제약","sense_to_plan",false⟩,
    ⟨"QA","PA","SPC·불량 → 전역 경보","sense_to_plan",false⟩,
    ⟨"SA","PA","ROP·부족 → 생산 조정","sense_to_plan",false⟩,
    ⟨"DA","PA","납기·수요 급변 → 우선순위","sense_to_plan",false⟩,
    ⟨"IA","PA","WIP·FG → 물량·속도 협의","sense_to_plan",false⟩,
    ⟨"PA","EA","라인 속도·지시","plan_to_act",false⟩,
    ⟨"PA","QA","검사·관리도 한계 힌트","plan_to_act",false⟩,
    ⟨"PA","SA","발주·입고 이벤트","plan_to_act",false⟩,
    ⟨"PA","DA","스케줄·납기 반영","plan_to_act",false⟩,
    ⟨"PA","IA","버퍼·출하 목표","plan_to_act",false⟩,
    ⟨"EA","QA","라인 상태 ↔ 품질 상관","cross",true⟩,
    ⟨"DA","IA","수요 ↔ 재고 압력","cross",true⟩,
    ⟨"SA","IA","자재 ↔ WIP 흐름","cross",true⟩]

variable {β : Type}

abbrev Pair := AgentId × AgentId

/-- The pairs one envelope counts for; a broadcast counts for every agent but its sender,
in the order in which the set is visited. -/
def countedPairs (order : IterOrder) (env : MessageEnvelope β) : List Pair :=
  let s := env.message.header.sender
  let r := env.message.header.receiver
  if s ∉ agentIds.ids then []
  else if r ∈ agentIds.ids then [(s, r)]
  else if r = "ALL" then ((order.visit agentIds).filter (· ≠ s)).map fun aid => (s, aid)
  else []

def limit : Nat := 600

/-- How many of the ranked pairs the activity list shows. -/
def shownPairs : Nat := 24

/-- `_aggregate_edge_activity`: the pairs with the most messages, and the total. -/
def aggregateEdgeActivity (order : IterOrder) (broker : Option (MessageBroker β)) :
    List (Pair × Nat) × Nat :=
  match broker with
  | none => ([], 0)
  | some broker =>
    let log := broker.envelopeLog.rtake limit
    let counts := log.foldl (fun counts env => (countedPairs order env).foldl Tally.add counts) []
    let total := (counts.map (·.2)).sum
    let ranked := Ranking.sortDescending (fun a b => decide (a < b)) (·.2) counts
    (ranked.take shownPairs, total)

structure DrawnEdge where
  edge : CollaborationEdge
  recentCount : Nat
deriving DecidableEq, Repr

structure CollaborationPayload where
  edges : List DrawnEdge
  edgeActivity : List (Pair × Nat)
  edgeActivityTotal : Nat
  edgeActivityMaxOnMap : Nat
deriving DecidableEq, Repr

/-- The key of a pair in the lookup table. -/
def edgeKey (source target : AgentId) : String := source ++ "|" ++ target

def buildCollaborationPayload (order : IterOrder) (broker : Option (MessageBroker β)) :
    CollaborationPayload :=
  let (activity, activityTotal) := aggregateEdgeActivity order broker
  let actMap := Assoc.update [] (activity.map fun x => (edgeKey x.1.1 x.1.2, x.2))
  let edgesOut := collaborationEdges.map fun e =>
    { edge := e, recentCount := (Assoc.get actMap (edgeKey e.source e.target)).getD 0 }
  { edges := edgesOut, edgeActivity := activity, edgeActivityTotal := activityTotal
    edgeActivityMaxOnMap := (edgesOut.map (·.recentCount)).foldl max 0 }

end ManufacturingMas.CollaborationView
