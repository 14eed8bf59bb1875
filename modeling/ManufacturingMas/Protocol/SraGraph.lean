import ManufacturingMas.Lib.Traverse
import ManufacturingMas.Protocol.AgentProtocol

/-! The same cycle as a workflow graph, the cache of compiled graphs, and the
runner that falls back from the graph to the sequential form. -/

namespace ManufacturingMas.Protocol
open Py

variable {σ α : Type}

section nodes
variable (ex : Exec σ) (ob : Objects σ) (args : CycleArgs)

/-- `state["snapshot"]`, which the invocation always sets to a dict. -/
def snapshotOf (state : Dict) : M σ Dict :=
  match Assoc.get state "snapshot" with
  | some (.dict snapshot) => pure snapshot
  | _ => throw (.other "KeyError")

def nodeSense (state : Dict) : M σ Dict := do
  let agent := args.agent
  let snapshot ← snapshotOf state
  ex.assign agent fun f => { f with snapshot := some snapshot }
  ex.assign agent (·.countCycle)
  ex.assign agent (·.setState .sensing)
  let observations ← ex.call (.sense agent) (ob.sense agent snapshot)
  let observations ← addNewAlerts observations
  pure [("observations", observations)]

def nodeEnrich (state : Dict) : M σ Dict := do
  let snapshot ← snapshotOf state
  let enriched ← Stateful.ofExcept (ob.enrichForRouter snapshot)
  pure [("enriched", .dict enriched)]

def nodeRouter (state : Dict) : M σ Dict := do
  ex.assign args.agent (·.setState .reasoning)
  let observations := (getD state "observations" .none).orElse (.dict [])
  let enriched := (getD state "enriched" .none).orElse (.dict [])
  consultRouter ex ob args observations enriched
  pure []

def nodeReason (state : Dict) : M σ Dict := do
  let observations := (getD state "observations" .none).orElse (.dict [])
  let decision ← ex.call (.reason args.agent) (ob.reason args.agent observations)
  recordDecision ex args.agent decision
  pure [("decision", decision)]

def nodeAct (state : Dict) : M σ Dict := do
  let decision := getD state "decision" .none
  ex.assign args.agent (·.setState .acting)
  ex.call (.act args.agent decision) (ob.act args.agent decision)
  ex.assign args.agent (·.setState .idle)
  pure []

/-- `_build_graph`: its nodes capture the arguments it is built with. -/
def buildGraph : StateGraph String String Val (M σ) :=
  { nodes :=
      [("sense", nodeSense ex ob args), ("enrich", nodeEnrich ob),
        ("router", nodeRouter ex ob args), ("reason", nodeReason ex ob args),
        ("act", nodeAct ex ob args)]
    edges :=
      [(.start, .node "sense"), (.node "sense", .node "enrich"), (.node "enrich", .node "router"),
        (.node "router", .node "reason"), (.node "reason", .node "act"), (.node "act", .stop)] }

/-- One invocation of a compiled graph and the decision it ends with. -/
def runGraph (snapshot : Dict) : M σ Val := do
  let final ← (buildGraph ex ob args).invoke
    [("snapshot", .dict (ob.enrichForAgents snapshot))]
  ex.finish
  pure (getD final "decision" .none)

end nodes

/-- `id(x)`, or 0 for `None`; no object has the id 0. -/
def idOf : Option Nat → Nat
  | none => 0
  | some obj => obj + 1

abbrev GraphKey := String × Nat × Nat × Nat

/-- A compiled graph is kept as the arguments its closures captured. -/
abbrev GraphCache := List (GraphKey × CycleArgs)

def graphKey (agentId : Nat → String) (args : CycleArgs) : GraphKey :=
  (agentId args.agent, idOf args.router, idOf args.broker, idOf args.log)

/-- The cached graph for the key of `args`, built from `args` if there is none. -/
def cachedGraph (agentId : Nat → String) (cache : GraphCache) (args : CycleArgs) :
    GraphCache × CycleArgs :=
  match Assoc.get cache (graphKey agentId args) with
  | some captured => (cache, captured)
  | none => (Assoc.set cache (graphKey agentId args) args, args)

/-- The cache after the call, and the run of the graph found in it. -/
def invokeSraGraph (ex : Exec σ) (ob : Objects σ) (cache : GraphCache) (args : CycleArgs)
    (snapshot : Dict) : GraphCache × M σ Val :=
  let (cache, captured) := cachedGraph ob.agentId cache args
  (cache, runGraph ex ob captured snapshot)

/-- `run_cycle_with_router`; whatever the graph raises, the sequential cycle follows. -/
def runCycleWithRouter (useLanggraph : Bool) (ex : Exec σ) (ob : Objects σ) (cache : GraphCache)
    (args : CycleArgs) (snapshot : Dict) : GraphCache × M σ Val :=
  if useLanggraph then
    let (cache, graph) := invokeSraGraph ex ob cache args snapshot
    (cache, tryCatch graph fun _ => runSraSequential ob args snapshot)
  else (cache, runSraSequential ob args snapshot)

end ManufacturingMas.Protocol
