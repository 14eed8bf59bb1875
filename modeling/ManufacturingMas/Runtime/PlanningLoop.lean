import ManufacturingMas.Agents.PlanningCycle
import ManufacturingMas.Domain.Machines
import ManufacturingMas.Protocol.SraGraph

/-! `_run_pa` of the factory runtime: a cycle of the planning agent, and the round
it may ask for. -/

namespace ManufacturingMas.PlanningLoop
open Py Protocol Messaging Intelligence Agents Machines

/-- The planning agent's inbox, and everything else that calls may change. -/
structure Mail (σ : Type) where
  inbox : List (AgentMessage Dict)
  others : σ

/-- What the planning agent did: the alerts a sense took, what one call of reason
read and returned, and a round that began, with its cycle and its alerts. -/
inductive PaEvent where
  | sensed (alerts : List Dict)
  | reasoned (last : Val) (obs : Dict) (result : Except PyErr (Option Dict))
  | began (cycle : Val) (alerts : List Dict)

/-- `history` is the record of what the agent did. -/
structure PaWorld (σ : Type) where
  cnp : CnpWorld (Mail σ)
  history : List PaEvent

/-- A snapshot of the factory: its cycle is an integer and its OEE a number. -/
structure Snapshot where
  dict : Dict
  cycle : ℤ
  avgOee : PyFloat
  hasCycle : getD dict "cycle" (.int 0) = .int cycle
  hasOee : (getD dict "avg_oee" (.float (.fin 1))).number = .ok avgOee

/-- The runtime's fixed parts. The methods may change the mail, and may raise. -/
structure PaRuntime (σ : Type) where
  llm : Option LLMClient
  agents : List (Responder (Mail σ))
  decisionRouter : Option Nat
  broker : Option Nat
  route : Nat → String → Val → Val → Method (Mail σ) (Option ThinkResult)
  log : Nat → String → String → String → Method (Mail σ) Unit
  deliver : Nat → AgentMessage Dict → Method (Mail σ) Unit
  adapter : Dict → Except PyErr (Dict × List Val)
  enrichForRouter : Dict → Except PyErr Dict

/-- One iteration: the snapshot, what the other threads have done since the last
one, the bound method that `self._log` evaluates to, and how a round would go. -/
structure PaTick (σ : Type) where
  snapshot : Snapshot
  meanwhile : Mail σ → Mail σ
  log : Nat
  useLanggraph : Bool
  env : CnpEnv (Mail σ)

structure PaState (σ : Type) where
  cache : GraphCache
  world : World (PaWorld σ)
  cnpInProgress : Bool
  cnpCount : Nat
  line : List WorkCenter

variable {σ α : Type}

/-- The object number of the planning agent. -/
def paObject : Nat := 0

/-- A method that reaches the mail only. -/
def onMail (method : Method (Mail σ) α) : Method (PaWorld σ) α := fun fields w =>
  let (result, rest) := method fields w.cnp.rest
  (result, { w with cnp := { w.cnp with rest := rest } })

/-- `pop_inbox`, and the sense for its messages. -/
def senseMethod (snapshot : Dict) : Method (PaWorld σ) Val := fun _ w =>
  let (obs, pa) := w.cnp.pa.sense w.cnp.rest.inbox snapshot
  (.ok (.dict obs),
    { w with
      cnp := { w.cnp with pa := pa, rest := { w.cnp.rest with inbox := [] } }
      history := w.history ++ [.sensed pa.pendingAlerts] })

def decisionVal : Option Dict → Val
  | some decision => .dict decision
  | none => .none

def reasonMethod (printer : Printer) (obs : Val) : Method (PaWorld σ) Val := fun _ w =>
  let result := w.cnp.pa.reason printer obs.asDict
  (result.map decisionVal,
    { w with history := w.history ++ [.reasoned w.cnp.pa.lastCnpCycle obs.asDict result] })

/-- The planning agent among the objects of its cycle; its `act` only returns texts. -/
def PaRuntime.objects (rt : PaRuntime σ) (printer : Printer) : Objects (PaWorld σ) :=
  { agentId := fun _ => paId
    sense := fun _ snapshot => senseMethod snapshot
    reason := fun _ obs => reasonMethod printer obs
    act := fun _ _ _ w => (.ok (), w)
    route := fun router id observations enriched =>
      onMail (rt.route router id observations enriched)
    log := fun log id message level => onMail (rt.log log id message level)
    deliver := fun broker message => onMail (rt.deliver broker message)
    enrichForAgents := enrichSnapshotForAgents rt.adapter
    enrichForRouter := rt.enrichForRouter }

def PaRuntime.args (rt : PaRuntime σ) (t : PaTick σ) : CycleArgs :=
  { agent := paObject, router := rt.decisionRouter, log := some t.log, broker := rt.broker }

/-- `station.set_speed(strategy.get("target_speed_pct", 100))` for every station;
the clamped strategy has an integer there. -/
def setSpeeds (strategy : Dict) (line : List WorkCenter) : List WorkCenter :=
  match getD strategy "target_speed_pct" (.int 100) with
  | .int speed => line.map (·.setSpeed speed)
  | _ => line

/-- The round of an iteration. One that raises leaves `_cnp_in_progress` set. -/
def startRound (rt : PaRuntime σ) (t : PaTick σ) (s : PaState σ) : PaState σ :=
  let agents := rt.agents.filter (·.agentId ≠ paId)
  let snapshot := enrichSnapshotForAgents rt.adapter t.snapshot.dict
  let began := PaEvent.began (getD snapshot "cycle" (.int 0)) s.world.rest.cnp.pa.pendingAlerts
  let withCnp (cnp : CnpWorld (Mail σ)) : World (PaWorld σ) :=
    { s.world with rest := { cnp := cnp, history := s.world.rest.history ++ [began] } }
  match initiateCnp t.env rt.llm agents snapshot s.world.rest.cnp with
  | .error _ cnp => { s with world := withCnp cnp, cnpInProgress := true }
  | .ok none cnp | .ok (some []) cnp => { s with world := withCnp cnp, cnpInProgress := false }
  | .ok (some strategy) cnp =>
    { s with
      world := withCnp cnp
      cnpInProgress := false
      cnpCount := cnp.pa.cnpCount
      line := setSpeeds strategy s.line }

/-- `decision and decision.get("initiate_cnp")`. -/
def wantsRound (decision : Val) : Bool :=
  decision.truthy && (getD decision.asDict "initiate_cnp" .none).truthy

/-- What the agent loop's thread has done after one more iteration; an exception
of the cycle or of the round is only logged. -/
def runPa (rt : PaRuntime σ) (s : PaState σ) (t : PaTick σ) : PaState σ :=
  let cnp := { s.world.rest.cnp with rest := t.meanwhile s.world.rest.cnp.rest }
  let world := { s.world with rest := { s.world.rest with cnp := cnp } }
  let (cache, cycle) := runCycleWithRouter t.useLanggraph .plain (rt.objects t.env.printer)
    s.cache (rt.args t) t.snapshot.dict
  match cycle world with
  | .error _ world => { s with cache := cache, world := world }
  | .ok decision world =>
    let s := { s with cache := cache, world := world }
    if wantsRound decision && !s.cnpInProgress then startRound rt t s else s

def newPlanningAgent : PlanningAgent :=
  { cnpCount := 0, lastCnpCycle := .int 0, strategyLog := [], pendingAlerts := [] }

/-- Before the first iteration, with any mail and line. -/
def PaState.initial (mail : Mail σ) (line : List WorkCenter) : PaState σ :=
  { cache := []
    world :=
      { agents := fun _ => { snapshot := none, cycleCount := 0, state := .idle, decisions := [] }
        rest := { cnp := { pa := newPlanningAgent, rest := mail, executed := [] }, history := [] }
        calls := []
        pending := none }
    cnpInProgress := false
    cnpCount := 0
    line := line }

end ManufacturingMas.PlanningLoop
