import Mathlib.Data.List.DropRight
import Mathlib.Logic.Function.Basic
import ManufacturingMas.Lib.Stateful
import ManufacturingMas.Messaging.Message
import ManufacturingMas.Py.Value

/-! The sense–route–reason–act cycle of one agent in its plain, sequential form. -/

namespace ManufacturingMas.Protocol
open Py Messaging

inductive AgentState where
  | idle | sensing | reasoning | acting | negotiating | error
deriving DecidableEq, Repr

inductive ActionType where
  | toolCall | sendMessage | updateState | log | noop
deriving DecidableEq, Repr

/-- The fields of an action that `_apply_think_result` reads. -/
structure Action where
  type : ActionType
  message : Option (AgentMessage Dict)
  logMsg : String
  logLevel : String

structure ThinkResult where
  actions : List Action

/-- The fields of `BaseAgent` that only the cycle itself writes. -/
structure AgentFields where
  snapshot : Option Dict
  cycleCount : Nat
  state : AgentState
  decisions : List Val

namespace AgentFields

def setState (s : AgentState) (f : AgentFields) : AgentFields := { f with state := s }

def countCycle (f : AgentFields) : AgentFields := { f with cycleCount := f.cycleCount + 1 }

def appendDecision (d : Val) (f : AgentFields) : AgentFields :=
  { f with decisions := f.decisions ++ [d] }

def trimDecisions (f : AgentFields) : AgentFields :=
  { f with decisions := if 100 < f.decisions.length then f.decisions.rtake 100 else f.decisions }

end AgentFields

/-- A call out of the cycle, with the agent object or the data it is made for. -/
inductive CallEvent where
  | sense (agent : Nat)
  | route (agentId : String) (observations enriched : Val)
  | log (agentId message level : String)
  | deliver (message : AgentMessage Dict)
  | reason (agent : Nat)
  | act (agent : Nat) (decision : Val)

/-- An exception that will be raised once, after `countdown` further statements:
before the next one, or inside it when it is a call that has then done `half`. -/
structure Fault (σ : Type) where
  countdown : Nat
  half : Option ((Nat → AgentFields) → σ → σ)
  error : PyErr

/-- Objects are named by numbers. `rest` is everything the called methods may
change, the inboxes and the broker included; `calls` is the history of calls. -/
structure World (σ : Type) where
  agents : Nat → AgentFields
  rest : σ
  calls : List CallEvent
  pending : Option (Fault σ)

/-- A method of an object: it reads the cycle's fields, changes the rest and may raise. -/
abbrev Method (σ α : Type) := (Nat → AgentFields) → σ → Except PyErr α × σ

/-- What the objects do. The two enrichments of the snapshot have no effects. -/
structure Objects (σ : Type) where
  agentId : Nat → String
  sense : Nat → Dict → Method σ Val
  reason : Nat → Val → Method σ Val
  act : Nat → Val → Method σ Unit
  route : Nat → String → Val → Val → Method σ (Option ThinkResult)
  log : Nat → String → String → String → Method σ Unit
  deliver : Nat → AgentMessage Dict → Method σ Unit
  enrichForAgents : Dict → Dict
  enrichForRouter : Dict → Except PyErr Dict

/-- The arguments of a cycle besides its snapshot. -/
structure CycleArgs where
  agent : Nat
  router : Option Nat
  log : Option Nat
  broker : Option Nat
deriving DecidableEq, Repr

abbrev M (σ : Type) := EStateM PyErr (World σ)

variable {σ α : Type}

/-- An assignment to fields of an agent object. -/
def assign (agent : Nat) (f : AgentFields → AgentFields) : M σ Unit := fun w =>
  .ok () { w with agents := Function.update w.agents agent (f (w.agents agent)) }

def perform (c : CallEvent) (method : Method σ α) : M σ α := fun w =>
  match method w.agents w.rest with
  | (.ok a, rest) => .ok a { w with rest := rest, calls := w.calls ++ [c] }
  | (.error e, rest) => .error e { w with rest := rest, calls := w.calls ++ [c] }

/-- How the statements of a cycle are executed. -/
structure Exec (σ : Type) where
  assign : Nat → (AgentFields → AgentFields) → M σ Unit
  call : {α : Type} → CallEvent → Method σ α → M σ α
  finish : M σ Unit

def Exec.plain : Exec σ := ⟨Protocol.assign,perform,pure ()⟩

/-- Runs a statement unless the pending fault is due; `partly` is what is done
of the statement before it raises. -/
def guarded (partly : Fault σ → World σ → World σ) (statement : M σ α) : M σ α := fun w =>
  match w.pending with
  | none => statement w
  | some fault =>
    match fault.countdown with
    | 0 => .error fault.error (partly fault { w with pending := none })
    | n + 1 => statement { w with pending := some { fault with countdown := n } }

/-- A call that raises half way has been made. -/
def interruptedCall (c : CallEvent) (fault : Fault σ) (w : World σ) : World σ :=
  match fault.half with
  | none => w
  | some half => { w with rest := half w.agents w.rest, calls := w.calls ++ [c] }

/-- Execution in which a pending fault strikes. -/
def Exec.faulty : Exec σ :=
  { assign := fun agent f => guarded (fun _ w => w) (Protocol.assign agent f)
    call := fun c method => guarded (interruptedCall c) (perform c method)
    finish := guarded (fun _ w => w) (pure ()) }

def applyAction (ex : Exec σ) (ob : Objects σ) (args : CycleArgs) (action : Action) : M σ Unit :=
  let id := ob.agentId args.agent
  if action.type = .log ∧ action.logMsg ≠ "" then
    match args.log with
    | some log =>
      let level := if action.logLevel = "" then "INFO" else action.logLevel
      ex.call (.log id action.logMsg level) (ob.log log id action.logMsg level)
    | none => pure ()
  else if action.type = .sendMessage then
    match action.message, args.broker with
    | some m, some broker =>
      -- a failed delivery is only written to the debug log
      tryCatch (ex.call (.deliver m) (ob.deliver broker m)) fun _ => pure ()
    | _, _ => pure ()
  else pure ()

def applyThinkResult (ex : Exec σ) (ob : Objects σ) (args : CycleArgs) (tr : ThinkResult) :
    M σ Unit := tr.actions.forM (applyAction ex ob args)

/-- Copies the alerts of a dict of observations under the key the router reads. -/
def addNewAlerts : Val → M σ Val
  | .dict d => do
    let alerts ← Stateful.ofExcept ((getD d "alerts" .none).orElse (.list [])).toList
    pure (.dict (Assoc.set d "new_alerts" (.list alerts)))
  | v => pure v

/-- The router's part of a cycle. -/
def consultRouter (ex : Exec σ) (ob : Objects σ) (args : CycleArgs) (observations enriched : Val) :
    M σ Unit :=
  match args.router with
  | none => pure ()
  | some router => do
    let id := ob.agentId args.agent
    let tr ← ex.call (.route id observations enriched) (ob.route router id observations enriched)
    match tr with
    | some tr => applyThinkResult ex ob args tr
    | none => pure ()

def recordDecision (ex : Exec σ) (agent : Nat) (decision : Val) : M σ Unit :=
  if decision.truthy then do
    ex.assign agent (·.appendDecision decision)
    ex.assign agent (·.trimDecisions)
  else pure ()

def runSraSequential (ob : Objects σ) (args : CycleArgs) (snapshot : Dict) : M σ Val := do
  let agent := args.agent
  let snapshot := ob.enrichForAgents snapshot
  assign agent fun f => { f with snapshot := some snapshot }
  assign agent (·.countCycle)
  assign agent (·.setState .sensing)
  let observations ← perform (.sense agent) (ob.sense agent snapshot)
  let observations ← addNewAlerts observations
  let enriched ← Stateful.ofExcept (ob.enrichForRouter snapshot)
  assign agent (·.setState .reasoning)
  consultRouter .plain ob args observations (.dict enriched)
  let decision ← perform (.reason agent) (ob.reason agent observations)
  recordDecision .plain agent decision
  assign agent (·.setState .acting)
  perform (.act agent decision) (ob.act agent decision)
  assign agent (·.setState .idle)
  pure decision

end ManufacturingMas.Protocol
