import ManufacturingMas.Domain.FactorySnapshot
import ManufacturingMas.Lib.Logs
import ManufacturingMas.Lib.Stateful
import ManufacturingMas.Messaging.Message
import ManufacturingMas.Py.Format

/-! What the agents of the line have in common: an outbox, two logs, and their cycle. -/

namespace ManufacturingMas.Agents
open Py Messaging FactorySnapshot

/-- A message as an outbox keeps it, its ids and its time left out. -/
structure SentMessage where
  receiver : String
  intent : Intent
  body : Dict

/-- The fields that the base class writes; `δ` is what the agent decides. -/
structure BaseAgent (δ : Type) where
  outbox : List SentMessage
  reasoningLog : List String
  decisions : List δ

/-- An alert of a decision. -/
structure AgentAlert where
  target : String
  severity : String
  message : String
deriving DecidableEq, Repr

namespace BaseAgent
variable {δ : Type}

def new : BaseAgent δ := { outbox := [], reasoningLog := [], decisions := [] }

def sendMessage (b : BaseAgent δ) (receiver : String) (intent : Intent) (body : Dict) :
    BaseAgent δ :=
  { b with outbox := b.outbox ++ [⟨receiver,intent,body⟩] }

def logReasoning (b : BaseAgent δ) (text : String) : BaseAgent δ :=
  { b with reasoningLog := Ring.push 50 b.reasoningLog text }

def recordDecision (b : BaseAgent δ) (decision : δ) : BaseAgent δ :=
  { b with decisions := Ring.push 100 b.decisions decision }

/-- The loop with which every agent sends its alerts; `extra` is its own part of the body. -/
def sendAlerts (agentId : String) (extra : Dict) (alerts : List AgentAlert) (b : BaseAgent δ) :
    BaseAgent δ :=
  alerts.foldl (fun b alert => b.sendMessage alert.target .alert
    ([("source", .str agentId), ("severity", .str alert.severity),
      ("summary", .str alert.message)] ++ extra)) b

/-- Sending leaves both logs alone. -/
theorem sendAlerts_logs (agentId : String) (extra : Dict) (alerts : List AgentAlert)
    (b : BaseAgent δ) :
    (b.sendAlerts agentId extra alerts).reasoningLog = b.reasoningLog ∧
      (b.sendAlerts agentId extra alerts).decisions = b.decisions := by
  induction alerts generalizing b with
  | nil => exact ⟨rfl,rfl⟩
  | cons alert alerts ih => exact ih _

end BaseAgent

/-- The methods of an agent class that a cycle calls; each may raise. -/
structure AgentClass (α ο δ : Type) where
  sense : Snapshot → EStateM PyErr α ο
  reason : ο → EStateM PyErr α (Option δ)
  act : Option δ → EStateM PyErr α Unit
  record : δ → α → α

variable {α ο δ : Type}

/-- `run_cycle`; a decision is a dict with entries, and so always recorded. -/
def AgentClass.runCycle (c : AgentClass α ο δ) (snapshot : Snapshot) :
    EStateM PyErr α (Option δ) := do
  let observations ← c.sense snapshot
  let decision ← c.reason observations
  match decision with
  | some d => modify (c.record d)
  | none => pure ()
  c.act decision
  pure decision

/-- What an agent is after a cycle; whatever a cycle raises is only logged. -/
def AgentClass.afterCycle (c : AgentClass α ο δ) (a : α) (snapshot : Snapshot) : α :=
  Stateful.finalState (c.runCycle snapshot a)

/-- What sensing a snapshot and the other three methods keep, a cycle on it keeps. -/
theorem AgentClass.afterCycle_on {c : AgentClass α ο δ} {P : α → Prop} {snapshot : Snapshot}
    (hsense : Stateful.Preserves P (c.sense snapshot))
    (hreason : ∀ o, Stateful.Preserves P (c.reason o))
    (hrecord : ∀ d a, P a → P (c.record d a)) (hact : ∀ d, Stateful.Preserves P (c.act d))
    {a : α} (h : P a) : P (c.afterCycle a snapshot) := by
  refine Stateful.Preserves.final ?_ h
  refine hsense.bind fun observations => ?_
  refine (hreason observations).bind fun decision => ?_
  cases decision with
  | none =>
    exact (Stateful.preserves_pure ()).bind fun _ => (hact none).bind fun _ =>
      Stateful.preserves_pure _
  | some d =>
    exact (Stateful.preserves_modify (hrecord d)).bind fun _ => (hact (some d)).bind fun _ =>
      Stateful.preserves_pure _

/-- What all four methods keep, a cycle keeps. -/
theorem AgentClass.afterCycle_keeps {c : AgentClass α ο δ} {P : α → Prop}
    (hsense : ∀ s, Stateful.Preserves P (c.sense s))
    (hreason : ∀ o, Stateful.Preserves P (c.reason o))
    (hrecord : ∀ d a, P a → P (c.record d a)) (hact : ∀ d, Stateful.Preserves P (c.act d))
    {a : α} (h : P a) (snapshot : Snapshot) : P (c.afterCycle a snapshot) :=
  c.afterCycle_on (hsense snapshot) hreason hrecord hact h

end ManufacturingMas.Agents
