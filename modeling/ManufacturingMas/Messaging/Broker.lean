import Mathlib.Data.List.DropRight
import Mathlib.Data.List.Nodup
import Mathlib.Logic.Function.Basic
import ManufacturingMas.Messaging.Message

/-! The in-process broker, with the inboxes of the agents it hands messages to. -/

namespace ManufacturingMas.Messaging

inductive Topic where
  | equipment | quality | supply | demand | inventory | planning | broadcast | alerts | cnp
deriving DecidableEq, Repr

/-- INTENT_TOPIC_MAP; every intent has an entry, so its default is never used. -/
def intentTopic : Intent → Topic
  | .cfp | .propose | .acceptProposal | .rejectProposal | .acceptJob | .rejectJob => .cnp
  | .alert => .alerts
  | .demandChange => .demand
  | .stockAlert => .inventory
  | .planUpdate => .planning
  | .inform | .request | .acknowledge | .confirm | .toolCall | .toolResult
  | .statusReport => .broadcast

/-- AGENT_DEFAULT_TOPICS. -/
def agentDefaultTopic (aid : AgentId) : Option Topic :=
  if aid = "EA" then some .equipment
  else if aid = "QA" then some .quality
  else if aid = "SA" then some .supply
  else if aid = "DA" then some .demand
  else if aid = "IA" then some .inventory
  else if aid = "PA" then some .planning
  else none

/-- A set of agent ids. -/
structure IdSet where
  ids : List AgentId
  nodup : ids.Nodup

namespace IdSet

def empty : IdSet := ⟨[],List.nodup_nil⟩

def add (s : IdSet) (a : AgentId) : IdSet := ⟨s.ids.insert a,s.nodup.insert⟩

def discard (s : IdSet) (a : AgentId) : IdSet := ⟨s.ids.erase a,s.nodup.erase a⟩

@[simp] theorem mem_empty (a : AgentId) : a ∈ empty.ids ↔ False := by simp [empty]

@[simp] theorem mem_add (s : IdSet) (a b : AgentId) : b ∈ (s.add a).ids ↔ b = a ∨ b ∈ s.ids :=
  List.mem_insert_iff

@[simp] theorem mem_discard (s : IdSet) (a b : AgentId) :
    b ∈ (s.discard a).ids ↔ b ≠ a ∧ b ∈ s.ids := s.nodup.mem_erase_iff

end IdSet

/-- The order in which a set's elements are visited. -/
structure IterOrder where
  visit : IdSet → List AgentId
  perm : ∀ s, (visit s).Perm s.ids

namespace IterOrder

def inserted : IterOrder := ⟨IdSet.ids,fun _ => List.Perm.refl _⟩

theorem mem_visit (o : IterOrder) (s : IdSet) (a : AgentId) : a ∈ o.visit s ↔ a ∈ s.ids :=
  (o.perm s).mem_iff

theorem nodup_visit (o : IterOrder) (s : IdSet) : (o.visit s).Nodup :=
  (o.perm s).nodup_iff.mpr s.nodup

end IterOrder

variable {β : Type}

/-- `seq` is the number of the publication that made the envelope; it stands for
the identity of the object. Its `retry_count` and `acked`, which change after it
is made, are kept by the broker under this number. -/
structure MessageEnvelope (β : Type) where
  seq : Nat
  message : AgentMessage β
  topic : Topic
deriving DecidableEq, Repr

def MessageEnvelope.envelopeId (e : MessageEnvelope β) : String := e.message.header.messageId

def maxRetries : Nat := 3

/-- A dead-letter entry. The queue itself holds the envelope only; `receiver` is
the agent whose delivery failed. -/
structure DeadLetter (β : Type) where
  envelope : MessageEnvelope β
  receiver : AgentId
deriving DecidableEq, Repr

/-- Times, latencies and monitoring callbacks are left out. An agent object is
named by its id and a number. -/
structure MessageBroker (β : Type) where
  maxQueue : Int
  agentQueues : AgentId → Option (List (MessageEnvelope β))
  subscriptions : Topic → IdSet
  agentRefs : AgentId → Option Nat
  envelopeLog : List (MessageEnvelope β)
  dlq : List (DeadLetter β)
  retryCount : Nat → Nat
  acked : Nat → Bool
  totalPublished : Nat
  totalDelivered : Nat
  totalAcked : Nat
  totalDlq : Nat

namespace MessageBroker

def maxEnvelopeLog : Nat := 2000
def maxDlq : Nat := 500

def new (maxQueue : Int) : MessageBroker β :=
  { maxQueue := maxQueue, agentQueues := fun _ => none, subscriptions := fun _ => .empty
    agentRefs := fun _ => none, envelopeLog := [], dlq := [], retryCount := fun _ => 0
    acked := fun _ => false, totalPublished := 0, totalDelivered := 0, totalAcked := 0
    totalDlq := 0 }

/-- `Queue.full`: a queue made with a size of zero or less has no limit. -/
def full (b : MessageBroker β) (q : List (MessageEnvelope β)) : Bool :=
  0 < b.maxQueue && b.maxQueue ≤ q.length

def registerTopics (aid : AgentId) (extra : List Topic) : List Topic :=
  [.broadcast, .alerts, .cnp] ++ (agentDefaultTopic aid).toList ++ extra

def register (b : MessageBroker β) (aid : AgentId) (obj : Nat) (extra : List Topic) :
    MessageBroker β :=
  { b with
    agentQueues := Function.update b.agentQueues aid (some [])
    agentRefs := Function.update b.agentRefs aid (some obj)
    subscriptions := fun t =>
      if t ∈ registerTopics aid extra then (b.subscriptions t).add aid else b.subscriptions t }

def subscribe (b : MessageBroker β) (aid : AgentId) (topic : Topic) : MessageBroker β :=
  { b with subscriptions :=
      Function.update b.subscriptions topic ((b.subscriptions topic).add aid) }

def unsubscribe (b : MessageBroker β) (aid : AgentId) (topic : Topic) : MessageBroker β :=
  { b with subscriptions :=
      Function.update b.subscriptions topic ((b.subscriptions topic).discard aid) }

/-- The envelope the next publication of `m` makes. -/
def envelope (b : MessageBroker β) (m : AgentMessage β) (topic : Option Topic) :
    MessageEnvelope β :=
  { seq := b.totalPublished, message := m, topic := topic.getD (intentTopic m.intent) }

/-- The locked section at the start of `publish`, with the envelope's fresh marks. -/
def record (b : MessageBroker β) (e : MessageEnvelope β) : MessageBroker β :=
  let log := b.envelopeLog ++ [e]
  { b with
    envelopeLog := if maxEnvelopeLog < log.length then log.rtake (maxEnvelopeLog / 2) else log
    retryCount := Function.update b.retryCount e.seq 0
    acked := Function.update b.acked e.seq false
    totalPublished := b.totalPublished + 1 }

/-- A message for an unknown receiver. -/
def deadLetterUnknown (b : MessageBroker β) (aid : AgentId) (e : MessageEnvelope β) :
    MessageBroker β :=
  let dlq := b.dlq ++ [⟨e,aid⟩]
  { b with
    dlq := if maxDlq < dlq.length then dlq.rtake (maxDlq / 2) else dlq
    totalDlq := b.totalDlq + 1 }

/-- The dead-letter branch of `_enqueue`, which does not trim the queue. -/
def deadLetter (b : MessageBroker β) (aid : AgentId) (e : MessageEnvelope β) :
    MessageBroker β :=
  { b with dlq := b.dlq ++ [⟨e,aid⟩], totalDlq := b.totalDlq + 1 }

/-- `put_nowait` on a queue that is not full, and its delivery metric. -/
def put (b : MessageBroker β) (aid : AgentId) (q : List (MessageEnvelope β))
    (e : MessageEnvelope β) : MessageBroker β :=
  { b with
    agentQueues := Function.update b.agentQueues aid (some (q ++ [e]))
    totalDelivered := b.totalDelivered + 1 }

/-- The `Full` branch of `_enqueue`. During its sleep other threads may take
`drained` envelopes out of the queue; the second attempt ignores a failure, and
does not hand the message to the agent when it succeeds. -/
def retry (b : MessageBroker β) (drained : Nat) (aid : AgentId) (q : List (MessageEnvelope β))
    (e : MessageEnvelope β) : MessageBroker β :=
  let count := b.retryCount e.seq + 1
  let b := { b with retryCount := Function.update b.retryCount e.seq count }
  if count < maxRetries then
    let q := q.drop drained
    let b := { b with agentQueues := Function.update b.agentQueues aid (some q) }
    if b.full q then b else b.put aid q e
  else b.deadLetter aid e

/-- `consume`: the oldest envelope, if any. -/
def consume (b : MessageBroker β) (aid : AgentId) :
    Option (MessageEnvelope β) × MessageBroker β :=
  match b.agentQueues aid with
  | some (e :: q) => (some e, { b with agentQueues := Function.update b.agentQueues aid (some q) })
  | _ => (none, b)

def consumeAll (b : MessageBroker β) (aid : AgentId) :
    List (MessageEnvelope β) × MessageBroker β :=
  match b.agentQueues aid with
  | some q => (q, { b with agentQueues := Function.update b.agentQueues aid (some []) })
  | none => ([], b)

/-- How many of the latest envelopes `acknowledge` looks through. -/
def ackWindow : Nat := 200

/-- `acknowledge`: the latest envelope of this id that is not acknowledged yet.
The counter advances whether one is found or not; the agent's id is not used. -/
def acknowledge (b : MessageBroker β) (_aid : AgentId) (envelopeId : String) :
    Bool × MessageBroker β :=
  let counted := { b with totalAcked := b.totalAcked + 1 }
  match (b.envelopeLog.rtake ackWindow).reverse.find?
      (fun e => e.envelopeId == envelopeId && !b.acked e.seq) with
  | some e => (true, { counted with acked := Function.update b.acked e.seq true })
  | none => (false, counted)

/-- `message_log`. -/
def messageLog (b : MessageBroker β) : List (AgentMessage β) := b.envelopeLog.map (·.message)

/-- The `pending` entry of the metrics' `to_dict`. -/
def pending (b : MessageBroker β) : Int := b.totalPublished - b.totalAcked

end MessageBroker

/-- The broker and the inboxes of all agent objects. `popped` is everything
`pop_inbox` has returned so far. -/
structure System (β : Type) where
  broker : MessageBroker β
  inbox : AgentId → Nat → List (AgentMessage β)
  popped : AgentId → Nat → List (AgentMessage β)

namespace System

def new (maxQueue : Int) : System β :=
  { broker := .new maxQueue, inbox := fun _ _ => [], popped := fun _ _ => [] }

/-- `receive_message` of the agent object. -/
def receiveMessage (s : System β) (aid : AgentId) (obj : Nat) (m : AgentMessage β) :
    System β :=
  { s with
    inbox := Function.update s.inbox aid
      (Function.update (s.inbox aid) obj (s.inbox aid obj ++ [m])) }

def popInbox (s : System β) (aid : AgentId) (obj : Nat) : System β :=
  { s with
    inbox := Function.update s.inbox aid (Function.update (s.inbox aid) obj [])
    popped := Function.update s.popped aid
      (Function.update (s.popped aid) obj (s.popped aid obj ++ s.inbox aid obj)) }

/-- `_enqueue`. -/
def enqueue (drained : AgentId → Nat) (e : MessageEnvelope β) (s : System β) (aid : AgentId) :
    System β :=
  match s.broker.agentQueues aid with
  | none => s
  | some q =>
    if s.broker.full q then { s with broker := s.broker.retry (drained aid) aid q e }
    else
      let s := { s with broker := s.broker.put aid q e }
      match s.broker.agentRefs aid with
      | none => s
      | some obj => s.receiveMessage aid obj e.message

/-- What the surroundings decide about one publication: the order in which the
topic's subscribers are visited, and what other threads take out of a full queue
while `_enqueue` sleeps. -/
structure Surroundings where
  order : IterOrder
  drained : AgentId → Nat

def publish (s : System β) (m : AgentMessage β) (topic : Option Topic) (w : Surroundings) :
    System β :=
  let e := s.broker.envelope m topic
  let s := { s with broker := s.broker.record e }
  if m.header.receiver = "ALL" then
    ((w.order.visit (s.broker.subscriptions e.topic)).filter (· ≠ m.header.sender)).foldl
      (enqueue w.drained e) s
  else if (s.broker.agentQueues m.header.receiver).isSome then
    enqueue w.drained e s m.header.receiver
  else { s with broker := s.broker.deadLetterUnknown m.header.receiver e }

/-- `deliver`, the entry that `send_message` uses. -/
def deliver (s : System β) (m : AgentMessage β) (w : Surroundings) : System β :=
  s.publish m none w

end System

/-- The operations of a run. -/
inductive BusOp (β : Type) where
  | register (aid : AgentId) (obj : Nat) (extra : List Topic)
  | subscribe (aid : AgentId) (topic : Topic)
  | unsubscribe (aid : AgentId) (topic : Topic)
  | publish (m : AgentMessage β) (topic : Option Topic) (w : System.Surroundings)
  | consume (aid : AgentId)
  | consumeAll (aid : AgentId)
  | popInbox (aid : AgentId) (obj : Nat)

def System.step (s : System β) : BusOp β → System β
  | .register aid obj extra => { s with broker := s.broker.register aid obj extra }
  | .subscribe aid topic => { s with broker := s.broker.subscribe aid topic }
  | .unsubscribe aid topic => { s with broker := s.broker.unsubscribe aid topic }
  | .publish m topic w => s.publish m topic w
  | .consume aid => { s with broker := (s.broker.consume aid).2 }
  | .consumeAll aid => { s with broker := (s.broker.consumeAll aid).2 }
  | .popInbox aid obj => s.popInbox aid obj

end ManufacturingMas.Messaging
