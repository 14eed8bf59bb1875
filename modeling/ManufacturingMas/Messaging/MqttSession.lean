import ManufacturingMas.Messaging.MqttBridge
import ManufacturingMas.Py.Text

/-! The MQTT bridge with a connection: the threads that subscribe, the client's network thread
and the broker's session, each at any step of its own. The client's library and the broker are
parameters. -/

namespace ManufacturingMas.MqttSession
open Py MqttBridge

def qosSensor : Nat := 0
def qosAlert : Nat := 1
def qosCnp : Nat := 2

/-- `_topic_qos`. -/
def topicQos (topic : String) : Nat :=
  if contains "cnp".toList topic.toList then qosCnp
  else if contains "alert".toList topic.toList then qosAlert
  else qosSensor

/-- What the bridge uses of the client and of the broker behind it: the filters for which
`client.subscribe` does not raise, the session of a new connection, what a request makes of a
session, and the quality of service that a session has for a filter. -/
structure Link (β : Type) where
  valid : String → Bool
  fresh : β
  grant : β → String → Nat → β
  granted : β → String → Option Nat

/-- A new session has no filters, and a request adds its own filter at the quality of service
that the broker's limit leaves of the one asked for. -/
structure Link.Lawful {β : Type} (link : Link β) (limit : Nat → Nat) : Prop where
  fresh : ∀ p, link.granted link.fresh p = none
  granted : ∀ b p q, link.valid p → link.granted (link.grant b p q) p = some (limit q)
  others : ∀ b p q r, r ≠ p → link.granted (link.grant b p q) r = link.granted b r

/-- What a call of `subscribe` has left once it has released the lock. -/
inductive Caller where
  | check (pattern : String)
  | request (pattern : String)
  | count
deriving DecidableEq

/-- Where the client's network thread is: in `_on_connect` at its first line, before the lock, or
in the loop under the lock with the patterns that are left. An exception there ends the thread. -/
inductive Network where
  | idle
  | onConnect
  | connected
  | resubscribe (left : List String)
  | ended
deriving DecidableEq

/-- The bridge and what its connection depends on. The session is what the broker holds for the
client; it ends with the connection. -/
structure State (σ β : Type) where
  bridge : MQTTBridge σ
  enabled : Bool
  connected : Bool
  topicsActive : Nat
  reconnects : Nat
  callers : List Caller
  network : Network
  lost : Bool
  session : Option β

variable {σ β : Type}

/-- `_try_connect` once the client has started its network thread, whose first connection is
not accepted yet. -/
def State.new : State σ β :=
  { bridge := .new, enabled := false, connected := false, topicsActive := 0, reconnects := 0
    callers := [], network := .idle, lost := false, session := none }

inductive Event (σ : Type) where
  | construct
  | subscribe (pattern : String) (cb : Callback σ)
  | advance (i : Nat)
  | accept
  | network
  | drop

namespace State

def patterns (s : State σ β) : List String := s.bridge.subscriptions.map Prod.fst

/-- `client.subscribe` of a valid filter; a request is lost without a connection. -/
def ask (link : Link β) (s : State σ β) (pattern : String) : State σ β :=
  { s with session := s.session.map fun b => link.grant b pattern (topicQos pattern) }

/-- What `subscribe` does while it holds the lock. -/
def register (s : State σ β) (pattern : String) (cb : Callback σ) : State σ β :=
  { s with
    bridge := { s.bridge with
      subscriptions := addCallback s.bridge.subscriptions pattern cb
      localCallbacks := addCallback s.bridge.localCallbacks pattern cb }
    callers := s.callers ++ [.check pattern] }

/-- The next step of a call of `subscribe` that is past the lock, without the other calls; for
an invalid filter it raises. -/
def resume (link : Link β) (s : State σ β) : Caller → State σ β
  | .check pattern =>
    if s.enabled && s.connected then { s with callers := s.callers ++ [.request pattern] } else s
  | .request pattern =>
    if link.valid pattern then { s.ask link pattern with callers := s.callers ++ [.count] } else s
  | .count => { s with topicsActive := s.bridge.subscriptions.length }

/-- `_on_connect` has the lock; a call of `subscribe` has it for one step only. -/
def locked (s : State σ β) : Bool :=
  match s.network with
  | .resubscribe _ => true
  | _ => false

/-- One round of the loop of `_on_connect`. -/
def resubscribe (link : Link β) (s : State σ β) : List String → State σ β
  | [] => { s with network := .idle }
  | pattern :: left =>
    if link.valid pattern then
      { s.ask link pattern with
        topicsActive := s.topicsActive + 1, network := .resubscribe left }
    else { s with network := .ended }

/-- The next step of `_on_connect` or of `_on_disconnect`. -/
def stepNetwork (link : Link β) (s : State σ β) : State σ β :=
  match s.network with
  | .onConnect => { s with connected := true, network := .connected }
  | .connected => { s with network := .resubscribe s.patterns }
  | .resubscribe left => s.resubscribe link left
  | .idle =>
    if s.lost then { s with connected := false, reconnects := s.reconnects + 1, lost := false }
    else s
  | .ended => s

end State

/-- One step of one thread, or of the connection. Nobody has the bridge before it is
constructed, a call of `subscribe` begins when it gets the lock, and the network thread attends
to a lost connection before the next one. -/
def Event.apply (link : Link β) (s : State σ β) : Event σ → State σ β
  | .construct => { s with enabled := true, connected := true }
  | .subscribe pattern cb => if s.enabled && !s.locked then s.register pattern cb else s
  | .advance i =>
    match s.callers[i]? with
    | some c => State.resume link { s with callers := s.callers.eraseIdx i } c
    | none => s
  | .accept =>
    if s.session.isNone && s.network = .idle && !s.lost then
      { s with session := some link.fresh, network := .onConnect }
    else s
  | .network => s.stepNetwork link
  | .drop => { s with session := none, lost := true }

end ManufacturingMas.MqttSession
