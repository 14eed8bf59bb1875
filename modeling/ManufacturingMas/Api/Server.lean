import ManufacturingMas.Lib.Bounded
import ManufacturingMas.Messaging.Broker
import ManufacturingMas.Py.Value

/-! The event streams of the API server, and the broker whose publications they carry. -/

namespace ManufacturingMas.Messaging

def Topic.value : Topic → String
  | .equipment => "equipment"
  | .quality => "quality"
  | .supply => "supply"
  | .demand => "demand"
  | .inventory => "inventory"
  | .planning => "planning"
  | .broadcast => "broadcast"
  | .alerts => "alerts"
  | .cnp => "cnp"

end ManufacturingMas.Messaging

namespace ManufacturingMas.Api
open Py Messaging

/-- A client's queue. What has left it was sent to the client; `id` stands for the identity of
the queue. -/
structure SseQueue where
  id : Nat
  channel : Bounded.Channel Dict

def sseQueueSize : Nat := 200

/-- `put_nowait`; an event that finds the queue full is dropped. -/
def SseQueue.put (event : Dict) (q : SseQueue) : SseQueue :=
  { q with channel := q.channel.step sseQueueSize (.arrive event) }

/-- The client's stream sends its next event. -/
def SseQueue.send (q : SseQueue) : SseQueue := { q with channel := q.channel.depart }

/-- The server with its broker. `hooks` is how often its hook stands among the broker's
callbacks; every call of `bind` adds it once more. -/
structure MASApiServer where
  bus : System Dict
  hooks : Nat
  sseQueues : List SseQueue
  connected : Nat

/-- The event that `_on_broker_message` makes of an envelope. -/
def messageEvent (envelope : MessageEnvelope Dict) : Dict :=
  let msg := envelope.message
  [("type", .str "message"), ("sender", .str msg.header.sender),
    ("receiver", .str msg.header.receiver), ("intent", .str msg.intent.value),
    ("topic", .str envelope.topic.value), ("summary", getD msg.body "summary" (.str "")),
    ("timestamp", .str msg.header.timestamp)]

/-- The event of `push_event`; an entry of the data may replace the type. -/
def pushedEvent (eventType : String) (data : Dict) : Dict :=
  data.foldl (fun d p => Assoc.set d p.1 p.2) [("type", .str eventType)]

/-- What can happen to the server: a call of `bind` or of `push_event`, an operation of the
broker, a client that connects, one whose stream sends its next event, and one that leaves. -/
inductive ServerOp where
  | bind
  | bus (op : BusOp Dict)
  | pushEvent (eventType : String) (data : Dict)
  | connect
  | send (id : Nat)
  | leave (id : Nat)

namespace MASApiServer

def new (maxQueue : Int) : MASApiServer :=
  { bus := .new maxQueue, hooks := 0, sseQueues := [], connected := 0 }

def broadcast (s : MASApiServer) (event : Dict) : MASApiServer :=
  { s with sseQueues := s.sseQueues.map (·.put event) }

/-- The events that an operation announces. -/
def announces (s : MASApiServer) : ServerOp → List Dict
  | .bus (.publish m topic _) =>
    List.replicate s.hooks (messageEvent (s.bus.broker.envelope m topic))
  | .pushEvent eventType data => [pushedEvent eventType data]
  | _ => []

/-- A publication calls the callbacks when it has been delivered. -/
def step (s : MASApiServer) (op : ServerOp) : MASApiServer :=
  match op with
  | .bind => { s with hooks := s.hooks + 1 }
  | .bus busOp => (s.announces op).foldl broadcast { s with bus := s.bus.step busOp }
  | .pushEvent eventType data => s.broadcast (pushedEvent eventType data)
  | .connect =>
    { s with
      sseQueues := s.sseQueues ++ [⟨s.connected,.empty⟩]
      connected := s.connected + 1 }
  | .send id => { s with sseQueues := s.sseQueues.map fun q => if q.id = id then q.send else q }
  | .leave id => { s with sseQueues := s.sseQueues.filter fun q => q.id ≠ id }

/-- The queue of a client that is connected. -/
def stream (s : MASApiServer) (id : Nat) : Option (Bounded.Channel Dict) :=
  (s.sseQueues.find? fun q => q.id = id).map (·.channel)

end MASApiServer
end ManufacturingMas.Api
