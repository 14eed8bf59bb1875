import ManufacturingMas.Py.Value

/-! The MQTT bridge in its local fallback: topics, subscriptions, and the delivery of
a publication to the callbacks while the lock is held. -/

namespace ManufacturingMas.MqttBridge
open Py

/-! ### Topics -/

abbrev Level := List Char

/-- `topic.split("/")`. -/
def levels (topic : String) : List Level := topic.toList.splitOn '/'

def multi : Level := ['#']
def single : Level := ['+']

/-- The loop of `_topic_matches` and the test of the lengths after it, on what is
left of the two lists. -/
def partsMatch : List Level → List Level → Bool
  | [], ts => ts.isEmpty
  | p :: ps, ts =>
    if p = multi then true
    else match ts with
      | [] => false
      | t :: ts => if p ≠ single ∧ p ≠ t then false else partsMatch ps ts

def topicMatches (pattern topic : String) : Bool :=
  if pattern = topic then true else partsMatch (levels pattern) (levels topic)

/-! ### Callbacks -/

/-- What a callback does when it is called, step by step; `σ` is what the callbacks
share outside the bridge. -/
inductive Action (σ : Type) where
  | done
  | raise
  | get (next : σ → Action σ)
  | set (s : σ) (next : Action σ)
  | publish (topic : String) (data : Dict) (next : Action σ)
  | subscribe (pattern : String) (id : Nat) (body : String → Dict → Action σ) (next : Action σ)

/-- A callback; `id` stands for the identity of the object. -/
structure Callback (σ : Type) where
  id : Nat
  body : String → Dict → Action σ

structure Call where
  callback : Nat
  topic : String
  data : Dict

/-- The bridge without a connection. `locked` is whether the thread already holds the lock. -/
structure MQTTBridge (σ : Type) where
  locked : Bool
  subscriptions : List (String × List (Callback σ))
  localCallbacks : List (String × List (Callback σ))
  published : Nat
  errors : Nat

/-- The bridge and its surroundings; `calls` is every call of a callback so far. -/
structure World (σ : Type) where
  bridge : MQTTBridge σ
  state : σ
  calls : List Call

/-- How a call ends. A thread that waits for a lock it holds itself is blocked;
`tooDeep` is the end of a model with too few nested calls. -/
inductive Ended (ω : Type) where
  | returned (w : ω)
  | raised (w : ω)
  | blocked (w : ω)
  | tooDeep

namespace Ended
variable {ω : Type}

def andThen (r : Ended ω) (f : ω → Ended ω) : Ended ω :=
  match r with
  | .returned w => f w
  | r => r

/-- `try: … except Exception: pass`. -/
def caught : Ended ω → Ended ω
  | .raised w => .returned w
  | r => r

end Ended

variable {σ : Type}

def MQTTBridge.new : MQTTBridge σ :=
  { locked := false, subscriptions := [], localCallbacks := [], published := 0, errors := 0 }

namespace World

def new (s : σ) : World σ := { bridge := .new, state := s, calls := [] }

def setLock (w : World σ) (locked : Bool) : World σ :=
  { w with bridge := { w.bridge with locked := locked } }

def countPublished (w : World σ) : World σ :=
  { w with bridge := { w.bridge with published := w.bridge.published + 1 } }

def countError (w : World σ) : World σ :=
  { w with bridge := { w.bridge with errors := w.bridge.errors + 1 } }

def note (w : World σ) (c : Call) : World σ := { w with calls := w.calls ++ [c] }

end World

/-! ### Subscribing and publishing -/

def addCallback (d : List (String × List (Callback σ))) (pattern : String) (cb : Callback σ) :
    List (String × List (Callback σ)) :=
  Assoc.set d pattern ((Assoc.get d pattern).getD [] ++ [cb])

def subscribe (w : World σ) (pattern : String) (cb : Callback σ) : Ended (World σ) :=
  if w.bridge.locked then .blocked w
  else .returned { w with bridge := { w.bridge with
    subscriptions := addCallback w.bridge.subscriptions pattern cb
    localCallbacks := addCallback w.bridge.localCallbacks pattern cb } }

/-- A method that is called with a text and a dict. -/
abbrev Method (σ : Type) := World σ → String → Dict → Ended (World σ)

/-- Runs what a callback does, with `publish` for what it publishes. -/
def run (publish : Method σ) : Action σ → World σ → Ended (World σ)
  | .done, w => .returned w
  | .raise, w => .raised w
  | .get next, w => run publish (next w.state) w
  | .set s next, w => run publish next { w with state := s }
  | .publish topic data next, w => (publish w topic data).andThen (run publish next)
  | .subscribe pattern id body next, w =>
    (subscribe w pattern ⟨id,body⟩).andThen (run publish next)

/-- The callbacks that a delivery calls, in order. -/
def World.matching (w : World σ) (topic : String) : List (Callback σ) :=
  (w.bridge.localCallbacks.filter fun entry => topicMatches entry.1 topic).flatMap (·.2)

/-- The calls of a delivery. What a callback raises is counted and swallowed. -/
def callAll (publish : Method σ) (topic : String) (data : Dict) :
    List (Callback σ) → World σ → Ended (World σ)
  | [], w => .returned w
  | cb :: rest, w =>
    match run publish (cb.body topic data) (w.note ⟨cb.id,topic,data⟩) with
    | .returned w => callAll publish topic data rest w
    | .raised w => callAll publish topic data rest w.countError
    | r => r

/-- `_deliver_local`. The list of callbacks cannot change while the lock is held. -/
def deliverLocal (publish : Method σ) : Method σ := fun w topic data =>
  let w := w.countPublished
  if w.bridge.locked then .blocked w
  else (callAll publish topic data (w.matching topic) (w.setLock true)).andThen
    fun w => .returned (w.setLock false)

/-- `publish`; the text of the data and its quality of service are for a connection.
`depth` is how many calls of it may be open at a time. -/
def publish : Nat → Method σ
  | 0 => fun _ _ _ => .tooDeep
  | depth + 1 => deliverLocal (publish depth)

def publishCnp (depth : Nat) : Method σ := fun w phase data =>
  publish depth w ("mas/cnp/" ++ phase) data

def publishAgentStatus (depth : Nat) : Method σ := fun w agentId status =>
  publish depth w ("mas/agents/" ++ agentId ++ "/status") status

/-- The methods of the class that take a text and a dict. -/
def methods (depth : Nat) : List (String × Method σ) :=
  [("publish", publish depth), ("_deliver_local", deliverLocal (publish depth)),
    ("publish_cnp", publishCnp depth), ("publish_agent_status", publishAgentStatus depth)]

/-- `bridge.name(topic, data)`. A name that the class lacks is an AttributeError. -/
def call (depth : Nat) (name : String) : Method σ := fun w topic data =>
  match Assoc.get (methods depth) name with
  | some method => method w topic data
  | none => .raised w

end ManufacturingMas.MqttBridge
