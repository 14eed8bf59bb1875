import ManufacturingMas.Py.Format
import ManufacturingMas.Runtime.EnvLoops
import ManufacturingMas.Runtime.FactoryEvents

/-! The factory's runtime under both of its loops and the speeds that rounds set; every
event is atomic. -/

namespace ManufacturingMas.FactoryLoop
open Py Machines Environment ScenarioRuntime FactoryEvents EnvLoops

def customers : Fin 5 → String
  | 0 => "현대자동차"
  | 1 => "기아자동차"
  | 2 => "GM코리아"
  | 3 => "르노코리아"
  | 4 => "한국GM"

/-- What the event loop draws for a new order. -/
structure OrderDraws where
  customer : Fin 5
  quantity : RandInt 100 500
  urgency : Unit01

def OrderDraws.order (o : OrderDraws) (counter : Nat) : CustomerOrder :=
  { orderId := "PO-NEW-" ++ zeroPadded 3 counter, customer := customers o.customer
    part := "BRK-PAD-2026A", quantity := o.quantity.val, dueDate := "2026-04-15"
    priority := if o.urgency.val < 1/5 then .urgent else .normal, delivered := 0 }

/-- The runtime, with the counter by which its event loop numbers the new orders. -/
structure LoopState where
  rt : FactoryRuntime
  orderCounter : Nat

/-- An iteration of `_env_loop`, one of the seven events of `_event_loop` with what it
draws, or the speed that a round sets. Stations and materials are given by their positions. -/
inductive LoopEvent where
  | tick (d : TickDraws)
  | breakdown (station : Nat) (repair : Uniform 300 1200)
  | newOrder (o : OrderDraws)
  | toolWearSpike (station : Nat) (spike : Uniform 50 200)
  | qualityDrift (station sensor : Nat) (drift : Uniform (1/10) (1/2))
  | materialArrival (material : Nat) (qty : RandInt 300 800)
  | speedRecovery (station : Nat) (amount : RandInt 5 15)
  | ambientChange (change : ℚ)
  | setSpeed (pct : Int)

namespace LoopState

/-- The threads start on a new factory; the counter starts at its orders. -/
def new (d : InitDraws) : LoopState :=
  { rt := { factory := .new d, totalEvents := 0 }, orderCounter := (Factory.new d).orders.length }

def factory (s : LoopState) : Factory := s.rt.factory

/-- The factory after an event that is counted. -/
def counted (s : LoopState) (f : Factory) : LoopState :=
  { s with rt := { factory := f, totalEvents := s.rt.totalEvents + 1 } }

/-- An event at one station, where it is one that can happen there. -/
def atStation (s : LoopState) (i : Nat) (happens : WorkCenter → Bool)
    (change : WorkCenter → WorkCenter) : LoopState :=
  if s.factory.line[i]?.any happens then
    s.counted { s.factory with line := s.factory.line.modify i change }
  else s

/-- `_env_loop` without the snapshot that it takes between the two. -/
def tick (s : LoopState) (d : TickDraws) : LoopState :=
  { s with rt :=
      { s.rt with factory := (s.factory.runCycle d.cycle).1 }.applyDynamics d.dynamics }

theorem tick_envLoop (s : LoopState) (root : ℚ → ℚ) (d : TickDraws) :
    (s.tick d).rt = (s.rt.envLoop root d).1 := rfl

def receive (qty : RandInt 300 800) (p : String × Material) : String × Material :=
  (p.1, { p.2 with stock := p.2.stock + qty.val })

end LoopState

def LoopEvent.apply (s : LoopState) (e : LoopEvent) : LoopState :=
  let f := s.factory
  match e with
  | .tick d => s.tick d
  | .breakdown i repair => s.atStation i (·.state = .running) (·.triggerBreakdown repair.val)
  | .newOrder o =>
    let counter := s.orderCounter + 1
    { s.counted { f with orders := f.orders ++ [o.order counter] } with orderCounter := counter }
  | .toolWearSpike i spike =>
    s.atStation i (fun _ => true) (StationEvent.apply (.toolWearSpike (truncate spike.val)))
  | .qualityDrift i sensor drift =>
    s.atStation i (fun _ => true) (StationEvent.apply (.qualityDrift sensor drift.val))
  | .materialArrival i qty =>
    s.counted { f with materials := f.materials.modify i (LoopState.receive qty) }
  | .speedRecovery i amount =>
    s.atStation i (·.speedPct < 100) fun wc => wc.setSpeed (min 100 (wc.speedPct + amount.val))
  | .ambientChange change =>
    s.counted { f with ambientTemp := max 15 (min 38 (f.ambientTemp + change)) }
  | .setSpeed pct =>
    { s with rt := { s.rt with factory := { f with line := f.line.map (·.setSpeed pct) } } }

end ManufacturingMas.FactoryLoop
