import ManufacturingMas.Domain.Environment
import ManufacturingMas.Runtime.PlanningLoop

/-! What writes the speeds of a runtime's line: the rounds of its planning agent, by themselves
or in an iteration of the agent loop, and the recovery event of its event loop, beside the
cycles of production. -/

namespace ManufacturingMas.LineSpeed
open Py Machines Environment Agents PlanningLoop

/-- A factory and its planning agent. The line is the factory's. -/
structure RuntimeState (σ : Type) where
  factory : Factory
  pa : PaState σ

inductive LineEvent (σ : Type) where
  | round (rt : PaRuntime σ) (t : PaTick σ)
  | planning (rt : PaRuntime σ) (t : PaTick σ)
  | recovery (station : Nat) (amount : RandInt 5 15)
  | production (d : CycleDraws)

variable {σ : Type}

/-- The event `speed_recovery` at the chosen station. -/
def speedRecovery (amount : RandInt 5 15) (station : WorkCenter) : WorkCenter :=
  if station.speedPct < 100 then station.setSpeed (min 100 (station.speedPct + amount.val))
  else station

/-- A round of the planning agent on the factory's line. -/
def cnpRound (rt : PaRuntime σ) (t : PaTick σ) (s : RuntimeState σ) : RuntimeState σ :=
  let pa := startRound rt t { s.pa with line := s.factory.line }
  { factory := { s.factory with line := pa.line }, pa := pa }

/-- An iteration of the agent loop for the planning agent, with its round if it wants one. -/
def planningCycle (rt : PaRuntime σ) (t : PaTick σ) (s : RuntimeState σ) : RuntimeState σ :=
  let pa := runPa rt { s.pa with line := s.factory.line } t
  { factory := { s.factory with line := pa.line }, pa := pa }

def LineEvent.apply (s : RuntimeState σ) (e : LineEvent σ) : RuntimeState σ :=
  match e with
  | .round rt t => cnpRound rt t s
  | .planning rt t => planningCycle rt t s
  | .recovery station amount =>
    { s with factory := { s.factory with
        line := s.factory.line.modify station (speedRecovery amount) } }
  | .production d => { s with factory := (s.factory.runCycle d).1 }

def RuntimeState.initial (d : InitDraws) (mail : Mail σ) : RuntimeState σ :=
  { factory := .new d, pa := .initial mail (Factory.new d).line }

end ManufacturingMas.LineSpeed
