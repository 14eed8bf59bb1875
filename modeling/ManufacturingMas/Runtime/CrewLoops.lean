import ManufacturingMas.Agents.DemandAgent
import ManufacturingMas.Agents.EquipmentAgent
import ManufacturingMas.Agents.InventoryAgent
import ManufacturingMas.Agents.QualityAgent
import ManufacturingMas.Agents.SupplyAgent
import ManufacturingMas.Runtime.FactoryEvents
import ManufacturingMas.Runtime.LineSpeed

/-! The five agents beside the planning agent: their cycles on the runtime's last snapshot,
and their part in its rounds. -/

namespace ManufacturingMas.CrewLoops
open Py Machines Environment FactoryEvents Agents PlanningLoop LineSpeed
open FactorySnapshot (getSnapshot)

structure Crew where
  ea : EquipmentAgent
  qa : QualityAgent
  sa : SupplyAgent
  da : DemandAgent
  ia : InventoryAgent

def Crew.new : Crew := { ea := .new, qa := .new, sa := .new, da := .new, ia := .new }

inductive Member where
  | ea | qa | sa | da | ia
deriving DecidableEq, Repr

def Member.agentId : Member → String
  | .ea => "EA"
  | .qa => "QA"
  | .sa => "SA"
  | .da => "DA"
  | .ia => "IA"

/-- In the order in which the runtime is given its agents. -/
def members : List Member := [.ea, .qa, .sa, .da, .ia]

namespace Crew

/-- A member's cycle on a snapshot; whatever it raises is only logged. -/
def cycle (printer : Printer) (root : ℚ → ℚ) (snapshot : FactorySnapshot.Snapshot) (c : Crew) :
    Member → Crew
  | .ea => { c with ea := (EquipmentAgent.agentClass printer).afterCycle c.ea snapshot }
  | .qa => { c with qa := (QualityAgent.agentClass root).afterCycle c.qa snapshot }
  | .sa => { c with sa := (SupplyAgent.agentClass printer).afterCycle c.sa snapshot }
  | .da => { c with da := DemandAgent.agentClass.afterCycle c.da snapshot }
  | .ia => { c with ia := InventoryAgent.agentClass.afterCycle c.ia snapshot }

/-- `handle_cfp` of a member, which changes nothing. -/
def handleCfp (printer : Printer) (c : Crew) : Member → Except PyErr Dict
  | .ea => c.ea.handleCfp printer
  | .qa => c.qa.handleCfp printer
  | .sa => .ok c.sa.handleCfp
  | .da => .ok c.da.handleCfp
  | .ia => .ok c.ia.handleCfp

def raised {α : Type} : EStateM.Result PyErr α Unit → Except PyErr Unit
  | .ok _ _ => .ok ()
  | .error e _ => .error e

/-- `execute_accepted_proposal` of a member. -/
def execute (printer : Printer) (proposal : Dict) (c : Crew) : Member → Except PyErr Unit × Crew
  | .ea =>
    let result := EquipmentAgent.executeAcceptedProposal printer proposal c.ea
    (raised result, { c with ea := Stateful.finalState result })
  | .qa => (.ok (), { c with qa := c.qa.executeAcceptedProposal proposal })
  | .sa => (.ok (), { c with sa := c.sa.executeAcceptedProposal })
  | .da => (.ok (), { c with da := c.da.executeAcceptedProposal })
  | .ia => (.ok (), { c with ia := c.ia.executeAcceptedProposal })

end Crew

/-- A member as the planning agent asks it. -/
def Member.responder (printer : Printer) (m : Member) : Responder (Mail Crew) :=
  { agentId := m.agentId
    handleCfp := fun _ mail => ((mail.others.handleCfp printer m).map some, mail)
    executeAcceptedProposal := fun proposal mail =>
      let (result, crew) := mail.others.execute printer proposal m
      (result, { mail with others := crew }) }

def responders (printer : Printer) : List (Responder (Mail Crew)) :=
  members.map fun m => m.responder printer

/-! ### The runtime with its agents -/

/-- A runtime whose planning agent shares its mail with the crew, and the snapshot that the
agents are given. -/
structure CrewState where
  runtime : RuntimeState Crew
  snapshot : Option FactorySnapshot.Snapshot

/-- The surroundings of a round: it asks the crew, and its publication fills inboxes only. -/
structure CrewRound where
  rt : PaRuntime Crew
  t : PaTick Crew
  asked : rt.agents.filter (·.agentId ≠ paId) = responders t.env.printer
  quiet : ∀ publish, t.env.publishCfp = some publish →
    ∀ body mail, (publish body mail).others = mail.others

inductive CrewEvent where
  | tick (d : CycleDraws)
  | event (e : FactoryEvent)
  | cycle (printer : Printer) (m : Member)
  | round (r : CrewRound)

namespace CrewState

def crew (s : CrewState) : Crew := s.runtime.pa.world.rest.cnp.rest.others

def setCrew (s : CrewState) (c : Crew) : CrewState :=
  let cnp := s.runtime.pa.world.rest.cnp
  let rest := { s.runtime.pa.world.rest with cnp := { cnp with rest := { cnp.rest with others := c } } }
  let pa := { s.runtime.pa with world := { s.runtime.pa.world with rest := rest } }
  { s with runtime := { s.runtime with pa := pa } }

@[simp] theorem crew_setCrew (s : CrewState) (c : Crew) : (s.setCrew c).crew = c := rfl
@[simp] theorem factory_setCrew (s : CrewState) (c : Crew) :
    (s.setCrew c).runtime.factory = s.runtime.factory := rfl
@[simp] theorem snapshot_setCrew (s : CrewState) (c : Crew) :
    (s.setCrew c).snapshot = s.snapshot := rfl

/-- Without a snapshot an agent's loop waits. -/
def apply (root : ℚ → ℚ) (s : CrewState) : CrewEvent → CrewState
  | .tick d =>
    let factory := (s.runtime.factory.runCycle d).1
    { runtime := { s.runtime with factory := factory }, snapshot := some (getSnapshot root factory) }
  | .event e => { s with runtime := { s.runtime with factory := e.apply s.runtime.factory } }
  | .cycle printer m =>
    match s.snapshot with
    | none => s
    | some snapshot => s.setCrew (s.crew.cycle printer root snapshot m)
  | .round r => { s with runtime := cnpRound r.rt r.t s.runtime }

def initial (d : InitDraws) (inbox : List (Messaging.AgentMessage Dict)) : CrewState :=
  { runtime := .initial d { inbox := inbox, others := .new }, snapshot := none }

end CrewState
end ManufacturingMas.CrewLoops
