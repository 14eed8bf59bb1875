import ManufacturingMas.Agents.PlanningCycle
import ManufacturingMas.Domain.ManufacturingContext

/-! The snapshot that the agents are given: the raw one with its context. -/

namespace ManufacturingMas.Contract
open Py

/-- `enrich_snapshot_for_agents`, with the time it reads from the clock. What is no dict
is returned as it is. -/
def enrichSnapshotForAgents (py : Interpreter) (ingest : String) : Val → Except PyErr Val
  | .dict snapshot =>
    tryCatch (do
      let mctx ← fromFactorySnapshot py snapshot (some ingest)
      let mctxDict := mctx.toDict
      let out := Assoc.set snapshot "manufacturing_context" (.dict mctxDict)
      let errors ← validateContextDict py (.dict mctxDict)
      pure (.dict (Assoc.set out "manufacturing_context_validation" (strings errors))))
      fun _ =>
        let failed : Dict := [("contract_version", .str "error"), ("error", .str "adapter_failed")]
        let out := Assoc.set snapshot "manufacturing_context" (.dict failed)
        .ok (.dict (Assoc.set out "manufacturing_context_validation" (strings ["adapter_failed"])))
  | x => .ok x

/-- The adapter with its check, as the planning agent's enrichment takes it. -/
def contextAdapter (py : Interpreter) (ingest : String) (snapshot : Dict) :
    Except PyErr (Dict × List Val) := do
  let mctx ← fromFactorySnapshot py snapshot (some ingest)
  let errors ← validateContextDict py (.dict mctx.toDict)
  pure (mctx.toDict, errors.map .str)

/-- The planning agent is given what the enrichment returns. -/
theorem enrichSnapshotForAgents_eq (py : Interpreter) (ingest : String) (snapshot : Dict) :
    enrichSnapshotForAgents py ingest (.dict snapshot) =
      .ok (.dict (Agents.enrichSnapshotForAgents (contextAdapter py ingest) snapshot)) := by
  unfold enrichSnapshotForAgents Agents.enrichSnapshotForAgents contextAdapter
  dsimp only
  cases fromFactorySnapshot py snapshot (some ingest) with
  | error e => rfl
  | ok mctx =>
    dsimp only [bind, Except.bind]
    cases validateContextDict py (.dict mctx.toDict) <;> rfl

end ManufacturingMas.Contract
