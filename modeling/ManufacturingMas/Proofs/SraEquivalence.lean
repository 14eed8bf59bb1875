import ManufacturingMas.Protocol.SraGraph

/-! The workflow graph and the sequential cycle are the same program. -/

namespace ManufacturingMas.Proofs.SraEquivalence
open Py Protocol

variable {σ α : Type} {ex : Exec σ} {ob : Objects σ} {args : CycleArgs}

/-- The nodes run once each, in the order of the edges. -/
theorem graph_path : StateGraph.path (buildGraph ex ob args).edges
    (buildGraph ex ob args).edges.length .start =
      ["sense", "enrich", "router", "reason", "act"] := rfl

theorem invoke_eq (s : Dict) : (buildGraph ex ob args).invoke s = (do
    let e ← nodeSense ex ob args s
    let s := Assoc.update s e
    let e ← nodeEnrich ob s
    let s := Assoc.update s e
    let e ← nodeRouter ex ob args s
    let s := Assoc.update s e
    let e ← nodeReason ex ob args s
    let s := Assoc.update s e
    let e ← nodeAct ex ob args s
    pure (Assoc.update s e)) := rfl

/-- `sense` of the agent returns a dict whenever it returns. -/
def SensesDict (ob : Objects σ) (agent : Nat) : Prop :=
  ∀ snapshot fields rest v rest', ob.sense agent snapshot fields rest = (.ok v, rest') →
    v.isDict = true

theorem perform_ok {c : CallEvent} {method : Method σ α} {w w' : World σ} {a : α}
    (h : perform c method w = .ok a w') : ∃ rest, method w.agents w.rest = (.ok a, rest) := by
  unfold perform at h
  split at h
  · rename_i b rest hm
    cases h
    exact ⟨rest,hm⟩
  · cases h

theorem orElse_dict (d : Dict) : (Val.dict d).orElse (.dict []) = .dict d := by
  cases d <;> rfl

theorem addNewAlerts_ok {d : Dict} {v : Val} {w w' : World σ}
    (h : addNewAlerts (.dict d) w = .ok v w') : ∃ e, v = .dict e := by
  change (Stateful.ofExcept _ >>= fun alerts => pure _) w = _ at h
  rw [Stateful.bind_apply] at h
  split at h
  · cases h
    exact ⟨_,rfl⟩
  · cases h

/-- The graph of an agent that senses dicts runs the sequential cycle: the same
result, the same changes and the same calls in the same order. -/
theorem runGraph_eq_sequential (hdict : SensesDict ob args.agent) (snapshot : Dict) :
    runGraph .plain ob args snapshot = runSraSequential ob args snapshot := by
  unfold runGraph
  rw [invoke_eq]
  unfold nodeSense nodeEnrich nodeRouter nodeReason nodeAct runSraSequential snapshotOf
  simp only [Exec.plain, Assoc.get_cons, ↓reduceIte, pure_bind, bind_assoc, Assoc.update,
    Assoc.set, String.reduceEq]
  -- snapshot, cycle count and state are set alike
  apply Stateful.bind_congr_ok
  intro _ _ _ _
  apply Stateful.bind_congr_ok
  intro _ _ _ _
  apply Stateful.bind_congr_ok
  intro _ _ _ _
  apply Stateful.bind_congr_ok
  intro _ observed _ hsense
  obtain ⟨rest,hmethod⟩ := perform_ok hsense
  cases observed with
  | dict d =>
    apply Stateful.bind_congr_ok
    intro _ observations _ halerts
    obtain ⟨e,rfl⟩ := addNewAlerts_ok halerts
    simp [getD, orElse_dict]
  | _ => exact absurd (hdict _ _ _ _ _ hmethod) Bool.false_ne_true

/-- One call of the graph path on a graph built for it is one sequential cycle. -/
theorem graph_matches_sequential (ob : Objects σ) (cache : GraphCache) (args : CycleArgs)
    (snapshot : Dict) (hfresh : Assoc.get cache (graphKey ob.agentId args) = none)
    (hdict : SensesDict ob args.agent) (w : World σ) :
    (invokeSraGraph .plain ob cache args snapshot).2 w = runSraSequential ob args snapshot w := by
  have hgraph : (invokeSraGraph .plain ob cache args snapshot).2 =
      runGraph .plain ob args snapshot := by
    simp only [invokeSraGraph, cachedGraph, hfresh]
  rw [hgraph, runGraph_eq_sequential hdict]

/-- An agent that reports no alerts and always decides to monitor. -/
def stub : Objects Unit :=
  { agentId := fun _ => "STUB"
    sense := fun _ snapshot _ rest =>
      (.ok (.dict [("alerts", .list []), ("cycle", getD snapshot "cycle" (.int 0))]), rest)
    reason := fun _ _ _ rest =>
      (.ok (.dict [("type", .str "stub"), ("action", .str "monitor")]), rest)
    act := fun _ _ _ rest => (.ok (), rest)
    route := fun _ _ _ _ _ rest => (.ok none, rest)
    log := fun _ _ _ _ _ rest => (.ok (), rest)
    deliver := fun _ _ _ rest => (.ok (), rest)
    enrichForAgents := fun snapshot => snapshot
    enrichForRouter := fun snapshot => .ok snapshot }

def idleWorld : World Unit :=
  { agents := fun _ => { snapshot := none, cycleCount := 0, state := .idle, decisions := [] }
    rest := (), calls := [], pending := none }

theorem stub_senses_dict (agent : Nat) : SensesDict stub agent := by
  intro snapshot fields rest v rest' h
  cases h
  rfl

theorem graph_matches_sequential_stub :
    (invokeSraGraph .plain stub [] ⟨0,none,none,none⟩ [("cycle", .int 1)]).2 idleWorld =
      runSraSequential stub ⟨0,none,none,none⟩ [("cycle", .int 1)] idleWorld :=
  graph_matches_sequential stub [] ⟨0,none,none,none⟩ [("cycle", .int 1)] rfl
    (stub_senses_dict 0) idleWorld

end ManufacturingMas.Proofs.SraEquivalence
