import ManufacturingMas.Proofs.SraEquivalence

/-! What a cycle does to the cycle counts and to the record of agent steps. -/

namespace ManufacturingMas.Proofs.CycleEffects
open Py Protocol Stateful SraEquivalence

variable {σ α τ : Type} {ex : Exec σ} {ob : Objects σ} {args : CycleArgs} {π : World σ → τ}

inductive AgentStep where
  | sense | reason | act
deriving DecidableEq, Repr

/-- The agent object a call is made on, for the three methods of the cycle. -/
def stepOf : CallEvent → Option (AgentStep × Nat)
  | .sense agent => some (.sense, agent)
  | .reason agent => some (.reason, agent)
  | .act agent _ => some (.act, agent)
  | _ => none

def cycleCounts (w : World σ) : Nat → Nat := fun agent => (w.agents agent).cycleCount

def agentSteps (w : World σ) : List (AgentStep × Nat) := w.calls.filterMap stepOf

abbrev Ledger := (Nat → Nat) × List (AgentStep × Nat)

def ledger (w : World σ) : Ledger := (cycleCounts w, agentSteps w)

def counted (agent : Nat) (l : Ledger) : Ledger :=
  (Function.update l.1 agent (l.1 agent + 1), l.2)

def stepped (step : AgentStep) (agent : Nat) (l : Ledger) : Ledger :=
  (l.1, l.2 ++ [(step, agent)])

/-- In a cycle of `agent`, `π` is only changed by counting the cycle and by the
calls on agents. -/
structure Frames (π : World σ → τ) (ex : Exec σ) (agent : Nat) : Prop where
  assign : ∀ f, (∀ fields : AgentFields, (f fields).cycleCount = fields.cycleCount) →
    Keeps π (ex.assign agent f)
  call : ∀ {α : Type} (c : CallEvent) (method : Method σ α), stepOf c = none →
    Keeps π (ex.call c method)
  finish : Keeps π ex.finish

theorem cycleCounts_assign (w : World σ) (agent : Nat) (f : AgentFields → AgentFields)
    (hf : ∀ fields : AgentFields, (f fields).cycleCount = fields.cycleCount) :
    cycleCounts { w with agents := Function.update w.agents agent (f (w.agents agent)) } =
      cycleCounts w := by
  funext p
  unfold cycleCounts
  by_cases hp : p = agent
  · subst hp
    simp [hf]
  · simp [hp]

theorem assign_keeps (agent : Nat) (f : AgentFields → AgentFields)
    (hf : ∀ fields : AgentFields, (f fields).cycleCount = fields.cycleCount) :
    Keeps ledger (assign (σ := σ) agent f) := fun w =>
  congrArg (fun counts => (counts, agentSteps w)) (cycleCounts_assign w agent f hf)

theorem assign_countCycle (w : World σ) (agent : Nat) :
    cycleCounts { w with agents := Function.update w.agents agent (w.agents agent).countCycle } =
      Function.update (cycleCounts w) agent (cycleCounts w agent + 1) := by
  funext p
  unfold cycleCounts
  by_cases hp : p = agent
  · subst hp
    simp [AgentFields.countCycle]
  · simp [hp]

/-- A cycle stores its snapshot and counts itself first. -/
theorem cycleCounts_started (w : World σ) {w' : World σ} {agent : Nat} {snapshot : Dict}
    (hstored : w'.agents =
      Function.update w.agents agent { w.agents agent with snapshot := some snapshot }) :
    cycleCounts { w' with agents := Function.update w'.agents agent (w'.agents agent).countCycle } =
      (counted agent (ledger w)).1 := by
  have hsame : cycleCounts w' = cycleCounts w := by
    unfold cycleCounts
    rw [hstored]
    exact cycleCounts_assign w agent (fun fields => { fields with snapshot := some snapshot })
      fun _ => rfl
  rw [assign_countCycle, hsame]
  rfl

theorem perform_moves (c : CallEvent) (method : Method σ α) :
    Moves ledger (fun l => (l.1, l.2 ++ (stepOf c).toList)) (perform c method) := by
  have hsteps : ∀ w : World σ, ∀ rest,
      agentSteps { w with rest := rest, calls := w.calls ++ [c] } =
        agentSteps w ++ (stepOf c).toList := by
    intro w rest
    unfold agentSteps
    rw [List.filterMap_append]
    cases h : stepOf c <;> simp [h]
  intro w
  unfold perform
  split <;> exact congrArg (Prod.mk (cycleCounts w)) (hsteps w _)

theorem plain_frames (agent : Nat) : Frames ledger (Exec.plain : Exec σ) agent where
  assign := assign_keeps agent
  call c method hc w := by
    refine (perform_moves c method w).trans ?_
    simp [hc]
  finish := keeps_pure ()

/-! ### The parts of a cycle that keep the ledger -/

/-- The calls that the router's part of a cycle makes leave `π` alone. -/
structure CallsKeep (π : World σ → τ) (ex : Exec σ) (ob : Objects σ) : Prop where
  route : ∀ router id observations enriched,
    Keeps π (ex.call (.route id observations enriched) (ob.route router id observations enriched))
  log : ∀ log id message level,
    Keeps π (ex.call (.log id message level) (ob.log log id message level))
  deliver : ∀ broker message, Keeps π (ex.call (.deliver message) (ob.deliver broker message))

theorem Frames.calls {agent : Nat} (hex : Frames π ex agent) (ob : Objects σ) :
    CallsKeep π ex ob :=
  ⟨fun _ _ _ _ => hex.call _ _ rfl,fun _ _ _ _ => hex.call _ _ rfl,
    fun _ _ => hex.call _ _ rfl⟩

theorem applyThinkResult_keeps (hcalls : CallsKeep π ex ob) (tr : ThinkResult) :
    Keeps π (applyThinkResult ex ob args tr) := by
  refine keeps_forM tr.actions fun action => ?_
  unfold applyAction
  dsimp only
  split
  · split
    · exact hcalls.log _ _ _ _
    · exact keeps_pure _
  · split
    · split
      · exact (hcalls.deliver _ _).tryCatch fun _ => keeps_pure _
      · exact keeps_pure _
    · exact keeps_pure _

theorem consultRouter_keeps (hcalls : CallsKeep π ex ob) (observations enriched : Val) :
    Keeps π (consultRouter ex ob args observations enriched) := by
  unfold consultRouter
  split
  · exact keeps_pure _
  · refine (hcalls.route _ _ _ _).bind fun tr => ?_
    cases tr with
    | none => exact keeps_pure _
    | some tr => exact applyThinkResult_keeps hcalls tr

theorem recordDecision_keeps {agent : Nat} (hex : Frames π ex agent) (decision : Val) :
    Keeps π (recordDecision ex agent decision) := by
  unfold recordDecision
  split
  · exact (hex.assign (·.appendDecision decision) fun _ => rfl).bind fun _ =>
      hex.assign (·.trimDecisions) fun _ => rfl
  · exact keeps_pure _

theorem addNewAlerts_keeps (v : Val) : Keeps π (addNewAlerts v : M σ Val) := by
  unfold addNewAlerts
  split
  · exact (keeps_ofExcept _).bind fun _ => keeps_pure _
  · exact keeps_pure _

theorem snapshotOf_keeps (state : Dict) : Keeps π (snapshotOf state : M σ Dict) := by
  unfold snapshotOf
  split
  · exact keeps_pure _
  · exact keeps_throw _

theorem nodeEnrich_keeps (state : Dict) : Keeps π (nodeEnrich ob state) := by
  apply Keeps.bind (snapshotOf_keeps state)
  intro snapshot
  apply Keeps.bind (keeps_ofExcept _)
  intro enriched
  exact keeps_pure _

theorem nodeRouter_keeps (hex : Frames π ex args.agent) (state : Dict) :
    Keeps π (nodeRouter ex ob args state) := by
  apply Keeps.bind (hex.assign (·.setState .reasoning) fun _ => rfl)
  intro _
  apply Keeps.bind (consultRouter_keeps (hex.calls ob) _ _)
  intro _
  exact keeps_pure _

/-! ### The three steps of the agent -/

theorem nodeReason_moves (state : Dict) :
    Moves ledger (stepped .reason args.agent) (nodeReason .plain ob args state) := by
  apply Moves.bind (perform_moves _ _)
  intro decision
  apply Keeps.bind (recordDecision_keeps (plain_frames args.agent) _)
  intro _
  exact keeps_pure _

/-- An assignment cannot fail, so what follows it changes what it would have. -/
theorem Moves.after_assign {f : Unit → M σ α} {g : Ledger → Ledger} {agent : Nat}
    {h : AgentFields → AgentFields}
    (hh : ∀ fields : AgentFields, (h fields).cycleCount = fields.cycleCount)
    (hf : ∀ u, Moves ledger g (f u)) : Moves ledger g (assign agent h >>= f) := by
  intro w
  exact (hf () _).trans (congrArg g (assign_keeps agent h hh w))

theorem nodeAct_moves (state : Dict) :
    Moves ledger (stepped .act args.agent) (nodeAct .plain ob args state) := by
  apply Moves.after_assign (h := (·.setState .acting)) (fun _ => rfl)
  intro _
  apply Moves.bind (perform_moves _ _)
  intro _
  apply Keeps.bind (assign_keeps args.agent (·.setState .idle) fun _ => rfl)
  intro _
  exact keeps_pure _

/-- The first node counts the cycle before anything in it can fail. -/
theorem nodeSense_moves (snapshot : Dict) :
    Moves ledger (stepped .sense args.agent ∘ counted args.agent)
      (nodeSense .plain ob args [("snapshot", .dict snapshot)]) := by
  have hsense : Moves ledger (stepped .sense args.agent)
      (assign args.agent (·.setState .sensing) >>= fun _ => (do
        let observations ← perform (.sense args.agent) (ob.sense args.agent snapshot)
        let observations ← addNewAlerts observations
        pure [("observations", observations)] : M σ Dict)) := by
    apply Moves.after_assign (h := (·.setState .sensing)) (fun _ => rfl)
    intro _
    apply Moves.bind (perform_moves _ _)
    intro observations
    apply Keeps.bind (addNewAlerts_keeps _)
    intro observations
    exact keeps_pure _
  intro w
  refine (hsense _).trans (congrArg (stepped .sense args.agent) ?_)
  exact congrArg (fun counts => (counts, agentSteps w)) (cycleCounts_started w rfl)

/-- Whatever raises, a graph run counts one cycle of its agent and senses, goes
on with that agent's steps in order, and if it returns has performed all three. -/
theorem runGraph_ledger (ob : Objects σ) (args : CycleArgs) (snapshot : Dict) (w : World σ) :
    ∃ k, ledger (finalState (runGraph .plain ob args snapshot w)) =
        ([stepped .sense args.agent ∘ counted args.agent, stepped .reason args.agent,
          stepped .act args.agent].take (k + 1)).foldl (fun l g => g l) (ledger w) ∧
      ∀ v w', runGraph .plain ob args snapshot w = .ok v w' → 2 ≤ k := by
  unfold runGraph
  rw [invoke_eq]
  simp only [bind_assoc]
  refine Moves.first (nodeSense_moves _) ?_ w
  intro sensed
  apply Keeps.stages (nodeEnrich_keeps _)
  intro enriched
  apply Keeps.stages (nodeRouter_keeps (plain_frames args.agent) _)
  intro routed
  apply Moves.stages (nodeReason_moves _)
  intro reasoned
  apply Moves.stages (nodeAct_moves _)
  intro acted
  apply Keeps.done
  apply Keeps.bind (keeps_pure _)
  intro final
  apply Keeps.bind (plain_frames args.agent).finish
  intro _
  exact keeps_pure _

end ManufacturingMas.Proofs.CycleEffects
