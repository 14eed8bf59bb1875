import ManufacturingMas.Proofs.CycleEffects

/-! What the fallback to the sequential cycle adds to a graph run that raised. -/

namespace ManufacturingMas.Proofs.Fallback
open Py Protocol Stateful CycleEffects

variable {σ α τ : Type} {π : World σ → τ} {ob : Objects σ} {cache : GraphCache}
  {args : CycleArgs} {snapshot : Dict}

/-- Two ends of a cycle with one result, the same fields of every agent, the
same rest of the world and the same calls up to order. -/
def SameEnd (r r' : EStateM.Result PyErr (World σ) Val) : Prop :=
  (match r, r' with
    | .ok v _, .ok v' _ => v = v'
    | .error e _, .error e' _ => e = e'
    | _, _ => False) ∧
  (finalState r).agents = (finalState r').agents ∧ (finalState r).rest = (finalState r').rest ∧
  (finalState r).calls.Perm (finalState r').calls

theorem SameEnd.refl (r : EStateM.Result PyErr (World σ) Val) : SameEnd r r := by
  refine ⟨?_,rfl,rfl,List.Perm.refl _⟩
  cases r <;> rfl

/-- The sequential cycle alone, with no fault ahead. -/
def sequentialEnd (ob : Objects σ) (args : CycleArgs) (snapshot : Dict) (w : World σ) :
    EStateM.Result PyErr (World σ) Val :=
  runSraSequential ob args snapshot { w with pending := none }

/-- The runner when a fault strikes its graph invocation. -/
def interruptedEnd (ob : Objects σ) (cache : GraphCache) (args : CycleArgs) (snapshot : Dict)
    (fault : Fault σ) (w : World σ) : EStateM.Result PyErr (World σ) Val :=
  (runCycleWithRouter true .faulty ob cache args snapshot).2 { w with pending := some fault }

/-- The graph invocation raises under the fault. -/
def GraphRaises (ob : Objects σ) (cache : GraphCache) (args : CycleArgs) (snapshot : Dict)
    (fault : Fault σ) (w : World σ) : Prop :=
  ∃ e w', (invokeSraGraph .faulty ob cache args snapshot).2 { w with pending := some fault } =
    .error e w'

theorem guarded_keeps {partly : Fault σ → World σ → World σ}
    {statement : M σ α} (hpending : ∀ w p, π { w with pending := p } = π w)
    (hpartly : ∀ fault w, π (partly fault w) = π w) (h : Keeps π statement) :
    Keeps π (guarded partly statement) := by
  intro w
  unfold guarded
  split
  · exact h w
  · split
    · exact (hpartly _ _).trans (hpending w none)
    · exact (h _).trans (hpending w _)

theorem perform_keeps_counts (c : CallEvent) (method : Method σ α) :
    Keeps cycleCounts (perform c method) := fun w => congrArg Prod.fst (perform_moves c method w)

theorem faulty_call_keeps (c : CallEvent) (method : Method σ α) :
    Keeps cycleCounts (Exec.faulty.call c method) := by
  refine guarded_keeps (fun _ _ => rfl) (fun fault w => ?_) (perform_keeps_counts c method)
  unfold interruptedCall
  split <;> rfl

theorem faulty_frames (agent : Nat) : Frames cycleCounts (Exec.faulty : Exec σ) agent where
  assign f hf :=
    guarded_keeps (fun _ _ => rfl) (fun _ _ => rfl) fun w => cycleCounts_assign w agent f hf
  call c method _ := faulty_call_keeps c method
  finish := guarded_keeps (fun _ _ => rfl) (fun _ _ => rfl) (keeps_pure ())

/-- What the sense node does after it has counted the cycle. -/
def senseCounted (ex : Exec σ) (ob : Objects σ) (agent : Nat) (snapshot : Dict) : M σ Dict := do
  ex.assign agent (·.setState .sensing)
  let observations ← ex.call (.sense agent) (ob.sense agent snapshot)
  let observations ← addNewAlerts observations
  pure [("observations", observations)]

/-- The nodes after the sense node, and the end of the invocation. -/
def afterSense (ex : Exec σ) (ob : Objects σ) (args : CycleArgs) (s : Dict) : M σ Val := do
  let e ← nodeEnrich ob s
  let s := Assoc.update s e
  let e ← nodeRouter ex ob args s
  let s := Assoc.update s e
  let e ← nodeReason ex ob args s
  let s := Assoc.update s e
  let e ← nodeAct ex ob args s
  let final := Assoc.update s e
  ex.finish
  pure (getD final "decision" .none)

/-- The graph run up to and after the count of the cycle. -/
theorem runGraph_split (ex : Exec σ) (snapshot : Dict) :
    runGraph ex ob args snapshot = (do
      ex.assign args.agent fun f => { f with snapshot := some (ob.enrichForAgents snapshot) }
      ex.assign args.agent (·.countCycle)
      let e ← senseCounted ex ob args.agent (ob.enrichForAgents snapshot)
      afterSense ex ob args
        (Assoc.update [("snapshot", .dict (ob.enrichForAgents snapshot))] e)) := by
  unfold runGraph
  rw [SraEquivalence.invoke_eq]
  unfold nodeSense snapshotOf senseCounted afterSense
  simp only [Assoc.get_cons, ↓reduceIte, pure_bind, bind_assoc]

theorem nodeReason_keeps (s : Dict) : Keeps cycleCounts (nodeReason .faulty ob args s) := by
  apply Keeps.bind (faulty_call_keeps _ _)
  intro decision
  apply Keeps.bind (recordDecision_keeps (faulty_frames args.agent) _)
  intro _
  exact keeps_pure _

theorem nodeAct_keeps (s : Dict) : Keeps cycleCounts (nodeAct .faulty ob args s) := by
  apply Keeps.bind ((faulty_frames args.agent).assign (·.setState .acting) fun _ => rfl)
  intro _
  apply Keeps.bind (faulty_call_keeps _ _)
  intro _
  apply Keeps.bind ((faulty_frames args.agent).assign (·.setState .idle) fun _ => rfl)
  intro _
  exact keeps_pure _

theorem afterSense_keeps (s : Dict) : Keeps cycleCounts (afterSense .faulty ob args s) := by
  apply Keeps.bind (nodeEnrich_keeps _)
  intro enriched
  apply Keeps.bind (nodeRouter_keeps (faulty_frames args.agent) _)
  intro routed
  apply Keeps.bind (nodeReason_keeps _)
  intro reasoned
  apply Keeps.bind (nodeAct_keeps _)
  intro acted
  apply Keeps.bind (faulty_frames args.agent).finish
  intro _
  exact keeps_pure _

theorem senseCounted_keeps (agent : Nat) (s : Dict) :
    Keeps cycleCounts (senseCounted .faulty ob agent s) := by
  apply Keeps.bind ((faulty_frames agent).assign (·.setState .sensing) fun _ => rfl)
  intro _
  apply Keeps.bind (faulty_call_keeps _ _)
  intro observations
  apply Keeps.bind (addNewAlerts_keeps _)
  intro observations
  exact keeps_pure _

/-- The world after the snapshot is stored, with no fault ahead. -/
def snapshotStored (agent : Nat) (snapshot : Dict) (w : World σ) : World σ :=
  { w with
    agents := Function.update w.agents agent { w.agents agent with snapshot := some snapshot }
    pending := none }

/-- Where the fault strikes decides whether the graph run has counted the cycle. -/
theorem interrupted_graph (ob : Objects σ) (args : CycleArgs) (snapshot : Dict) (fault : Fault σ)
    (w : World σ) :
    (fault.countdown = 0 → runGraph .faulty ob args snapshot { w with pending := some fault } =
      .error fault.error { w with pending := none }) ∧
    (fault.countdown = 1 → runGraph .faulty ob args snapshot { w with pending := some fault } =
      .error fault.error (snapshotStored args.agent (ob.enrichForAgents snapshot) w)) ∧
    (2 ≤ fault.countdown → cycleCounts (finalState
        (runGraph .faulty ob args snapshot { w with pending := some fault })) =
      (counted args.agent (ledger w)).1) := by
  obtain ⟨countdown,half,error⟩ := fault
  rw [runGraph_split]
  refine ⟨?_,?_,?_⟩
  · intro hfirst
    subst hfirst
    rfl
  · intro hsecond
    subst hsecond
    rfl
  · intro hlate
    obtain ⟨n,rfl⟩ := Nat.exists_eq_add_of_le' hlate
    have hkeeps : Keeps cycleCounts (senseCounted .faulty ob args.agent
        (ob.enrichForAgents snapshot) >>= fun e => afterSense .faulty ob args
          (Assoc.update [("snapshot", .dict (ob.enrichForAgents snapshot))] e)) := by
      apply Keeps.bind (senseCounted_keeps _ _)
      intro sensed
      exact afterSense_keeps _
    exact (hkeeps _).trans (cycleCounts_started w rfl)

theorem plain_counts (agent : Nat) : Frames cycleCounts (Exec.plain : Exec σ) agent where
  assign f hf w := cycleCounts_assign w agent f hf
  call c method _ := perform_keeps_counts c method
  finish := keeps_pure ()

theorem perform_keeps_agents (c : CallEvent) (method : Method σ α) :
    Keeps World.agents (perform c method) := by
  intro w
  unfold perform
  split <;> rfl

theorem assign_keeps_other {p agent : Nat} (hp : p ≠ agent) (f : AgentFields → AgentFields) :
    Keeps (fun w : World σ => w.agents p) (assign agent f) :=
  fun _ => Function.update_of_ne hp _ _

theorem perform_keeps_other (p : Nat) (c : CallEvent) (method : Method σ α) :
    Keeps (fun w : World σ => w.agents p) (perform c method) :=
  fun w => congrFun (perform_keeps_agents c method w) p

/-- A cycle leaves the fields of every other agent alone. -/
theorem plain_other {p agent : Nat} (hp : p ≠ agent) :
    Frames (fun w : World σ => w.agents p) Exec.plain agent where
  assign f _ := assign_keeps_other hp f
  call c method _ := perform_keeps_other p c method
  finish := keeps_pure ()

/-- The sequential cycle after it has counted itself. -/
def sequentialCounted (ob : Objects σ) (args : CycleArgs) (snapshot : Dict) : M σ Val := do
  let agent := args.agent
  assign agent (·.setState .sensing)
  let observations ← perform (.sense agent) (ob.sense agent snapshot)
  let observations ← addNewAlerts observations
  let enriched ← Stateful.ofExcept (ob.enrichForRouter snapshot)
  assign agent (·.setState .reasoning)
  consultRouter .plain ob args observations (.dict enriched)
  let decision ← perform (.reason agent) (ob.reason agent observations)
  recordDecision .plain agent decision
  assign agent (·.setState .acting)
  perform (.act agent decision) (ob.act agent decision)
  assign agent (·.setState .idle)
  pure decision

theorem sequentialCounted_keeps (hplain : Frames π .plain args.agent)
    (hcalls : ∀ {α : Type} (c : CallEvent) (method : Method σ α), Keeps π (perform c method))
    (s : Dict) : Keeps π (sequentialCounted ob args s) := by
  apply Keeps.bind (hplain.assign (·.setState .sensing) fun _ => rfl)
  intro _
  apply Keeps.bind (hcalls _ _)
  intro observations
  apply Keeps.bind (addNewAlerts_keeps _)
  intro observations
  apply Keeps.bind (keeps_ofExcept _)
  intro enriched
  apply Keeps.bind (hplain.assign (·.setState .reasoning) fun _ => rfl)
  intro _
  apply Keeps.bind (consultRouter_keeps (hplain.calls ob) _ _)
  intro _
  apply Keeps.bind (hcalls _ _)
  intro decision
  apply Keeps.bind (recordDecision_keeps hplain _)
  intro _
  apply Keeps.bind (hplain.assign (·.setState .acting) fun _ => rfl)
  intro _
  apply Keeps.bind (hcalls _ _)
  intro _
  apply Keeps.bind (hplain.assign (·.setState .idle) fun _ => rfl)
  intro _
  exact keeps_pure _

theorem sequential_counts (w : World σ) :
    cycleCounts (finalState (runSraSequential ob args snapshot w)) =
      (counted args.agent (ledger w)).1 :=
  (sequentialCounted_keeps (plain_counts args.agent) perform_keeps_counts
    (ob.enrichForAgents snapshot) _).trans (cycleCounts_started w rfl)

theorem sequential_keeps_other {p : Nat} (hp : p ≠ args.agent) (w : World σ) :
    (finalState (runSraSequential ob args snapshot w)).agents p = w.agents p := by
  revert w
  apply Keeps.bind (assign_keeps_other hp _)
  intro _
  apply Keeps.bind (assign_keeps_other hp (·.countCycle))
  intro _
  exact sequentialCounted_keeps (plain_other hp) (perform_keeps_other p)
    (ob.enrichForAgents snapshot)

/-- The sequential cycle stores the snapshot first, so storing it before is not seen. -/
theorem sequential_restarts (w : World σ) :
    runSraSequential ob args snapshot
        (snapshotStored args.agent (ob.enrichForAgents snapshot) w) =
      sequentialEnd ob args snapshot w := by
  have hstored : ∀ u : World σ, runSraSequential ob args snapshot u =
      (assign args.agent (·.countCycle) >>= fun _ =>
        sequentialCounted ob args (ob.enrichForAgents snapshot))
      { snapshotStored args.agent (ob.enrichForAgents snapshot) u with pending := u.pending } :=
    fun _ => rfl
  unfold sequentialEnd
  rw [hstored, hstored]
  simp [snapshotStored]

/-- Where the sequential cycle takes over after a graph run that raised. -/
theorem interruptedEnd_eq {fault : Fault σ} {w w' : World σ} {e : PyErr}
    (h : runGraph .faulty ob (cachedGraph ob.agentId cache args).2 snapshot
      { w with pending := some fault } = .error e w') :
    interruptedEnd ob cache args snapshot fault w = runSraSequential ob args snapshot w' := by
  have hrun : (runCycleWithRouter true .faulty ob cache args snapshot).2 =
      tryCatch (runGraph .faulty ob (cachedGraph ob.agentId cache args).2 snapshot)
        (fun _ => runSraSequential ob args snapshot) := rfl
  unfold interruptedEnd
  rw [hrun, tryCatch_apply, h]

/-- The fault strikes before the graph has done anything, or after it has stored
a snapshot that the sequential cycle stores again or that was there. -/
def StrikesInTime (ob : Objects σ) (cache : GraphCache) (args : CycleArgs) (snapshot : Dict)
    (fault : Fault σ) (w : World σ) : Prop :=
  let agent := (cachedGraph ob.agentId cache args).2.agent
  fault.countdown = 0 ∨ (fault.countdown = 1 ∧
    (agent = args.agent ∨ (w.agents agent).snapshot = some (ob.enrichForAgents snapshot)))

theorem snapshotStored_again {agent : Nat} {w : World σ}
    (h : (w.agents agent).snapshot = some snapshot) :
    snapshotStored agent snapshot w = { w with pending := none } := by
  have hfields : { w.agents agent with snapshot := some snapshot } = w.agents agent := by
    rw [← h]
  unfold snapshotStored
  rw [hfields, Function.update_eq_self]

/-- A graph run that has counted its cycle leaves that count one too high. -/
theorem late_fault_counted {fault : Fault σ} {w : World σ}
    (hraises : GraphRaises ob cache args snapshot fault w) (hlate : 2 ≤ fault.countdown) :
    (finalState (interruptedEnd ob cache args snapshot fault w)).agents ≠
      (finalState (sequentialEnd ob args snapshot w)).agents := by
  intro hagents
  obtain ⟨e,w',hgraph⟩ := hraises
  have hgraph : runGraph .faulty ob (cachedGraph ob.agentId cache args).2 snapshot
      { w with pending := some fault } = .error e w' := hgraph
  have hcounts := (interrupted_graph ob (cachedGraph ob.agentId cache args).2 snapshot fault
    w).2.2 hlate
  have hsame : cycleCounts (finalState (interruptedEnd ob cache args snapshot fault w)) =
      cycleCounts (finalState (sequentialEnd ob args snapshot w)) :=
    congrArg (fun agents agent => (agents agent).cycleCount) hagents
  unfold sequentialEnd at hsame
  rw [interruptedEnd_eq hgraph, sequential_counts, sequential_counts] at hsame
  rw [hgraph] at hcounts
  have hgraphCount := congrFun hcounts (cachedGraph ob.agentId cache args).2.agent
  have hendCount := congrFun hsame (cachedGraph ob.agentId cache args).2.agent
  simp only [counted, ledger, finalState, Function.update_self] at hgraphCount
  by_cases hown : (cachedGraph ob.agentId cache args).2.agent = args.agent
  · simp only [counted, ledger, hown, Function.update_self] at hendCount hgraphCount
    change cycleCounts w' args.agent + 1 = cycleCounts w args.agent + 1 at hendCount
    omega
  · simp only [counted, ledger, Function.update_of_ne hown] at hendCount
    change cycleCounts w' _ = cycleCounts w _ at hendCount
    omega

/-- A snapshot stored in another agent stays there, as the sequential cycle
leaves that agent alone. -/
theorem stored_elsewhere {fault : Fault σ} {w : World σ} (hsecond : fault.countdown = 1)
    (hother : (cachedGraph ob.agentId cache args).2.agent ≠ args.agent)
    (hagents : (finalState (interruptedEnd ob cache args snapshot fault w)).agents =
      (finalState (sequentialEnd ob args snapshot w)).agents) :
    (w.agents (cachedGraph ob.agentId cache args).2.agent).snapshot =
      some (ob.enrichForAgents snapshot) := by
  have hgraph := (interrupted_graph ob (cachedGraph ob.agentId cache args).2 snapshot fault
    w).2.1 hsecond
  have hfields := congrFun hagents (cachedGraph ob.agentId cache args).2.agent
  unfold sequentialEnd at hfields
  rw [interruptedEnd_eq hgraph, sequential_keeps_other hother,
    sequential_keeps_other hother] at hfields
  have hstored := congrArg AgentFields.snapshot hfields
  simpa [snapshotStored] using hstored.symm

/-- Under a fault that the graph invocation raises, the runner ends as the
sequential cycle alone would, exactly if the fault strikes in time. -/
theorem fallback_runs_once_iff (ob : Objects σ) (cache : GraphCache) (args : CycleArgs)
    (snapshot : Dict) (fault : Fault σ) (w : World σ)
    (hraises : GraphRaises ob cache args snapshot fault w) :
    SameEnd (interruptedEnd ob cache args snapshot fault w) (sequentialEnd ob args snapshot w) ↔
      StrikesInTime ob cache args snapshot fault w := by
  obtain ⟨hzero,hone,_⟩ := interrupted_graph ob (cachedGraph ob.agentId cache args).2
    snapshot fault w
  constructor
  · intro hsame
    obtain ⟨_,hagents,_⟩ := hsame
    rcases Nat.lt_trichotomy fault.countdown 1 with hfirst | hsecond | hlate
    · left
      omega
    · right
      refine ⟨hsecond,?_⟩
      by_cases hown : (cachedGraph ob.agentId cache args).2.agent = args.agent
      · left
        exact hown
      · right
        exact stored_elsewhere hsecond hown hagents
    · exact absurd hagents (late_fault_counted hraises hlate)
  · intro hearly
    rcases hearly with hfirst | ⟨hsecond,hown | hthere⟩
    · rw [interruptedEnd_eq (hzero hfirst)]
      exact SameEnd.refl _
    · rw [interruptedEnd_eq (hone hsecond), hown, sequential_restarts]
      exact SameEnd.refl _
    · rw [interruptedEnd_eq (hone hsecond), snapshotStored_again hthere]
      exact SameEnd.refl _

/-- An agent that takes its alerts out of an inbox and decides only if it has any. -/
def alertAgent : Objects (List Val) :=
  { agentId := fun _ => "PA"
    sense := fun _ _ _ inbox => (.ok (.dict [("alerts", .list inbox)]), [])
    reason := fun _ observations _ inbox =>
      (.ok (if (getD observations.asDict "alerts" .none).truthy then .str "cnp" else .none), inbox)
    act := fun _ _ _ inbox => (.ok (), inbox)
    route := fun _ _ _ _ _ inbox => (.ok none, inbox)
    log := fun _ _ _ _ _ inbox => (.ok (), inbox)
    deliver := fun _ _ _ inbox => (.ok (), inbox)
    enrichForAgents := fun snapshot => snapshot
    enrichForRouter := fun snapshot => .ok snapshot }

def oneAlert : World (List Val) :=
  { agents := fun _ => { snapshot := none, cycleCount := 0, state := .idle, decisions := [] }
    rest := [.str "CRITICAL"], calls := [], pending := none }

def faultAt (countdown : Nat) : Fault (List Val) := ⟨countdown,none,.other "transient"⟩

def paArgs : CycleArgs := ⟨0,none,none,none⟩

theorem fallback_runs_once_early :
    SameEnd (interruptedEnd alertAgent [] paArgs [] (faultAt 0) oneAlert)
      (sequentialEnd alertAgent paArgs [] oneAlert) :=
  (fallback_runs_once_iff alertAgent [] paArgs [] (faultAt 0) oneAlert ⟨_,_,rfl⟩).mpr
    (Or.inl rfl)

/-- A fault right after the sense node: two cycles are counted, and the decision
is made without the alert that the first of them took. -/
theorem late_fault_runs_twice :
    GraphRaises alertAgent [] paArgs [] (faultAt 4) oneAlert ∧
    cycleCounts (finalState (interruptedEnd alertAgent [] paArgs [] (faultAt 4) oneAlert)) 0 = 2 ∧
    cycleCounts (finalState (sequentialEnd alertAgent paArgs [] oneAlert)) 0 = 1 ∧
    (∃ w, interruptedEnd alertAgent [] paArgs [] (faultAt 4) oneAlert = .ok .none w) ∧
    (∃ w, sequentialEnd alertAgent paArgs [] oneAlert = .ok (.str "cnp") w) ∧
    ¬ SameEnd (interruptedEnd alertAgent [] paArgs [] (faultAt 4) oneAlert)
      (sequentialEnd alertAgent paArgs [] oneAlert) := by
  refine ⟨⟨_,_,rfl⟩,by decide +kernel,by decide +kernel,⟨_,rfl⟩,⟨_,rfl⟩,?_⟩
  intro hsame
  obtain ⟨hresult,_⟩ := hsame
  cases hresult

end ManufacturingMas.Proofs.Fallback
