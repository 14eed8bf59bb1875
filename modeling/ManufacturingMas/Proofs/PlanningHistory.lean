import ManufacturingMas.Lib.Runs
import ManufacturingMas.Proofs.CycleEffects
import ManufacturingMas.Proofs.RoundEffects
import ManufacturingMas.Runtime.PlanningLoop

/-! What the planning agent can have done: the histories of its senses, its
reasoning and its rounds, along any run of its loop. -/

namespace ManufacturingMas.Proofs.PlanningHistory
open Py Protocol Messaging Agents PlanningLoop Stateful CycleEffects RoundEffects

variable {σ : Type}

/-! ### A round marks its cycle -/

/-- The fields of the agent that its decisions depend on. -/
def marks (w : CnpWorld σ) : Val × List Dict := (w.pa.lastCnpCycle, w.pa.pendingAlerts)

theorem executeAccepted_keeps (ranked : List Dict) (agents : List (Responder σ)) :
    Keeps marks (executeAccepted ranked agents) := by
  induction agents with
  | nil => exact keeps_pure _
  | cons agent agents ih =>
    unfold executeAccepted
    split
    · exact ih
    · dsimp only
      split
      · exact ih
      · apply Keeps.bind
        · exact keeps_modifyGet fun _ => rfl
        · intro _
          exact ih

/-- The cycle of a snapshot, as the agent reads it. -/
def cycleOf (snapshot : Dict) : Val := getD snapshot "cycle" (.int 0)

theorem openRound_moves (env : CnpEnv σ) (agents : List (Responder σ)) (snapshot : Dict) :
    Moves marks (fun p => (cycleOf snapshot, p.2)) (openRound env agents snapshot) := by
  unfold openRound
  apply Moves.bind
  · exact moves_modify fun _ => rfl
  · intro _
    apply Keeps.bind
    · exact fun _ => rfl
    · intro w
      apply Keeps.bind (broadcastCfp_keeps (fun _ _ => rfl) _ _ _ _)
      intro _
      apply Keeps.bind (collectProposals_keeps (fun _ _ => rfl) _ _ _ _ _ _)
      intro proposals
      split
      · exact keeps_pure _
      · apply Keeps.bind (keeps_ofExcept _)
        intro ranked
        exact keeps_pure _

/-- However a round ends, it leaves its cycle as the last one and the alerts alone. -/
theorem initiateCnp_moves (env : CnpEnv σ) (llm : Option Intelligence.LLMClient)
    (agents : List (Responder σ)) (snapshot : Dict) :
    Moves marks (fun p => (cycleOf snapshot, p.2)) (initiateCnp env llm agents snapshot) := by
  unfold initiateCnp
  apply Moves.bind (openRound_moves env agents snapshot)
  intro opened
  cases opened with
  | none => exact keeps_pure _
  | some round =>
    apply Keeps.bind (keeps_ofExcept _)
    intro strategy
    apply Keeps.bind (executeAccepted_keeps _ _)
    intro _
    apply Keeps.bind
    · exact keeps_modifyGet fun _ => rfl
    · intro _
      exact keeps_pure _

/-! ### What the agent reads and decides -/

/-- The observations hold a cycle, alerts and an OEE. -/
structure Reads (obs : Dict) (cycle : ℤ) (alerts : List Dict) (avgOee : PyFloat) : Prop where
  cycle : cycleOf obs = .int cycle
  alerts : PlanningAgent.alertsOf (getD obs "alerts" (.list [])) = .ok alerts
  avgOee : (getD obs "avg_oee" (.float (.fin 1))).number = .ok avgOee

def Critical (alert : Dict) : Prop := PlanningAgent.hasSeverity "CRITICAL" alert = true

/-- Neither a CRITICAL alert nor two HIGH ones. -/
def Quiet (alerts : List Dict) : Prop :=
  alerts.countP (PlanningAgent.hasSeverity "CRITICAL") < 1 ∧
    alerts.countP (PlanningAgent.hasSeverity "HIGH") < 2

/-- Low effectiveness, more than thirty cycles after the last round. -/
def Slow (elapsed : ℤ) (avgOee : PyFloat) : Prop :=
  avgOee.lt (.fin (13/20)) = true ∧ 30 < elapsed

/-- The agent's own reason for a round: its alerts or a long low, outside the cooldown. -/
def Asks (elapsed : ℤ) (alerts : List Dict) (avgOee : PyFloat) : Prop :=
  (¬ Quiet alerts ∨ Slow elapsed avgOee) ∧ 10 < elapsed

theorem minus_int (m n : ℤ) : (Val.int m).minus (.int n) = .ok (.fin ((m - n : ℤ) : ℚ)) := by
  rw [Int.cast_sub]
  rfl

theorem lt_int (k n : ℤ) : PyFloat.lt (.fin k) (.fin n) = true ↔ k < n := by
  unfold PyFloat.lt
  rw [decide_eq_true_eq, Int.cast_lt]

theorem shouldCnp_ok {avgOee : Val} {x : PyFloat} (h : avgOee.number = .ok x) (alerts : List Dict)
    (cycle last : ℤ) :
    ∃ b, PlanningAgent.shouldCnp (alerts.countP (PlanningAgent.hasSeverity "CRITICAL"))
        (alerts.countP (PlanningAgent.hasSeverity "HIGH")) avgOee (.int cycle) (.int last) = .ok b ∧
      (b = true ↔ ¬ Quiet alerts ∨ Slow (cycle - last) x) := by
  unfold PlanningAgent.shouldCnp Quiet Slow
  split
  · rename_i hloud
    refine ⟨true,rfl,iff_of_true rfl (Or.inl ?_)⟩
    omega
  · rename_i hquiet
    have hquiet : ¬ ¬ (alerts.countP (PlanningAgent.hasSeverity "CRITICAL") < 1 ∧
        alerts.countP (PlanningAgent.hasSeverity "HIGH") < 2) := by omega
    obtain ⟨y,hy,hsame⟩ := Val.compared_of_number h
    rw [hy, minus_int]
    dsimp only [bind, Except.bind]
    rw [(hsame (13/20) (by norm_num)).1]
    by_cases hlow : x.lt (.fin (13/20)) = true
    · refine ⟨_,if_pos hlow,?_⟩
      rw [or_iff_right hquiet, and_iff_right hlow]
      exact lt_int 30 (cycle - last)
    · refine ⟨false,if_neg hlow,iff_of_false Bool.false_ne_true ?_⟩
      rintro (hloud | hslow)
      · exact hquiet hloud
      · exact hlow hslow.1

theorem asksForRound_ok {avgOee : Val} {x : PyFloat} (h : avgOee.number = .ok x)
    (alerts : List Dict) (cycle last : ℤ) :
    ∃ b, PlanningAgent.asksForRound (alerts.countP (PlanningAgent.hasSeverity "CRITICAL"))
        (alerts.countP (PlanningAgent.hasSeverity "HIGH")) avgOee (.int cycle) (.int last) = .ok b ∧
      (b = true ↔ Asks (cycle - last) alerts x) := by
  obtain ⟨should,hshould,hiff⟩ := shouldCnp_ok h alerts cycle last
  unfold PlanningAgent.asksForRound Asks
  rw [hshould, minus_int, ← hiff]
  cases should with
  | true => exact ⟨_,rfl,(lt_int 10 (cycle - last)).trans (and_iff_right rfl).symm⟩
  | false => exact ⟨false,rfl,iff_of_false Bool.false_ne_true fun h => Bool.false_ne_true h.1⟩

/-- On what it reads, the agent decides, and asks for a round for its own reason only. -/
theorem reason_ok (printer : Printer) {pa : PlanningAgent} {obs : Dict} {cycle last : ℤ}
    {alerts : List Dict} {x : PyFloat} (hlast : pa.lastCnpCycle = .int last)
    (h : Reads obs cycle alerts x) :
    ∃ decision, pa.reason printer obs = .ok decision ∧
      (wantsRound (decisionVal decision) = true ↔ Asks (cycle - last) alerts x) := by
  obtain ⟨asks,hasks,hiff⟩ := asksForRound_ok h.avgOee alerts cycle last
  have hcycle : getD obs "cycle" (.int 0) = .int cycle := h.cycle
  rw [← hiff]
  unfold PlanningAgent.reason
  rw [h.alerts, hcycle, hlast]
  change ∃ decision, (PlanningAgent.asksForRound _ _ _ _ _ >>= _) = _ ∧ _
  rw [hasks]
  cases asks with
  | true =>
    change ∃ decision, (Val.formatPercent _ >>= _) = _ ∧ _
    rw [Val.formatPercent_of_number h.avgOee]
    exact ⟨_,rfl,iff_of_true rfl rfl⟩
  | false =>
    by_cases hnone : (!alerts.isEmpty) = true
    · exact ⟨_,if_pos hnone,iff_of_false Bool.false_ne_true Bool.false_ne_true⟩
    · refine ⟨none,?_,iff_of_false Bool.false_ne_true Bool.false_ne_true⟩
      refine (if_neg hnone).trans ?_
      obtain ⟨_,hcompared,_⟩ := Val.compared_of_number h.avgOee
      rw [hcompared, Val.formatPercent_of_number h.avgOee]
      rfl

/-- The decision of a call of reason asks for a round. -/
def Initiates (result : Except PyErr (Option Dict)) : Prop :=
  ∃ decision, result = .ok decision ∧ wantsRound (decisionVal decision) = true

/-! ### The histories of the agent -/

/-- The histories after which the agent has `last` as its last round and `pending` as
its alerts: it decides on the alerts of its last sense, and begins a round for its
own reason only. -/
inductive Trace : List PaEvent → ℤ → List Dict → Prop
  | start : Trace [] 0 []
  | sense {es last pending} (h : Trace es last pending) (alerts : List Dict) :
    Trace (es ++ [.sensed alerts]) last alerts
  | reason {es last pending} (h : Trace es last pending) {obs cycle avgOee result}
    (hreads : Reads obs cycle pending avgOee)
    (hasks : Initiates result ↔ Asks (cycle - last) pending avgOee) :
    Trace (es ++ [.reasoned (.int last) obs result]) last pending
  | begin {es last pending} (h : Trace es last pending) {cycle avgOee}
    (hasks : Asks (cycle - last) pending avgOee) :
    Trace (es ++ [.began (.int cycle) pending]) cycle pending

/-- The agent and its history fit together. -/
def Traced (p : PlanningAgent × List PaEvent) : Prop :=
  ∃ last, p.1.lastCnpCycle = .int last ∧ Trace p.2 last p.1.pendingAlerts

/-- The agent has just reached a decision for a snapshot of a cycle. -/
def Decided (cycle : ℤ) (decision : Val) (p : PlanningAgent × List PaEvent) : Prop :=
  ∃ last avgOee, p.1.lastCnpCycle = .int last ∧ Trace p.2 last p.1.pendingAlerts ∧
    (wantsRound decision = true → Asks (cycle - last) p.1.pendingAlerts avgOee)

theorem Decided.traced {cycle : ℤ} {decision : Val} {p : PlanningAgent × List PaEvent}
    (h : Decided cycle decision p) : Traced p := by
  obtain ⟨last,_,hlast,htrace,_⟩ := h
  exact ⟨last,hlast,htrace⟩

/-- The agent has just taken its alerts with the observations `obs`. -/
def Observed (cycle : ℤ) (obs : Val) (p : PlanningAgent × List PaEvent) : Prop :=
  Traced p ∧ ∃ d avgOee, obs = .dict d ∧ Reads d cycle p.1.pendingAlerts avgOee

/-! ### One cycle of the agent -/

def agentView (w : World (PaWorld σ)) : PlanningAgent × List PaEvent :=
  (w.rest.cnp.pa, w.rest.history)

theorem assign_view (agent : Nat) (f : AgentFields → AgentFields) :
    Keeps agentView (assign (σ := PaWorld σ) agent f) := fun _ => rfl

theorem onMail_view {α : Type} (c : CallEvent) (method : Method (Mail σ) α) :
    Keeps agentView (perform c (onMail method)) := by
  intro w
  unfold perform onMail
  dsimp only
  split
  · rename_i h
    injection h with _ hrest
    subst hrest
    rfl
  · rename_i h
    injection h with _ hrest
    subst hrest
    rfl

theorem objects_view (rt : PaRuntime σ) (printer : Printer) :
    CallsKeep agentView .plain (rt.objects printer) where
  route _ _ _ _ := onMail_view _ _
  log _ _ _ _ := onMail_view _ _
  deliver _ _ := onMail_view _ _

theorem recordDecision_view (agent : Nat) (decision : Val) :
    Keeps agentView (recordDecision (.plain : Exec (PaWorld σ)) agent decision) := by
  unfold recordDecision
  split
  · apply Keeps.bind (assign_view _ _)
    intro _
    exact assign_view _ _
  · exact keeps_pure _

/-- The context that is added to a snapshot leaves its cycle and its OEE. -/
theorem get_enrichSnapshot (adapter : Dict → Except PyErr (Dict × List Val)) (snapshot : Dict)
    {key : String} (hctx : key ≠ "manufacturing_context")
    (hval : key ≠ "manufacturing_context_validation") (default : Val) :
    getD (enrichSnapshotForAgents adapter snapshot) key default = getD snapshot key default := by
  unfold enrichSnapshotForAgents
  split
  · rw [getD_set_of_ne hval, getD_set_of_ne hctx]
  · rw [getD_set_of_ne hval, getD_set_of_ne hctx]

theorem alertsOf_dicts (alerts : List Dict) :
    PlanningAgent.alertsOf (.list (alerts.map .dict)) = .ok alerts := by
  unfold PlanningAgent.alertsOf
  dsimp only
  induction alerts with
  | nil => rfl
  | cons alert alerts ih =>
    rw [List.map_cons, List.mapM_cons, ih]
    rfl

/-- What the agent observes of a snapshot holds its cycle, its OEE and the new alerts. -/
theorem observe_reads (adapter : Dict → Except PyErr (Dict × List Val)) (snapshot : Snapshot)
    (alerts : List Dict) :
    Reads (PlanningAgent.observe (enrichSnapshotForAgents adapter snapshot.dict) alerts)
      snapshot.cycle alerts snapshot.avgOee := by
  refine ⟨?_,alertsOf_dicts alerts,?_⟩
  · refine Eq.trans ?_ snapshot.hasCycle
    exact get_enrichSnapshot adapter snapshot.dict (by decide) (by decide) _
  · refine Eq.trans (congrArg Val.number ?_) snapshot.hasOee
    exact get_enrichSnapshot adapter snapshot.dict (by decide) (by decide) _

theorem sense_triple (rt : PaRuntime σ) (printer : Printer) (snapshot : Snapshot) (agent : Nat) :
    Triple (fun w => Traced (agentView w))
      (perform (.sense agent)
        ((rt.objects printer).sense agent ((rt.objects printer).enrichForAgents snapshot.dict)))
      (fun obs w => Observed snapshot.cycle obs (agentView w))
      (fun w : World (PaWorld σ) => Traced (agentView w)) := by
  intro w h
  obtain ⟨last,hlast,htrace⟩ := h
  refine ⟨⟨last,hlast,htrace.sense _⟩,_,_,rfl,observe_reads rt.adapter snapshot _⟩

/-- The copy of the alerts for the router leaves what the agent itself reads. -/
theorem addNewAlerts_triple (cycle : ℤ) (obs : Val) :
    Triple (fun w : World (PaWorld σ) => Observed cycle obs (agentView w)) (addNewAlerts obs)
      (fun obs w => Observed cycle obs (agentView w)) (fun w => Traced (agentView w)) := by
  intro w h
  obtain ⟨htraced,d,avgOee,rfl,hreads⟩ := h
  unfold addNewAlerts
  dsimp only
  rw [bind_apply]
  cases ((getD d "alerts" .none).orElse (.list [])).toList with
  | error e => exact htraced
  | ok alerts =>
    have hkeep : ∀ key default, key ≠ "new_alerts" →
        getD (Assoc.set d "new_alerts" (.list alerts)) key default = getD d key default :=
      fun key default hkey => getD_set_of_ne hkey _ default
    refine ⟨htraced,_,avgOee,rfl,?_,?_,?_⟩
    · exact (hkeep _ _ (by decide)).trans hreads.cycle
    · rw [hkeep _ _ (by decide)]
      exact hreads.alerts
    · rw [hkeep _ _ (by decide)]
      exact hreads.avgOee

theorem reason_triple (rt : PaRuntime σ) (printer : Printer) (cycle : ℤ) (agent : Nat)
    (obs : Val) :
    Triple (fun w => Observed cycle obs (agentView w))
      (perform (.reason agent) ((rt.objects printer).reason agent obs))
      (fun decision w => Decided cycle decision (agentView w))
      (fun w : World (PaWorld σ) => Traced (agentView w)) := by
  intro w h
  obtain ⟨⟨last,hlast,htrace⟩,d,avgOee,rfl,hreads⟩ := h
  obtain ⟨decision,hdecision,hiff⟩ := reason_ok printer hlast hreads
  have hlast' : w.rest.cnp.pa.lastCnpCycle = .int last := hlast
  have hdecision' : w.rest.cnp.pa.reason printer d = .ok decision := hdecision
  unfold perform
  have hmethod : (rt.objects printer).reason agent (.dict d) w.agents w.rest =
      (.ok (decisionVal decision), { w.rest with
        history := w.rest.history ++ [.reasoned (.int last) d (.ok decision)] }) := by
    change ((w.rest.cnp.pa.reason printer d).map decisionVal, { w.rest with
      history := w.rest.history ++
        [PaEvent.reasoned w.rest.cnp.pa.lastCnpCycle d (w.rest.cnp.pa.reason printer d)] }) = _
    rw [hlast', hdecision']
    rfl
  rw [hmethod]
  have hasks : Initiates (.ok decision) ↔
      Asks (cycle - last) w.rest.cnp.pa.pendingAlerts avgOee := by
    refine Iff.trans ⟨?_,fun hwants => ⟨decision,rfl,hwants⟩⟩ hiff
    rintro ⟨_,hsame,hwants⟩
    cases hsame
    exact hwants
  exact ⟨last,avgOee,hlast,htrace.reason hreads hasks,hiff.mp⟩

theorem sequential_triple (rt : PaRuntime σ) (printer : Printer) (snapshot : Snapshot)
    (args : CycleArgs) :
    Triple (fun w => Traced (agentView w))
      (runSraSequential (rt.objects printer) args snapshot.dict)
      (fun decision w => Decided snapshot.cycle decision (agentView w))
      (fun w : World (PaWorld σ) => Traced (agentView w)) := by
  unfold runSraSequential
  dsimp only
  refine ((assign_view _ _).triple fun _ h => h).bind fun _ => ?_
  refine ((assign_view _ _).triple fun _ h => h).bind fun _ => ?_
  refine ((assign_view _ _).triple fun _ h => h).bind fun _ => ?_
  apply (sense_triple rt printer snapshot args.agent).bind
  intro observed
  apply (addNewAlerts_triple snapshot.cycle observed).bind
  intro obs
  -- nothing that follows until the reasoning touches the agent or its history
  refine ((keeps_ofExcept _).triple fun _ h => h.1).bind fun enriched => ?_
  refine ((assign_view _ _).triple fun _ h => h.1).bind fun _ => ?_
  refine ((consultRouter_keeps (objects_view rt printer) _ _).triple fun _ h => h.1).bind
    fun _ => ?_
  apply (reason_triple rt printer snapshot.cycle args.agent obs).bind
  intro decision
  refine ((recordDecision_view _ _).triple fun _ h => h.traced).bind fun _ => ?_
  refine ((assign_view _ _).triple fun _ h => h.traced).bind fun _ => ?_
  apply Triple.bind (Q := fun _ w => Decided snapshot.cycle decision (agentView w))
  · exact fun _ h => h
  · intro _
    refine ((assign_view _ _).triple fun _ h => h.traced).bind fun _ => ?_
    exact triple_pure _ fun _ h => h

theorem senses_dict (rt : PaRuntime σ) (printer : Printer) (agent : Nat) :
    SraEquivalence.SensesDict (rt.objects printer) agent := by
  intro snapshot fields rest v rest' h
  cases h
  rfl

/-- On either path of the runner, and also where the graph falls back. -/
theorem cycle_triple (rt : PaRuntime σ) (t : PaTick σ) (cache : GraphCache) :
    Triple (fun w => Traced (agentView w))
      (runCycleWithRouter t.useLanggraph .plain (rt.objects t.env.printer) cache (rt.args t)
        t.snapshot.dict).2
      (fun decision w => Decided t.snapshot.cycle decision (agentView w))
      (fun w : World (PaWorld σ) => Traced (agentView w)) := by
  unfold runCycleWithRouter
  split
  · unfold invokeSraGraph
    dsimp only
    rw [SraEquivalence.runGraph_eq_sequential (senses_dict rt t.env.printer _)]
    apply (sequential_triple rt t.env.printer t.snapshot _).tryCatch
    intro _
    exact sequential_triple rt t.env.printer t.snapshot _
  · exact sequential_triple rt t.env.printer t.snapshot _

/-! ### Any number of iterations -/

def stateView (s : PaState σ) : PlanningAgent × List PaEvent := agentView s.world

/-- However the round ends, the agent is the one it leaves, and its beginning is recorded. -/
theorem startRound_view (rt : PaRuntime σ) (t : PaTick σ) (s : PaState σ) :
    let snapshot := enrichSnapshotForAgents rt.adapter t.snapshot.dict
    stateView (startRound rt t s) =
      ((finalState (initiateCnp t.env rt.llm (rt.agents.filter (·.agentId ≠ paId)) snapshot
          s.world.rest.cnp)).pa,
        s.world.rest.history ++ [.began (cycleOf snapshot) s.world.rest.cnp.pa.pendingAlerts]) := by
  intro snapshot
  unfold startRound
  dsimp only
  split
  all_goals
    rename_i h
    rw [h]
    rfl

theorem startRound_traced (rt : PaRuntime σ) (t : PaTick σ) (s : PaState σ) {decision : Val}
    (h : Decided t.snapshot.cycle decision (stateView s)) (hwants : wantsRound decision = true) :
    Traced (stateView (startRound rt t s)) := by
  obtain ⟨last,avgOee,_,htrace,hasks⟩ := h
  have hcycle : cycleOf (enrichSnapshotForAgents rt.adapter t.snapshot.dict) =
      .int t.snapshot.cycle := by
    refine Eq.trans ?_ t.snapshot.hasCycle
    exact get_enrichSnapshot rt.adapter t.snapshot.dict (by decide) (by decide) _
  have hmarks := initiateCnp_moves t.env rt.llm (rt.agents.filter (·.agentId ≠ paId))
    (enrichSnapshotForAgents rt.adapter t.snapshot.dict) s.world.rest.cnp
  rw [hcycle] at hmarks
  injection hmarks with hlast hpending
  rw [startRound_view, hcycle]
  refine ⟨t.snapshot.cycle,hlast,?_⟩
  rw [hpending]
  exact htrace.begin (hasks hwants)

theorem runPa_traced (rt : PaRuntime σ) (s : PaState σ) (t : PaTick σ) (h : Traced (stateView s)) :
    Traced (stateView (runPa rt s t)) := by
  unfold runPa
  dsimp only
  have hcycle := cycle_triple rt t s.cache { s.world with rest := { s.world.rest with
    cnp := { s.world.rest.cnp with rest := t.meanwhile s.world.rest.cnp.rest } } } h
  generalize hrun : runCycleWithRouter t.useLanggraph .plain (rt.objects t.env.printer) s.cache
    (rt.args t) t.snapshot.dict = run at *
  split
  · rename_i hend
    rw [hend] at hcycle
    exact hcycle
  · rename_i decision world hend
    rw [hend] at hcycle
    split
    · rename_i hwants
      rw [Bool.and_eq_true] at hwants
      exact startRound_traced rt t _ hcycle hwants.1
    · exact hcycle.traced

/-- In every state that a run of the agent's loop reaches, its history is a trace. -/
theorem run_traced (rt : PaRuntime σ) (mail : Mail σ) (line : List Machines.WorkCenter)
    (ticks : List (PaTick σ)) :
    Traced (stateView (Runs.run (runPa rt) (.initial mail line) ticks)) :=
  Runs.run_invariant (runPa_traced rt) ⟨0,rfl,.start⟩

end ManufacturingMas.Proofs.PlanningHistory
