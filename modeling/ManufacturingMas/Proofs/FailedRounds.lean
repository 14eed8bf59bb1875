import ManufacturingMas.Proofs.AlertsKept

/-! What a round that raises does to the rounds after it. -/

namespace ManufacturingMas.Proofs.FailedRounds
open Py Protocol Messaging Agents PlanningLoop Stateful CycleEffects PlanningHistory

variable {σ : Type}

/-! ### One iteration -/

/-- The cycle of an iteration, as it ends, and the cache it leaves. -/
def iterationCycle (rt : PaRuntime σ) (s : PaState σ) (t : PaTick σ) :
    GraphCache × EStateM.Result PyErr (World (PaWorld σ)) Val :=
  let cnp := { s.world.rest.cnp with rest := t.meanwhile s.world.rest.cnp.rest }
  let world := { s.world with rest := { s.world.rest with cnp := cnp } }
  let cycle := runCycleWithRouter t.useLanggraph .plain (rt.objects t.env.printer) s.cache
    (rt.args t) t.snapshot.dict
  (cycle.1, cycle.2 world)

/-- The decision of the iteration asks for a round. -/
def AsksForRound (rt : PaRuntime σ) (s : PaState σ) (t : PaTick σ) : Prop :=
  ∃ decision world, (iterationCycle rt s t).2 = .ok decision world ∧ wantsRound decision = true

/-- If the decision of the iteration asks for a round, that round does not raise. -/
def RoundReturns (rt : PaRuntime σ) (s : PaState σ) (t : PaTick σ) : Prop :=
  ∀ decision world, (iterationCycle rt s t).2 = .ok decision world → wantsRound decision = true →
    ∃ result cnp, initiateCnp t.env rt.llm (rt.agents.filter (·.agentId ≠ paId))
      (enrichSnapshotForAgents rt.adapter t.snapshot.dict) world.rest.cnp = .ok result cnp

theorem runPa_raised {rt : PaRuntime σ} {s : PaState σ} {t : PaTick σ} {e : PyErr}
    {world : World (PaWorld σ)} (h : (iterationCycle rt s t).2 = .error e world) :
    runPa rt s t = { s with cache := (iterationCycle rt s t).1, world := world } := by
  unfold iterationCycle at h ⊢
  dsimp only at h
  unfold runPa
  dsimp only
  rw [h]

theorem runPa_decided {rt : PaRuntime σ} {s : PaState σ} {t : PaTick σ} {decision : Val}
    {world : World (PaWorld σ)} (h : (iterationCycle rt s t).2 = .ok decision world) :
    runPa rt s t =
      if wantsRound decision && !s.cnpInProgress then
        startRound rt t { s with cache := (iterationCycle rt s t).1, world := world }
      else { s with cache := (iterationCycle rt s t).1, world := world } := by
  unfold iterationCycle at h ⊢
  dsimp only at h
  unfold runPa
  dsimp only
  rw [h]

/-! ### The rounds that have begun -/

def isBegin : PaEvent → Bool
  | .began _ _ => true
  | _ => false

def roundsBegun (s : PaState σ) : Nat := s.world.rest.history.countP isBegin

/-- The rounds begun, as a cycle sees them. -/
def begun (w : World (PaWorld σ)) : Nat := (agentView w).2.countP isBegin

theorem begun_of_view {α : Type} {x : M (PaWorld σ) α} (h : Keeps agentView x) : Keeps begun x :=
  h.map fun p => p.2.countP isBegin

theorem objects_begun (rt : PaRuntime σ) (printer : Printer) :
    CallsKeep begun .plain (rt.objects printer) where
  route _ _ _ _ := begun_of_view (onMail_view _ _)
  log _ _ _ _ := begun_of_view (onMail_view _ _)
  deliver _ _ := begun_of_view (onMail_view _ _)

theorem sense_begun (rt : PaRuntime σ) (printer : Printer) (agent : Nat) (snapshot : Dict) :
    Keeps begun (perform (.sense agent) ((rt.objects printer).sense agent snapshot)) := by
  intro w
  change (w.rest.history ++ [PaEvent.sensed _]).countP isBegin = _
  rw [List.countP_append]
  rfl

theorem reason_begun (rt : PaRuntime σ) (printer : Printer) (agent : Nat) (obs : Val) :
    Keeps begun (perform (.reason agent) ((rt.objects printer).reason agent obs)) := by
  intro w
  have hcount : (w.rest.history ++ [PaEvent.reasoned w.rest.cnp.pa.lastCnpCycle obs.asDict
      (w.rest.cnp.pa.reason printer obs.asDict)]).countP isBegin =
      w.rest.history.countP isBegin := by
    rw [List.countP_append]
    rfl
  unfold perform
  split
  · rename_i h
    injection h with _ hrest
    subst hrest
    exact hcount
  · rename_i h
    injection h with _ hrest
    subst hrest
    exact hcount

theorem sequential_begun (rt : PaRuntime σ) (printer : Printer) (args : CycleArgs)
    (snapshot : Dict) : Keeps begun (runSraSequential (rt.objects printer) args snapshot) := by
  unfold runSraSequential
  dsimp only
  refine (begun_of_view (assign_view _ _)).bind fun _ => ?_
  refine (begun_of_view (assign_view _ _)).bind fun _ => ?_
  refine (begun_of_view (assign_view _ _)).bind fun _ => ?_
  refine (sense_begun rt printer _ _).bind fun _ => ?_
  refine (addNewAlerts_keeps _).bind fun _ => ?_
  refine (keeps_ofExcept _).bind fun _ => ?_
  refine (begun_of_view (assign_view _ _)).bind fun _ => ?_
  refine (consultRouter_keeps (objects_begun rt printer) _ _).bind fun _ => ?_
  refine (reason_begun rt printer _ _).bind fun _ => ?_
  refine (begun_of_view (recordDecision_view _ _)).bind fun _ => ?_
  refine (begun_of_view (assign_view _ _)).bind fun _ => ?_
  apply Keeps.bind
  · exact fun _ => rfl
  · intro _
    refine (begun_of_view (assign_view _ _)).bind fun _ => ?_
    exact keeps_pure _

/-- No cycle begins a round itself. -/
theorem cycle_begun (rt : PaRuntime σ) (t : PaTick σ) (cache : GraphCache) :
    Keeps begun (runCycleWithRouter t.useLanggraph .plain (rt.objects t.env.printer) cache
      (rt.args t) t.snapshot.dict).2 := by
  unfold runCycleWithRouter
  split
  · unfold invokeSraGraph
    dsimp only
    rw [SraEquivalence.runGraph_eq_sequential (senses_dict rt t.env.printer _)]
    apply (sequential_begun rt t.env.printer _ t.snapshot.dict).tryCatch
    intro _
    exact sequential_begun rt t.env.printer _ t.snapshot.dict
  · exact sequential_begun rt t.env.printer _ t.snapshot.dict

theorem iterationCycle_begun (rt : PaRuntime σ) (s : PaState σ) (t : PaTick σ) :
    begun (finalState (iterationCycle rt s t).2) = roundsBegun s :=
  cycle_begun rt t s.cache _

theorem startRound_begun (rt : PaRuntime σ) (t : PaTick σ) (s : PaState σ) :
    roundsBegun (startRound rt t s) = roundsBegun s + 1 := by
  have hhistory := congrArg Prod.snd (startRound_view rt t s)
  change (startRound rt t s).world.rest.history = _ ++ _ at hhistory
  unfold roundsBegun
  rw [hhistory, List.countP_append]
  rfl

/-! ### Steps with the flag clear, and with the flag set -/

/-- The flag of a round that has been held tells whether it raised. -/
theorem startRound_flag (rt : PaRuntime σ) (t : PaTick σ) (s : PaState σ) :
    (startRound rt t s).cnpInProgress = false ↔
      ∃ result cnp, initiateCnp t.env rt.llm (rt.agents.filter (·.agentId ≠ paId))
        (enrichSnapshotForAgents rt.adapter t.snapshot.dict) s.world.rest.cnp = .ok result cnp := by
  unfold startRound
  dsimp only
  cases initiateCnp t.env rt.llm (rt.agents.filter (·.agentId ≠ paId))
    (enrichSnapshotForAgents rt.adapter t.snapshot.dict) s.world.rest.cnp with
  | error e cnp => simp
  | ok result cnp =>
    cases result with
    | none => simp
    | some strategy => cases strategy <;> simp

/-- With the flag clear, an iteration leaves it clear exactly if its round does not raise. -/
theorem runPa_clear_iff {rt : PaRuntime σ} {s : PaState σ} {t : PaTick σ}
    (hclear : s.cnpInProgress = false) :
    (runPa rt s t).cnpInProgress = false ↔ RoundReturns rt s t := by
  unfold RoundReturns
  cases hcycle : (iterationCycle rt s t).2 with
  | error e world =>
    rw [runPa_raised hcycle]
    simp [hclear]
  | ok decision world =>
    rw [runPa_decided hcycle]
    by_cases hwants : wantsRound decision = true
    · rw [if_pos (by simp [hwants, hclear]), startRound_flag]
      constructor
      · rintro h _ _ heq _
        cases heq
        exact h
      · intro h
        exact h decision world rfl hwants
    · rw [if_neg (by simp [hwants])]
      refine iff_of_true hclear ?_
      rintro _ _ heq hwants'
      cases heq
      exact absurd hwants' hwants

/-- With the flag clear, a decision for a round starts one. -/
theorem runPa_starts {rt : PaRuntime σ} {s : PaState σ} {t : PaTick σ}
    (hclear : s.cnpInProgress = false) (hasks : AsksForRound rt s t) :
    roundsBegun (runPa rt s t) = roundsBegun s + 1 := by
  obtain ⟨decision,world,hcycle,hwants⟩ := hasks
  have hbegun := iterationCycle_begun rt s t
  rw [hcycle] at hbegun
  rw [runPa_decided hcycle, if_pos (by simp [hwants, hclear]), startRound_begun]
  exact congrArg (· + 1) hbegun

/-- With the flag set, an iteration leaves it set and starts no round. -/
theorem runPa_stuck {rt : PaRuntime σ} {s : PaState σ} (t : PaTick σ)
    (hset : s.cnpInProgress = true) :
    (runPa rt s t).cnpInProgress = true ∧ roundsBegun (runPa rt s t) = roundsBegun s := by
  have hbegun := iterationCycle_begun rt s t
  cases hcycle : (iterationCycle rt s t).2 with
  | error e world =>
    rw [hcycle] at hbegun
    rw [runPa_raised hcycle]
    exact ⟨hset,hbegun⟩
  | ok decision world =>
    rw [hcycle] at hbegun
    rw [runPa_decided hcycle, if_neg (by simp [hset])]
    exact ⟨hset,hbegun⟩

/-! ### Any number of iterations -/

/-- Between iterations the flag is clear, and every decision for a round starts one. -/
structure NeverDisabled (rt : PaRuntime σ) (s : PaState σ) (ticks : List (PaTick σ)) : Prop where
  clear : Runs.Always (runPa rt) (fun s => s.cnpInProgress = false) s ticks
  starts : Runs.Along (runPa rt) (fun s t =>
    AsksForRound rt s t → roundsBegun (runPa rt s t) = roundsBegun s + 1) s ticks

/-- After a round that raised no iteration starts another one. -/
theorem stuck_forever {rt : PaRuntime σ} {s : PaState σ} (hset : s.cnpInProgress = true)
    (ticks : List (PaTick σ)) :
    (Runs.run (runPa rt) s ticks).cnpInProgress = true ∧
      roundsBegun (Runs.run (runPa rt) s ticks) = roundsBegun s := by
  have hkeep : ∀ s' t, s'.cnpInProgress = true ∧ roundsBegun s' = roundsBegun s →
      (runPa rt s' t).cnpInProgress = true ∧ roundsBegun (runPa rt s' t) = roundsBegun s := by
    rintro s' t ⟨hset',hbegun⟩
    obtain ⟨hflag,hsame⟩ := runPa_stuck t hset'
    exact ⟨hflag,hsame.trans hbegun⟩
  exact Runs.run_invariant hkeep ⟨hset,rfl⟩

theorem starts_of_clear {rt : PaRuntime σ} {s : PaState σ} {ticks : List (PaTick σ)}
    (h : Runs.Always (runPa rt) (fun s => s.cnpInProgress = false) s ticks) :
    Runs.Along (runPa rt) (fun s t =>
      AsksForRound rt s t → roundsBegun (runPa rt s t) = roundsBegun s + 1) s ticks := by
  induction ticks generalizing s with
  | nil => trivial
  | cons t ticks ih => exact ⟨runPa_starts h.1,ih h.2⟩

/-- Rounds are never disabled exactly in the runs in which no round raises. -/
theorem never_disabled_iff (rt : PaRuntime σ) (mail : Mail σ) (line : List Machines.WorkCenter)
    (ticks : List (PaTick σ)) :
    NeverDisabled rt (.initial mail line) ticks ↔
      Runs.Along (runPa rt) (RoundReturns rt) (.initial mail line) ticks := by
  have hiff : Runs.Always (runPa rt) (fun s => s.cnpInProgress = false) (.initial mail line) ticks ↔
      Runs.Along (runPa rt) (RoundReturns rt) (.initial mail line) ticks :=
    Runs.always_iff_along (fun _ => True) (fun _ _ _ => trivial)
      (fun _ _ _ hclear => runPa_clear_iff hclear) trivial rfl
  constructor
  · intro h
    exact hiff.mp h.clear
  · intro h
    exact ⟨hiff.mpr h,starts_of_clear (hiff.mpr h)⟩

/-- A proposal with a cost that is zero at first, and then is looked up under its alias. -/
def overflowing : Dict :=
  [("agent", .str "EA"), ("proposal_metrics", .dict [("expected_cost", .str "0"),
    ("cost_estimate", .int (10 ^ 400))])]

def bidder : Responder (Mail Unit) :=
  { agentId := "EA"
    handleCfp := fun _ mail => (.ok (some overflowing), mail)
    executeAcceptedProposal := fun _ mail => (.ok (), mail) }

/-- The first round raises when it ranks the proposal; the second is never started. -/
theorem failed_round_disables :
    ¬ NeverDisabled { AlertsKept.alone with agents := [bidder] } (.initial ⟨[],()⟩ [])
      [AlertsKept.tickAt 11 [AlertsKept.breakdownAlert],
        AlertsKept.tickAt 30 [AlertsKept.breakdownAlert]] := by
  intro h
  have hclear := h.clear.2.first
  revert hclear
  decide +kernel

end ManufacturingMas.Proofs.FailedRounds
