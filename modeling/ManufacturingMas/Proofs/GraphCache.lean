import ManufacturingMas.Lib.Runs
import ManufacturingMas.Proofs.CycleEffects

/-! What the cache of compiled graphs does over many calls: whose cycle a call
runs, and how many graphs are kept. -/

namespace ManufacturingMas.Proofs.GraphCache
open Py Protocol Stateful CycleEffects

variable {σ : Type} {ob : Objects σ}

/-- The process: the module's graph cache and everything else. -/
structure Host (σ : Type) where
  cache : GraphCache
  world : World σ

abbrev GraphCall := CycleArgs × Dict

def call (ob : Objects σ) (h : Host σ) (c : GraphCall) : GraphCache × M σ Val :=
  invokeSraGraph .plain ob h.cache c.1 c.2

def step (ob : Objects σ) (h : Host σ) (c : GraphCall) : Host σ :=
  { cache := (call ob h c).1, world := finalState ((call ob h c).2 h.world) }

def threeSteps (agent : Nat) : List (AgentStep × Nat) :=
  [(.sense, agent), (.reason, agent), (.act, agent)]

/-- The call counts a cycle of `agent` alone and performs this agent's steps
alone: its sense at least, and all three if it returns. -/
def ActsOn (ob : Objects σ) (agent : Nat) (h : Host σ) (c : GraphCall) : Prop :=
  cycleCounts (step ob h c).world = (counted agent (ledger h.world)).1 ∧
  ∃ k, agentSteps (step ob h c).world =
      agentSteps h.world ++ (threeSteps agent).take (k + 1) ∧
    ∀ v w, (call ob h c).2 h.world = .ok v w → 2 ≤ k

/-- The call acts on the agent object it was made with. -/
def ActsOnOwn (ob : Objects σ) (h : Host σ) (c : GraphCall) : Prop := ActsOn ob c.1.agent h c

/-- The object the graph cached under a key was built for. -/
def cachedAgent (cache : GraphCache) (key : GraphKey) : Option Nat :=
  (Assoc.get cache key).map (·.agent)

/-- The graph cached under the call's key, if any, was built for the same object. -/
def OwnGraph (ob : Objects σ) (h : Host σ) (c : GraphCall) : Prop :=
  ∀ agent, cachedAgent h.cache (graphKey ob.agentId c.1) = some agent → agent = c.1.agent

theorem call_acts_on_captured (ob : Objects σ) (h : Host σ) (c : GraphCall) :
    ActsOn ob (cachedGraph ob.agentId h.cache c.1).2.agent h c := by
  obtain ⟨k,hk,hall⟩ := runGraph_ledger ob (cachedGraph ob.agentId h.cache c.1).2 c.2 h.world
  -- from the third step on, taking more of the steps takes nothing more
  rcases k with _ | _ | k <;> simp only [List.take_succ_cons, List.take_nil] at hk
  all_goals
    refine ⟨congrArg Prod.fst hk,_,?_,hall⟩
    refine (congrArg Prod.snd hk).trans ?_
    simp [stepped, counted, threeSteps, ledger]

theorem actsOnOwn_iff (h : Host σ) (c : GraphCall) : ActsOnOwn ob h c ↔ OwnGraph ob h c := by
  have hacts := call_acts_on_captured ob h c
  constructor
  · intro hacted agent hcached
    obtain ⟨hown,_⟩ := hacted
    obtain ⟨captured,hget,rfl⟩ := Option.map_eq_some_iff.mp hcached
    have hagent : (cachedGraph ob.agentId h.cache c.1).2 = captured := by
      simp only [cachedGraph, hget]
    rw [hagent] at hacts
    by_contra hne
    have hcount := congrFun (hown.symm.trans hacts.1) c.1.agent
    simp [counted, Function.update_of_ne (Ne.symm hne)] at hcount
  · intro hown
    have hagent : (cachedGraph ob.agentId h.cache c.1).2.agent = c.1.agent := by
      unfold cachedGraph
      split
      · rename_i captured hget
        exact hown captured.agent (by simp [cachedAgent, hget])
      · rfl
    rw [hagent] at hacts
    exact hacts

theorem cachedAgent_step (h : Host σ) (c : GraphCall) (key : GraphKey) :
    cachedAgent (step ob h c).cache key =
      if key = graphKey ob.agentId c.1 then
        some ((cachedAgent h.cache key).getD c.1.agent)
      else cachedAgent h.cache key := by
  unfold cachedAgent step call invokeSraGraph cachedGraph
  by_cases hkey : key = graphKey ob.agentId c.1
  · subst hkey
    cases hc : Assoc.get h.cache (graphKey ob.agentId c.1) <;> simp [hc]
  · cases hc : Assoc.get h.cache (graphKey ob.agentId c.1) <;>
      simp [hkey, Assoc.get_set_of_ne]

/-- Two calls under one key are for one agent object. -/
def SameKeySameAgent (ob : Objects σ) (c d : GraphCall) : Prop :=
  graphKey ob.agentId c.1 = graphKey ob.agentId d.1 → c.1.agent = d.1.agent

theorem ownGraph_along_iff (h : Host σ) (calls : List GraphCall) :
    Runs.Along (step ob) (OwnGraph ob) h calls ↔
      (∀ c ∈ calls, OwnGraph ob h c) ∧ calls.Pairwise (SameKeySameAgent ob) := by
  induction calls generalizing h with
  | nil => simp
  | cons c calls ih =>
    rw [Runs.along_cons, ih, List.forall_mem_cons, List.pairwise_cons]
    have htail : OwnGraph ob h c → ∀ d ∈ calls,
        (OwnGraph ob (step ob h c) d ↔ OwnGraph ob h d ∧ SameKeySameAgent ob c d) := by
      intro hown d _
      simp only [OwnGraph, SameKeySameAgent, cachedAgent_step]
      by_cases hkey : graphKey ob.agentId d.1 = graphKey ob.agentId c.1
      · have hcached : (cachedAgent h.cache (graphKey ob.agentId c.1)).getD c.1.agent =
            c.1.agent := by
          cases hc : cachedAgent h.cache (graphKey ob.agentId c.1) with
          | none => rfl
          | some agent => exact hown agent hc
        simp only [hkey, ↓reduceIte, hcached, Option.some.injEq, forall_eq', forall_const]
        constructor
        · intro heq
          refine ⟨?_,heq⟩
          intro agent hc
          exact (hown agent hc).trans heq
        · intro h
          exact h.2
      · simp [hkey, Ne.symm hkey]
    constructor
    · intro h
      obtain ⟨hown,hrest,hpair⟩ := h
      refine ⟨⟨hown,?_⟩,?_,hpair⟩
      · intro d hd
        exact ((htail hown d hd).mp (hrest d hd)).1
      · intro d hd
        exact ((htail hown d hd).mp (hrest d hd)).2
    · intro h
      obtain ⟨⟨hown,hrest⟩,hhead,hpair⟩ := h
      refine ⟨hown,?_,hpair⟩
      intro d hd
      exact (htail hown d hd).mpr ⟨hrest d hd,hhead d hd⟩

/-- The call sequences on which every call acts on its own agent object are
those that never use one key for two objects. -/
theorem calls_act_on_own_iff (ob : Objects σ) (w : World σ) (calls : List GraphCall) :
    Runs.Along (step ob) (ActsOnOwn ob) { cache := [], world := w } calls ↔
      calls.Pairwise (SameKeySameAgent ob) := by
  rw [Runs.along_congr (fun _ => True) (fun _ _ _ => trivial)
    (fun h c _ => actsOnOwn_iff h c) trivial, ownGraph_along_iff]
  exact and_iff_right fun c _ agent h => by simp [cachedAgent] at h

/-- Two agent objects of one id, called one after the other: the second call
counts a cycle of the first object, and none of its own. -/
theorem second_object_not_run :
    let ob := SraEquivalence.stub
    let first : GraphCall := (⟨0,none,none,none⟩, [])
    let second : GraphCall := (⟨1,none,none,none⟩, [])
    let h := Runs.run (step ob) { cache := [], world := SraEquivalence.idleWorld } [first, second]
    cycleCounts h.world 0 = 2 ∧ cycleCounts h.world 1 = 0 ∧
      ¬ Runs.Along (step ob) (ActsOnOwn ob)
        { cache := [], world := SraEquivalence.idleWorld } [first, second] := by
  refine ⟨by decide +kernel,by decide +kernel,?_⟩
  rw [calls_act_on_own_iff]
  intro h
  have hsame := List.pairwise_pair.mp h rfl
  exact absurd hsame (by decide)

/-! ### One graph for each iteration of an agent loop -/

/-- The router and the broker a runtime passes in every iteration. -/
structure Runtime where
  router : Option Nat
  broker : Option Nat

/-- One iteration of an agent loop: its agent and snapshot, and the bound method
object that `self._log` evaluates to in it. -/
structure Iteration where
  agent : Nat
  log : Nat
  snapshot : Dict

def Runtime.args (rt : Runtime) (it : Iteration) : CycleArgs :=
  { agent := it.agent, router := rt.router, log := some it.log, broker := rt.broker }

/-- The call of `run_cycle_with_router` in an iteration, with the graph path enabled. -/
def iterate (ob : Objects σ) (rt : Runtime) (h : Host σ) (it : Iteration) : Host σ :=
  let (cache, cycle) := runCycleWithRouter true .plain ob h.cache (rt.args it) it.snapshot
  { cache := cache, world := finalState (cycle h.world) }

/-- The new bound method is none of those that cached closures keep alive. -/
def FreshLog (h : Host σ) (it : Iteration) : Prop :=
  ∀ entry ∈ h.cache, entry.2.log ≠ some it.log

/-- The ids of the agents that graphs are cached for. -/
def graphOwners (h : Host σ) : List String := h.cache.map (·.1.1)

/-- At most one compiled graph for each agent. -/
def OneGraphEach (h : Host σ) : Prop := (graphOwners h).Nodup

/-- A graph is cached under the key of the arguments it captured. -/
def Keyed (ob : Objects σ) (h : Host σ) : Prop :=
  ∀ entry ∈ h.cache, entry.1 = graphKey ob.agentId entry.2

theorem set_new {κ α : Type} [DecidableEq κ] (d : List (κ × α)) (k : κ) (v : α)
    (h : ∀ entry ∈ d, entry.1 ≠ k) : Assoc.get d k = none ∧ Assoc.set d k v = d ++ [(k,v)] := by
  induction d with
  | nil => exact ⟨rfl,rfl⟩
  | cons p d ih =>
    obtain ⟨j,w⟩ := p
    have hj : j ≠ k := h (j,w) List.mem_cons_self
    obtain ⟨hget,hset⟩ := ih fun entry he => h entry (List.mem_cons_of_mem _ he)
    exact ⟨by simp [hj, hget],by simp [Assoc.set, hj, hset]⟩

/-- A fresh log never finds its key, so every iteration adds a graph. -/
theorem iterate_cache (rt : Runtime) (h : Host σ) (it : Iteration) (hkeyed : Keyed ob h)
    (hfresh : FreshLog h it) : (iterate ob rt h it).cache =
      h.cache ++ [(graphKey ob.agentId (rt.args it), rt.args it)] := by
  have hnew : ∀ entry ∈ h.cache, entry.1 ≠ graphKey ob.agentId (rt.args it) := by
    intro entry he hkey
    rw [hkeyed entry he] at hkey
    have hlog : idOf entry.2.log = idOf (some it.log) := congrArg (fun k => k.2.2.2) hkey
    cases hl : entry.2.log with
    | none => simp [hl, idOf] at hlog
    | some log =>
      rw [hl] at hlog
      exact hfresh entry he (hl.trans (congrArg some (Nat.succ.inj hlog)))
  obtain ⟨hget,hset⟩ := set_new h.cache _ (rt.args it) hnew
  simp [iterate, runCycleWithRouter, invokeSraGraph, cachedGraph, hget, hset]

theorem iterate_owners (rt : Runtime) (its : List Iteration) (h : Host σ) (hkeyed : Keyed ob h)
    (hfresh : Runs.Along (iterate ob rt) FreshLog h its) :
    graphOwners (Runs.run (iterate ob rt) h its) =
      graphOwners h ++ its.map (fun it => ob.agentId it.agent) := by
  induction its generalizing h with
  | nil => simp
  | cons it its ih =>
    have hcache := iterate_cache rt h it hkeyed hfresh.1
    have hkeyed' : Keyed ob (iterate ob rt h it) := by
      intro entry he
      rw [hcache] at he
      rcases List.mem_append.mp he with he | he
      · exact hkeyed entry he
      · rw [List.mem_singleton.mp he]
    rw [Runs.run_cons, ih (iterate ob rt h it) hkeyed' hfresh.2]
    simp [graphOwners, hcache, graphKey, Runtime.args]

/-- The cache holds at most one graph for each agent exactly as long as no agent
has run a second iteration. -/
theorem one_graph_each_iff (ob : Objects σ) (rt : Runtime) (w : World σ) (its : List Iteration)
    (hfresh : Runs.Along (iterate ob rt) FreshLog { cache := [], world := w } its) :
    OneGraphEach (Runs.run (iterate ob rt) { cache := [], world := w } its) ↔
      (its.map (fun it => ob.agentId it.agent)).Nodup := by
  unfold OneGraphEach
  rw [iterate_owners rt its { cache := [], world := w } (fun entry he => by cases he) hfresh]
  rfl

def noRouter : Runtime := ⟨none,none⟩

def idleHost : Host Unit := { cache := [], world := SraEquivalence.idleWorld }

/-- Agents with an id of their own. -/
def threeAgents : Objects Unit :=
  { SraEquivalence.stub with agentId := fun i => ["EA", "QA", "SA"].getD i "IA" }

theorem one_graph_each_first :
    OneGraphEach (Runs.run (iterate threeAgents noRouter) idleHost
      [⟨0,5,[]⟩, ⟨1,6,[]⟩, ⟨2,7,[]⟩]) := by
  have hsecond : FreshLog (Runs.run (iterate threeAgents noRouter) idleHost [⟨0,5,[]⟩])
      ⟨1,6,[]⟩ := by
    unfold FreshLog
    decide +kernel
  have hthird : FreshLog (Runs.run (iterate threeAgents noRouter) idleHost
      [⟨0,5,[]⟩, ⟨1,6,[]⟩]) ⟨2,7,[]⟩ := by
    unfold FreshLog
    decide +kernel
  exact (one_graph_each_iff threeAgents noRouter SraEquivalence.idleWorld
    [⟨0,5,[]⟩, ⟨1,6,[]⟩, ⟨2,7,[]⟩]
    ⟨fun _ he => absurd he List.not_mem_nil,hsecond,hthird,trivial⟩).mpr (by decide)

/-- The second iteration of one agent compiles and keeps a second graph. -/
theorem second_iteration_adds_graph :
    let its : List Iteration := [⟨0,5,[]⟩, ⟨0,6,[]⟩]
    let h := Runs.run (iterate SraEquivalence.stub noRouter) idleHost its
    Runs.Along (iterate SraEquivalence.stub noRouter) FreshLog idleHost its ∧
      graphOwners h = ["STUB", "STUB"] ∧ ¬ OneGraphEach h := by
  have howners : graphOwners (Runs.run (iterate SraEquivalence.stub noRouter) idleHost
      [⟨0,5,[]⟩, ⟨0,6,[]⟩]) = ["STUB", "STUB"] := by decide +kernel
  refine ⟨⟨fun _ he => absurd he List.not_mem_nil,?_,trivial⟩,howners,?_⟩
  · intro entry he
    obtain rfl : entry = (("STUB", 0, 0, 6), ⟨0,none,some 5,none⟩) := List.mem_singleton.mp he
    decide
  · unfold OneGraphEach
    rw [howners]
    decide

end ManufacturingMas.Proofs.GraphCache
