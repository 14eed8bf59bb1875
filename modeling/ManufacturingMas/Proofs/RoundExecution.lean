import ManufacturingMas.Proofs.RoundEffects
import ManufacturingMas.Proofs.RoundOrder

/-! Which agents execute which proposals at the end of a contract-net round. -/

namespace ManufacturingMas.Proofs.RoundExecution
open Py Protocol Agents Ranking RoundOrder RoundEffects

variable {σ : Type}

/-- Whatever it is asked, the agent raises, returns nothing, or a proposal in its own name. -/
def InOwnName (agent : Responder σ) : Prop :=
  ∀ cfp s proposal, (agent.handleCfp cfp s).1 = .ok (some proposal) → proposal ≠ [] →
    getD proposal "agent" .none = .str agent.agentId

/-! ### What a round stores -/

/-- The stored answers of the agents asked from the `i`-th deadline check on, each with
the id of the agent that gave it; none if a check finds the deadline passed. -/
def answersFrom (env : CnpEnv σ) (session : CNPSession) (cfp : Dict) :
    Nat → List (Responder σ) → σ → Option (List (String × Dict))
  | _, [], _ => some []
  | i, agent :: agents, s =>
    if agent.agentId = paId then answersFrom env session cfp i agents s
    else if env.expired i then none
    else
      let own := (offer env session cfp s agent).toList.map fun p => (agent.agentId, p)
      (answersFrom env session cfp (i + 1) agents (agent.handleCfp cfp s).2).map (own ++ ·)

/-- The stored answers of a round on `agents`. -/
def answers (env : CnpEnv σ) (snapshot : Dict) (w : CnpWorld σ) (agents : List (Responder σ)) :
    Option (List (String × Dict)) :=
  answersFrom env (collecting env) (callOf env snapshot w) 0 agents (announced env snapshot w).rest

theorem collectProposals_answers (env : CnpEnv σ) (session : CNPSession) (cfp : Dict)
    (agents : List (Responder σ)) (i : Nat) (proposals : List Dict) (w : CnpWorld σ) :
    ∃ w', collectProposals env session cfp i agents proposals w =
      .ok ((answersFrom env session cfp i agents w.rest).elim []
        fun stored => proposals ++ stored.map Prod.snd) w' := by
  induction agents generalizing i proposals w with
  | nil =>
    refine ⟨w,?_⟩
    simp [collectProposals, answersFrom]
    rfl
  | cons agent agents ih =>
    unfold answersFrom
    by_cases hpa : agent.agentId = paId
    · rw [if_pos hpa, collectProposals, if_pos hpa]
      exact ih i proposals w
    · rw [if_neg hpa]
      cases hexpired : env.expired i with
      | true =>
        refine ⟨w,?_⟩
        rw [collectProposals, if_neg hpa, if_pos hexpired]
        rfl
      | false =>
        rw [collectProposals_ask hexpired session cfp hpa]
        obtain ⟨w',hw'⟩ := ih (i + 1) (proposals ++ (offer env session cfp w.rest agent).toList)
          { w with rest := (agent.handleCfp cfp w.rest).2 }
        refine ⟨w',?_⟩
        rw [hw']
        cases hrest : answersFrom env session cfp (i + 1) agents (agent.handleCfp cfp w.rest).2 with
        | none => simp
        | some rest => simp [Function.comp_def]

/-- Clamping and evaluating an answer leave the name it is given in. -/
theorem acceptAnswer_agent {env : CnpEnv σ} {session : CNPSession} {raw : Option Dict}
    {stored : Dict} (h : acceptAnswer env session raw = .ok (some stored)) :
    ∃ proposal, raw = some proposal ∧ proposal ≠ [] ∧
      Assoc.get stored "agent" = Assoc.get proposal "agent" := by
  unfold acceptAnswer at h
  split at h
  · cases h
  · cases h
  · rename_i proposal hsome
    simp only [Traverse.bind_ok_iff] at h
    obtain ⟨speed,_,evaluated,hevaluated,hend⟩ := h
    cases hend
    refine ⟨proposal,rfl,hsome,?_⟩
    rw [get_evaluate hevaluated (by decide), Assoc.get_set_of_ne (by decide)]

theorem offer_agent {agent : Responder σ} (hown : InOwnName agent) {env : CnpEnv σ}
    {session : CNPSession} {cfp : Dict} {s : σ} {stored : Dict}
    (h : offer env session cfp s agent = some stored) :
    Assoc.get stored "agent" = some (.str agent.agentId) := by
  unfold offer at h
  split at h
  · cases h
  · split at h
    · rename_i accepted hok
      subst h
      obtain ⟨raw,hraw,hstored⟩ := Traverse.bind_ok_iff.mp hok
      obtain ⟨proposal,rfl,hsome,hagent⟩ := acceptAnswer_agent hstored
      have hname := hown cfp s proposal hraw hsome
      rw [hagent]
      unfold getD at hname
      cases hget : Assoc.get proposal "agent" with
      | none =>
        rw [hget] at hname
        cases hname
      | some v =>
        rw [hget] at hname
        exact congrArg some hname
    · cases h

/-- The answers of a round carry the names of their agents, which are asked in turn. -/
structure Named (agents : List (Responder σ)) (stored : List (String × Dict)) : Prop where
  asked : List.Sublist (stored.map Prod.fst) (agents.map (·.agentId))
  notPa : paId ∉ stored.map Prod.fst
  names : ∀ a ∈ stored, Assoc.get a.2 "agent" = some (.str a.1)

theorem answersFrom_named (env : CnpEnv σ) (session : CNPSession) (cfp : Dict)
    {agents : List (Responder σ)} (hown : ∀ a ∈ agents, InOwnName a) (i : Nat) (s : σ)
    {stored : List (String × Dict)} (h : answersFrom env session cfp i agents s = some stored) :
    Named agents stored := by
  induction agents generalizing i s stored with
  | nil =>
    cases h
    exact ⟨.slnil,List.not_mem_nil,fun a ha => absurd ha List.not_mem_nil⟩
  | cons agent agents ih =>
    have hrest := fun a ha => hown a (List.mem_cons_of_mem agent ha)
    unfold answersFrom at h
    split at h
    · obtain ⟨hasked,hnotPa,hnames⟩ := ih hrest i s h
      exact ⟨hasked.cons _,hnotPa,hnames⟩
    · rename_i hother
      split at h
      · cases h
      · obtain ⟨rest,hstored,rfl⟩ := Option.map_eq_some_iff.mp h
        obtain ⟨hasked,hnotPa,hnames⟩ := ih hrest _ _ hstored
        cases hoffer : offer env session cfp s agent with
        | none =>
          rw [Option.toList_none, List.map_nil, List.nil_append]
          exact ⟨hasked.cons _,hnotPa,hnames⟩
        | some proposal =>
          have hagent := offer_agent (hown agent List.mem_cons_self) hoffer
          rw [Option.toList_some, List.map_singleton, List.singleton_append]
          refine ⟨hasked.cons_cons _,?_,?_⟩
          · simp only [List.map_cons, List.mem_cons, not_or]
            exact ⟨Ne.symm hother,hnotPa⟩
          · intro a ha
            rcases List.mem_cons.mp ha with rfl | ha
            · exact hagent
            · exact hnames a ha

/-! ### Who executes what -/

/-- The proposal that an id is given to execute. -/
def assigned (ranked : List Dict) (agentId : String) : Option (String × Dict) :=
  if agentId = paId then none
  else (matching ranked agentId).head?.map fun proposal => (agentId, proposal)

theorem executeAccepted_executed (ranked : List Dict) (agents : List (Responder σ))
    (w : CnpWorld σ) :
    ∃ w', executeAccepted ranked agents w = .ok () w' ∧
      w'.executed = w.executed ++ (agents.map (·.agentId)).filterMap (assigned ranked) := by
  induction agents generalizing w with
  | nil => exact ⟨w,rfl,by simp⟩
  | cons agent agents ih =>
    rw [List.map_cons]
    by_cases hpa : agent.agentId = paId
    · have hnone : assigned ranked agent.agentId = none := if_pos hpa
      rw [executeAccepted, if_pos hpa, List.filterMap_cons_none hnone]
      exact ih w
    · have hassigned : assigned ranked agent.agentId =
          (matching ranked agent.agentId).head?.map fun proposal => (agent.agentId, proposal) :=
        if_neg hpa
      rw [executeAccepted, if_neg hpa]
      cases hmatching : matching ranked agent.agentId with
      | nil =>
        rw [hmatching] at hassigned
        rw [List.filterMap_cons_none hassigned]
        exact ih w
      | cons proposal _ =>
        rw [hmatching] at hassigned
        obtain ⟨w',hw',hexecuted⟩ := ih { w with
          rest := (agent.executeAcceptedProposal proposal w.rest).2
          executed := w.executed ++ [(agent.agentId, proposal)] }
        refine ⟨w',hw',?_⟩
        rw [List.filterMap_cons_some hassigned, hexecuted, List.append_assoc]
        rfl

/-- The elements of a list outside a part of it may be left out if they give nothing. -/
theorem filterMap_part {α β : Type} {f : α → Option β} {part xs : List α}
    (h : List.Sublist part xs) (hnodup : xs.Nodup) (hnone : ∀ x ∈ xs, x ∉ part → f x = none) :
    xs.filterMap f = part.filterMap f := by
  induction h with
  | slnil => rfl
  | @cons part xs x hpart ih =>
    obtain ⟨hx,hnodup⟩ := List.nodup_cons.mp hnodup
    have hfx : f x = none := hnone x List.mem_cons_self fun hmem => hx (hpart.mem hmem)
    rw [List.filterMap_cons_none hfx]
    exact ih hnodup fun y hy => hnone y (List.mem_cons_of_mem x hy)
  | @cons_cons part xs x hpart ih =>
    obtain ⟨hx,hnodup⟩ := List.nodup_cons.mp hnodup
    rw [List.filterMap_cons, List.filterMap_cons, ih hnodup]
    intro y hy hout
    apply hnone y (List.mem_cons_of_mem x hy)
    intro hmem
    rcases List.mem_cons.mp hmem with rfl | hmem
    · exact hx hy
    · exact hout hmem

/-- Among evaluated answers under distinct names there is one for each name. -/
theorem matching_pairs {pairs : List ((String × Dict) × Dict)}
    (hnames : ∀ p ∈ pairs, Assoc.get p.2 "agent" = some (.str p.1.1))
    (hnodup : (pairs.map (·.1.1)).Nodup) {p : (String × Dict) × Dict} (hp : p ∈ pairs) :
    matching (pairs.map Prod.snd) p.1.1 = [p.2] := by
  have hname : ∀ q ∈ pairs, ∀ id, (getD q.2 "agent" .none).isStr id = decide (q.1.1 = id) := by
    intro q hq id
    simp [getD, hnames q hq, Val.isStr]
  unfold matching
  induction pairs with
  | nil => cases hp
  | cons q pairs ih =>
    obtain ⟨hq,hrest⟩ := List.nodup_cons.mp hnodup
    have hrestName := fun r hr => hname r (List.mem_cons_of_mem q hr)
    rw [List.map_cons, List.filter_cons, hname q List.mem_cons_self]
    rcases List.mem_cons.mp hp with rfl | hp
    · have hnone : (pairs.map Prod.snd).filter (fun e => (getD e "agent" .none).isStr p.1.1) =
          [] := by
        rw [List.filter_eq_nil_iff]
        intro e he
        obtain ⟨r,hr,rfl⟩ := List.mem_map.mp he
        rw [hrestName r hr, decide_eq_true_eq]
        intro hsame
        exact hq (List.mem_map.mpr ⟨r,hr,hsame⟩)
      rw [hnone]
      simp
    · have hne : q.1.1 ≠ p.1.1 := fun hsame => hq (List.mem_map.mpr ⟨p,hp,hsame.symm⟩)
      rw [decide_eq_false hne]
      exact ih (fun r hr => hnames r (List.mem_cons_of_mem q hr)) hrest hp hrestName

/-! ### The round -/

/-- Every stored answer is executed once by its agent, as it is evaluated for the ranking;
nothing else is executed. -/
structure ExecutedOwn (printer : Printer) (agents : List (Responder σ))
    (stored executed : List (String × Dict)) : Prop where
  own : List.Forall₂ (fun answer execution => execution.1 = answer.1 ∧
    evaluateProposal printer answer.2 CNPConstraints.default.toDict = .ok execution.2)
    stored executed
  once : (executed.map Prod.fst).Nodup
  asked : List.Sublist (executed.map Prod.fst) (agents.map (·.agentId))
  notPa : paId ∉ executed.map Prod.fst

/-- Stored answers, each beside its evaluation. -/
structure Evaluated (printer : Printer) (pairs : List ((String × Dict) × Dict)) : Prop where
  evaluated : ∀ p ∈ pairs,
    evaluateProposal printer p.1.2 CNPConstraints.default.toDict = .ok p.2
  names : ∀ p ∈ pairs, Assoc.get p.2 "agent" = some (.str p.1.1)
  nodup : (pairs.map (·.1.1)).Nodup
  notPa : paId ∉ pairs.map (·.1.1)

section
variable {printer : Printer} {agents : List (Responder σ)} {stored : List (String × Dict)}
  {ranked : List Dict} {pairs : List ((String × Dict) × Dict)}

/-- The answers of a round are evaluated and ranked one by one. -/
theorem Named.evaluated (h : Named agents stored) (hids : (agents.map (·.agentId)).Nodup)
    (hranked : rankProposalsByComparison printer (stored.map Prod.snd)
      CNPConstraints.default.toDict = .ok ranked) :
    ∃ pairs, Evaluated printer pairs ∧ pairs.map Prod.fst = stored ∧
      ranked.Perm (pairs.map Prod.snd) := by
  obtain ⟨enriched,henriched,rfl⟩ := rank_ok hranked
  have heach := Traverse.mapM_ok_iff.mp henriched
  rw [List.forall₂_map_left_iff] at heach
  obtain ⟨hlength,hpairs⟩ := List.forall₂_iff_zip.mp heach
  have hfst : (stored.zip enriched).map Prod.fst = stored := List.map_fst_zip hlength.le
  have hsnd : (stored.zip enriched).map Prod.snd = enriched := List.map_snd_zip hlength.ge
  have hids' : (stored.zip enriched).map (·.1.1) = stored.map Prod.fst :=
    List.map_map.symm.trans (congrArg (List.map Prod.fst) hfst)
  have hevaluated : ∀ p ∈ stored.zip enriched,
      evaluateProposal printer p.1.2 CNPConstraints.default.toDict = .ok p.2 :=
    fun p hp => hpairs hp
  refine ⟨stored.zip enriched,⟨hevaluated,?_,?_,?_⟩,hfst,?_⟩
  · intro p hp
    rw [get_evaluate (hevaluated p hp) (by decide)]
    apply h.names
    rw [← hfst]
    exact List.mem_map_of_mem hp
  · rw [hids']
    exact h.asked.nodup hids
  · rw [hids']
    exact h.notPa
  · rw [hsnd]
    exact sortDescending_perm keyLt rankKey enriched

/-- The ranked proposals in an agent's name. -/
theorem matching_perm (h : ranked.Perm (pairs.map Prod.snd)) (agentId : String) :
    (matching ranked agentId).Perm (matching (pairs.map Prod.snd) agentId) :=
  h.filter _

theorem Evaluated.assigned_own (h : Evaluated printer pairs)
    (hranked : ranked.Perm (pairs.map Prod.snd)) {p : (String × Dict) × Dict} (hp : p ∈ pairs) :
    assigned ranked p.1.1 = some (p.1.1, p.2) := by
  have hone := matching_perm hranked p.1.1
  rw [matching_pairs h.names h.nodup hp, List.perm_singleton] at hone
  have hother : p.1.1 ≠ paId := by
    intro hpa
    apply h.notPa
    rw [← hpa]
    exact List.mem_map_of_mem hp
  unfold assigned
  rw [if_neg hother, hone]
  rfl

theorem Evaluated.assigned_none (h : Evaluated printer pairs)
    (hranked : ranked.Perm (pairs.map Prod.snd)) {agentId : String}
    (hout : agentId ∉ pairs.map (·.1.1)) : assigned ranked agentId = none := by
  have hempty : matching (pairs.map Prod.snd) agentId = [] := by
    unfold matching
    rw [List.filter_eq_nil_iff]
    intro e he
    obtain ⟨p,hp,rfl⟩ := List.mem_map.mp he
    simp only [getD, h.names p hp, Option.getD_some, Val.isStr, decide_eq_true_eq]
    intro hsame
    apply hout
    rw [← hsame]
    exact List.mem_map_of_mem hp
  have hmatching := matching_perm hranked agentId
  rw [hempty, List.perm_nil] at hmatching
  unfold assigned
  rw [hmatching]
  split <;> rfl

theorem executed_own (hids : (agents.map (·.agentId)).Nodup) (hnamed : Named agents stored)
    (hranked : rankProposalsByComparison printer (stored.map Prod.snd)
      CNPConstraints.default.toDict = .ok ranked) :
    ExecutedOwn printer agents stored
      ((agents.map (·.agentId)).filterMap (assigned ranked)) := by
  obtain ⟨pairs,hpairs,rfl,hperm⟩ := hnamed.evaluated hids hranked
  have hids' : (pairs.map Prod.fst).map Prod.fst = pairs.map (·.1.1) := List.map_map
  have hexecutedIds : (pairs.map fun p => (p.1.1, p.2)).map Prod.fst = pairs.map (·.1.1) :=
    List.map_map
  have hasked := hnamed.asked
  rw [hids'] at hasked
  have hexecuted : (agents.map (·.agentId)).filterMap (assigned ranked) =
      pairs.map fun p => (p.1.1, p.2) := by
    rw [filterMap_part hasked hids fun _ _ hout => hpairs.assigned_none hperm hout,
      List.filterMap_map, ← List.filterMap_eq_map]
    exact List.filterMap_congr fun p hp => hpairs.assigned_own hperm hp
  rw [hexecuted]
  refine ⟨?_,?_,?_,?_⟩
  · rw [List.forall₂_map_left_iff, List.forall₂_map_right_iff, List.forall₂_same]
    exact fun p hp => ⟨rfl,hpairs.evaluated p hp⟩
  · rw [hexecutedIds]
    exact hpairs.nodup
  · rw [hexecutedIds]
    exact hasked
  · rw [hexecutedIds]
    exact hpairs.notPa

end

/-- What a list of collected proposals is ranked to. -/
theorem roundOf_ranked {env : CnpEnv σ} {w : CnpWorld σ} {proposals : List Dict} {round : Round}
    (h : roundOf env w proposals = .ok (some round)) :
    rankProposalsByComparison env.printer proposals CNPConstraints.default.toDict =
      .ok round.ranked := by
  unfold roundOf at h
  split at h
  · cases h
  · obtain ⟨ranked,hranked,hend⟩ := Traverse.bind_ok_iff.mp h
    cases hend
    exact hranked

/-- Until it is opened, a round executes nothing, and it ranks the stored answers. -/
theorem openRound_stored {env : CnpEnv σ} {agents : List (Responder σ)} {snapshot : Dict}
    {w w' : CnpWorld σ} {opened : Option Round}
    (h : openRound env agents snapshot w = .ok opened w') :
    w'.executed = w.executed ∧ ∀ round, opened = some round →
      ∃ stored, answers env snapshot w agents = some stored ∧
        rankProposalsByComparison env.printer (stored.map Prod.snd)
          CNPConstraints.default.toDict = .ok round.ranked := by
  have hannounced : (announced env snapshot w).executed = w.executed :=
    broadcastCfp_keeps (π := (·.executed)) (fun _ _ => rfl) env _ _ snapshot _
  have hcollected := collectProposals_keeps (π := (·.executed)) (fun _ _ => rfl) env
    (collecting env) (callOf env snapshot w) 0 agents [] (announced env snapshot w)
  obtain ⟨w1,hw1⟩ := collectProposals_answers env (collecting env) (callOf env snapshot w) agents 0
    [] (announced env snapshot w)
  rw [hw1] at hcollected
  rw [openRound_eq] at h
  obtain ⟨proposals,_,hproposals,h⟩ := Stateful.bind_ok_iff.mp h
  rw [hw1] at hproposals
  injection hproposals with hproposals hworld
  subst hworld
  obtain ⟨hround,rfl⟩ := Stateful.ofExcept_ok_iff.mp h
  refine ⟨hcollected.trans hannounced,?_⟩
  rintro round rfl
  cases hanswers : answers env snapshot w agents with
  | none =>
    rw [← answers, hanswers] at hproposals
    subst hproposals
    cases hround
  | some stored =>
    rw [← answers, hanswers] at hproposals
    subst hproposals
    exact ⟨stored,rfl,roundOf_ranked hround⟩

/-- When a round settles, exactly the agents with a stored answer have executed, each its
own; a round without a strategy has nothing executed. -/
theorem responders_execute_own (env : CnpEnv σ) (llm : Option Intelligence.LLMClient)
    (agents : List (Responder σ)) (snapshot : Dict) (w : CnpWorld σ)
    (hids : (agents.map (·.agentId)).Nodup) (hown : ∀ a ∈ agents, InOwnName a) :
    (∀ strategy w', initiateCnp env llm agents snapshot w = .ok (some strategy) w' →
      ∃ stored executed, answers env snapshot w agents = some stored ∧
        ExecutedOwn env.printer agents stored executed ∧
        w'.executed = w.executed ++ executed) ∧
    ∀ w', initiateCnp env llm agents snapshot w = .ok none w' → w'.executed = w.executed := by
  constructor
  · intro strategy w' h
    rcases initiateCnp_ok h with ⟨hnone,_⟩ | ⟨round,_,w1,w2,_,hopen,_,hexecute,rfl⟩
    · cases hnone
    · obtain ⟨hkept,hranked⟩ := openRound_stored hopen
      obtain ⟨stored,hstored,hround⟩ := hranked round rfl
      have hnamed := answersFrom_named env _ _ hown 0 _ hstored
      obtain ⟨w3,hw3,hexecuted⟩ := executeAccepted_executed round.ranked agents w1
      rw [hexecute] at hw3
      cases hw3
      refine ⟨stored,_,hstored,executed_own hids hnamed hround,?_⟩
      exact hexecuted.trans (congrArg (· ++ _) hkept)
  · intro w' h
    rcases initiateCnp_ok h with ⟨_,hopen⟩ | ⟨_,_,_,_,hsome,_⟩
    · exact (openRound_stored hopen).1
    · cases hsome

/-- An agent that raises when it is to execute its proposal. -/
def stubborn : Responder Unit :=
  { bidder "EA" (.fin (1/2)) with executeAcceptedProposal := fun _ s => (.error .valueError, s) }

theorem responders_execute_own_stubborn :
    ∃ strategy w' stored executed,
      initiateCnp plainEnv none [stubborn, broken, bidder "QA" (.fin (9/10))] [] before =
        .ok (some strategy) w' ∧
      stored.map Prod.fst = ["EA", "QA"] ∧
      ExecutedOwn plainEnv.printer [stubborn, broken, bidder "QA" (.fin (9/10))] stored executed ∧
      w'.executed = executed := by
  have hsettles : (returned (initiateCnp plainEnv none
      [stubborn, broken, bidder "QA" (.fin (9/10))] [] before)).any Option.isSome = true := by
    decide +kernel
  have hasked : (answers plainEnv [] before
      [stubborn, broken, bidder "QA" (.fin (9/10))]).map (List.map Prod.fst) =
        some ["EA", "QA"] := by decide +kernel
  have hown : ∀ a ∈ [stubborn, broken, bidder "QA" (.fin (9/10))], InOwnName a := by
    intro a ha
    simp only [List.mem_cons, List.not_mem_nil, or_false] at ha
    rcases ha with rfl | rfl | rfl
    · intro cfp s proposal h _
      cases h
      rfl
    · intro cfp s proposal h _
      cases h
    · intro cfp s proposal h _
      cases h
      rfl
  have hround := (responders_execute_own plainEnv none
    [stubborn, broken, bidder "QA" (.fin (9/10))] [] before (by decide) hown).1
  cases hrun : initiateCnp plainEnv none [stubborn, broken, bidder "QA" (.fin (9/10))] []
      before with
  | error e w' =>
    rw [hrun] at hsettles
    cases hsettles
  | ok result w' =>
    cases result with
    | none =>
      rw [hrun] at hsettles
      cases hsettles
    | some strategy =>
      obtain ⟨stored,executed,hstored,hexecuted,hend⟩ := hround strategy w' hrun
      rw [hstored] at hasked
      exact ⟨strategy,w',stored,executed,rfl,Option.some.inj hasked,hexecuted,hend⟩

end ManufacturingMas.Proofs.RoundExecution
