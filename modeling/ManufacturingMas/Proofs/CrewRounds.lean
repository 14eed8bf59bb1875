import ManufacturingMas.Proofs.CrewOffers
import ManufacturingMas.Proofs.RoundEffects

/-! A contract-net round among the five agents: what its strategy can be, and what it leaves
of the agents. -/

namespace ManufacturingMas.Proofs.CrewRounds
open Py Protocol Intelligence Agents PlanningLoop CrewLoops Stateful RoundOrder RoundExecution
  RoundEffects StrategyAgreement Bids CrewOffers

/-! ### Asking agents that answer without acting -/

section
variable {σ τ : Type} {env : CnpEnv σ} {f : σ → τ}

theorem collectProposals_rest {agents : List (Responder σ)}
    (hagents : ∀ a ∈ agents, ∀ cfp s, f (a.handleCfp cfp s).2 = f s) (session : CNPSession)
    (cfp : Dict) (i : Nat) (proposals : List Dict) :
    Keeps (fun w : CnpWorld σ => f w.rest) (collectProposals env session cfp i agents proposals) := by
  induction agents generalizing i proposals with
  | nil => exact keeps_pure _
  | cons agent agents ih =>
    obtain ⟨hagent,hrest⟩ := List.forall_mem_cons.mp hagents
    unfold collectProposals
    split
    · exact ih hrest i proposals
    · split
      · exact keeps_pure _
      · refine (keeps_modifyGet fun w => hagent cfp w.rest).bind fun raw => ?_
        split
        · exact ih hrest _ _
        · exact ih hrest _ _

theorem broadcastCfp_rest
    (hquiet : ∀ publish, env.publishCfp = some publish → ∀ body s, f (publish body s) = f s)
    (session : CNPSession) (situation : String) (snapshot : Dict) :
    Keeps (fun w : CnpWorld σ => f w.rest) (broadcastCfp env session situation snapshot) := by
  unfold broadcastCfp
  split
  · exact keeps_pure _
  · rename_i publish hpublish
    exact fun w => hquiet publish hpublish _ w.rest

/-- Opening a round changes nothing that neither the answers of its agents nor its
publication change. -/
theorem openRound_rest {agents : List (Responder σ)}
    (hagents : ∀ a ∈ agents, ∀ cfp s, f (a.handleCfp cfp s).2 = f s)
    (hquiet : ∀ publish, env.publishCfp = some publish → ∀ body s, f (publish body s) = f s)
    (snapshot : Dict) : Keeps (fun w : CnpWorld σ => f w.rest) (openRound env agents snapshot) := by
  unfold openRound
  refine Keeps.bind (fun _ => rfl) fun _ => ?_
  refine Keeps.bind (fun _ => rfl) fun w => ?_
  refine (broadcastCfp_rest hquiet _ _ _).bind fun _ => ?_
  refine (collectProposals_rest hagents _ _ _ _).bind fun proposals => ?_
  split
  · exact keeps_pure _
  · exact (keeps_ofExcept _).bind fun _ => keeps_pure _

/-- Every agent but the planning agent is given the first proposal in its name. -/
def executeOne (ranked : List Dict) (rest : σ) (agent : Responder σ) : σ :=
  match assigned ranked agent.agentId with
  | some (_, proposal) => (agent.executeAcceptedProposal proposal rest).2
  | none => rest

theorem executeAccepted_rest (ranked : List Dict) (agents : List (Responder σ)) (w : CnpWorld σ) :
    (finalState (executeAccepted ranked agents w)).rest =
      agents.foldl (executeOne ranked) w.rest := by
  induction agents generalizing w with
  | nil => rfl
  | cons agent agents ih =>
    rw [List.foldl_cons]
    unfold executeAccepted executeOne assigned
    by_cases hpa : agent.agentId = paId
    · rw [if_pos hpa, if_pos hpa]
      exact ih w
    · rw [if_neg hpa, if_neg hpa]
      cases matching ranked agent.agentId with
      | nil => exact ih w
      | cons proposal _ => exact ih _

end

/-! ### The crew's answers -/

/-- The call's publication fills inboxes only. -/
def Quiet (env : CnpEnv (Mail Crew)) : Prop :=
  ∀ publish, env.publishCfp = some publish → ∀ body mail, (publish body mail).others = mail.others

/-- The answer of a member, which it always has. -/
def answerOf (printer : Printer) (c : Crew) (m : Member) : Dict :=
  match c.handleCfp printer m with
  | .ok p => p
  | .error _ => []

def crewOffer (printer : Printer) (c : Crew) (m : Member) : Offer :=
  offerOf c m (answerOf printer c m)

variable {env : CnpEnv (Mail Crew)} {session : CNPSession} {c : Crew}

theorem answerOf_sound (printer : Printer) (c : Crew) (m : Member) :
    c.handleCfp printer m = .ok (answerOf printer c m) ∧ (crewOffer printer c m).Sound ∧
      Particulars c m (answerOf printer c m) := by
  obtain ⟨p,hp,hsound,hparticulars⟩ := member_offer printer c m
  have hanswer : answerOf printer c m = p := by
    unfold answerOf
    rw [hp]
  unfold crewOffer
  rw [hanswer]
  exact ⟨hp,hsound,hparticulars⟩

theorem agentId_ne_pa (m : Member) : m.agentId ≠ paId := by
  cases m <;> decide

theorem agentId_injective {m m' : Member} (h : m.agentId = m'.agentId) : m = m' := by
  revert h
  cases m <;> cases m' <;> decide

theorem agentIds_nodup : (members.map Member.agentId).Nodup := by decide

theorem offers_sound (printer : Printer) (c : Crew) :
    ∀ o ∈ members.map (crewOffer printer c), o.Sound := by
  intro o ho
  obtain ⟨m,_,rfl⟩ := List.mem_map.mp ho
  exact (answerOf_sound printer c m).2.1

theorem ask_member (printer : Printer) (m : Member) (cfp : Dict) (mail : Mail Crew) :
    (m.responder printer).handleCfp cfp mail =
      (.ok (some (answerOf printer mail.others m)), mail) := by
  change ((mail.others.handleCfp printer m).map some, mail) = _
  rw [(answerOf_sound printer mail.others m).1]
  rfl

/-- Answering a call changes no member. -/
theorem responders_answer (printer : Printer) :
    ∀ a ∈ responders printer, ∀ cfp mail, (a.handleCfp cfp mail).2.others = mail.others := by
  intro a ha cfp mail
  obtain ⟨m,_,rfl⟩ := List.mem_map.mp ha
  rw [ask_member]

/-- Each member that is asked in time has its offer stored. -/
theorem answersFrom_crew (hlimits : session.constraints = .default) (cfp : Dict) {ms : List Member}
    {i : Nat} {mail : Mail Crew} {stored : List (String × Dict)}
    (h : answersFrom env session cfp i (ms.map fun m => m.responder env.printer) mail =
      some stored) :
    List.Forall₂ (Accepted env session) (ms.map (crewOffer env.printer mail.others))
      (stored.map Prod.snd) := by
  induction ms generalizing i stored with
  | nil =>
    cases h
    exact .nil
  | cons m ms ih =>
    have hother : (m.responder env.printer).agentId ≠ paId := agentId_ne_pa m
    have hsound : (crewOffer env.printer mail.others m).Sound :=
      (answerOf_sound env.printer mail.others m).2.1
    obtain ⟨e,he,hstored⟩ : ∃ e, Accepted env session (crewOffer env.printer mail.others m) e :=
      Bid.accepted hsound hlimits
    have hoffer : offer env session cfp mail (m.responder env.printer) = some e := by
      have haccepted : acceptAnswer env session (some (answerOf env.printer mail.others m)) =
          .ok (some e) := he
      unfold offer
      rw [if_neg hother, ask_member]
      simp only [bind, Except.bind, haccepted]
    rw [List.map_cons] at h
    unfold answersFrom at h
    rw [if_neg hother, hoffer, ask_member] at h
    split at h
    · cases h
    · obtain ⟨rest,hrest,rfl⟩ := Option.map_eq_some_iff.mp h
      exact .cons ⟨he,hstored⟩ (ih hrest)

theorem announced_others (hquiet : Quiet env) (snapshot : Dict) (w : CnpWorld (Mail Crew)) :
    (announced env snapshot w).rest.others = w.rest.others :=
  broadcastCfp_rest hquiet _ _ snapshot _

/-- The ranking of a round: the five offers, each once. -/
structure RankedCrew (printer : Printer) (c : Crew) (ranked enriched : List Dict) : Prop where
  perm : ranked.Perm enriched
  stored : List.Forall₂ Offer.StoredAs (members.map (crewOffer printer c)) enriched
  sorted : (∀ m, (crewOffer printer c m).Moderate) →
    Ranking.Ranked keyLt rankKey ranked

theorem openRound_crew (hquiet : Quiet env) {snapshot : Dict} {w w' : CnpWorld (Mail Crew)}
    {round : Round}
    (h : openRound env (responders env.printer) snapshot w = .ok (some round) w') :
    w'.rest.others = w.rest.others ∧ w'.executed = w.executed ∧
      ∃ enriched, RankedCrew env.printer w.rest.others round.ranked enriched := by
  have hrest := openRound_rest (f := fun mail : Mail Crew => mail.others)
    (responders_answer env.printer) hquiet snapshot w
  rw [h] at hrest
  obtain ⟨hexecuted,hstored⟩ := openRound_stored h
  obtain ⟨stored,hanswers,hranked⟩ := hstored round rfl
  have hlimits : (collecting env).constraints = .default := rfl
  have haccepted := answersFrom_crew hlimits _ hanswers
  rw [announced_others hquiet] at haccepted
  obtain ⟨ranked,enriched,hrank,hperm,hstoredAs,hsorted⟩ :=
    rank_offers (offers_sound env.printer w.rest.others) hlimits haccepted
  rw [hranked] at hrank
  cases hrank
  refine ⟨hrest,hexecuted,enriched,hperm,hstoredAs,fun hmoderate => hsorted fun o ho => ?_⟩
  obtain ⟨m,_,rfl⟩ := List.mem_map.mp ho
  exact hmoderate m

/-! ### What the members execute -/

/-- The crew without its logs of reasoning. -/
def unlogged (c : Crew) : Crew :=
  { ea := { c.ea with base := { c.ea.base with reasoningLog := [] } }
    qa := { c.qa with base := { c.qa.base with reasoningLog := [] } }
    sa := { c.sa with base := { c.sa.base with reasoningLog := [] } }
    da := { c.da with base := { c.da.base with reasoningLog := [] } }
    ia := { c.ia with base := { c.ia.base with reasoningLog := [] } } }

/-- The maintenance that a proposal names is only written to the log. -/
theorem executeMaintenance_keeps (printer : Printer) (needed : List Val) :
    Keeps (fun ea : EquipmentAgent => { ea with base := { ea.base with reasoningLog := [] } })
      (EquipmentAgent.executeMaintenance printer needed) := by
  induction needed with
  | nil => exact keeps_pure _
  | cons ma needed ih =>
    unfold EquipmentAgent.executeMaintenance
    refine (keeps_ofExcept _).bind fun station => (keeps_ofExcept _).bind fun action => ?_
    exact Keeps.bind (fun _ => rfl) fun _ => ih

theorem execute_unlogged (printer : Printer) (proposal : Dict) (c : Crew) (m : Member)
    (hm : m ≠ .qa) : unlogged (c.execute printer proposal m).2 = unlogged c := by
  cases m with
  | ea =>
    have hkept : Keeps (fun ea : EquipmentAgent =>
        { ea with base := { ea.base with reasoningLog := [] } })
        (EquipmentAgent.executeAcceptedProposal printer proposal) :=
      (keeps_ofExcept _).bind fun needed => executeMaintenance_keeps printer needed
    exact congrArg (fun ea => { unlogged c with ea := ea }) (hkept c.ea)
  | qa => exact absurd rfl hm
  | sa | da | ia => rfl

/-- The quality agent takes over the inspection that it proposed. -/
theorem execute_mode (printer : Printer) {proposal : Dict} {mode : String}
    (h : Assoc.get proposal "inspection_mode" = some (.str mode)) (c : Crew) :
    unlogged (c.execute printer proposal .qa).2 =
      { unlogged c with qa := { (unlogged c).qa with inspectionMode := mode } } := by
  unfold Crew.execute QualityAgent.executeAcceptedProposal
  dsimp only
  rw [getD_of_some h]
  rfl

theorem executeOne_unlogged (printer : Printer) (ranked : List Dict) (mail : Mail Crew) {m : Member}
    (hm : m ≠ .qa) :
    unlogged (executeOne ranked mail (m.responder printer)).others = unlogged mail.others := by
  unfold executeOne
  split
  · exact execute_unlogged printer _ mail.others m hm
  · rfl

theorem mem_members (m : Member) : m ∈ members := by
  cases m <;> decide

/-- Each member finds its own offer in the ranking, and no other in its name. -/
theorem RankedCrew.own {printer : Printer} {ranked enriched : List Dict}
    (h : RankedCrew printer c ranked enriched) (m : Member) :
    ∃ e ∈ ranked, matching ranked m.agentId = [e] ∧ (crewOffer printer c m).StoredAs e := by
  obtain ⟨e,he,hstored⟩ :=
    Traverse.exists_zip h.stored (List.mem_map_of_mem (mem_members m))
  have hids : ((members.map (crewOffer printer c)).map (·.agentId)).Nodup := by
    rw [List.map_map]
    exact agentIds_nodup
  exact ⟨e,h.perm.mem_iff.mpr (List.of_mem_zip he).2,
    matching_own (offers_sound printer c) hids h.perm h.stored he,hstored⟩

theorem RankedCrew.executed_mode {printer : Printer} {ranked enriched : List Dict}
    (h : RankedCrew printer c ranked enriched) (mail : Mail Crew) :
    unlogged (executeOne ranked mail (Member.qa.responder printer)).others =
      { unlogged mail.others with
        qa := { (unlogged mail.others).qa with inspectionMode := proposedMode c.qa.worstCpk } } := by
  obtain ⟨e,_,hmatching,hstored⟩ := h.own .qa
  have hassigned : assigned ranked (Member.qa.responder printer).agentId =
      some (Member.qa.agentId, e) := by
    have hother : (Member.qa.responder printer).agentId ≠ paId := agentId_ne_pa .qa
    unfold assigned
    rw [if_neg hother]
    exact congrArg (fun es => es.head?.map fun proposal => (Member.qa.agentId, proposal)) hmatching
  have hmode : Assoc.get e "inspection_mode" = some (.str (proposedMode c.qa.worstCpk)) :=
    (hstored.others _ (by decide)).trans (answerOf_sound printer c .qa).2.2.mode
  unfold executeOne
  rw [hassigned]
  exact execute_mode printer hmode mail.others

/-- Once all have executed what they offered, the inspection is what the quality agent
proposed; nothing else has changed but the logs. -/
theorem RankedCrew.executed {printer : Printer} {ranked enriched : List Dict}
    (h : RankedCrew printer c ranked enriched) {mail : Mail Crew} (hmail : mail.others = c) :
    unlogged ((responders printer).foldl (executeOne ranked) mail).others =
      { unlogged c with
        qa := { (unlogged c).qa with inspectionMode := proposedMode c.qa.worstCpk } } := by
  unfold responders members
  simp only [List.map_cons, List.map_nil, List.foldl_cons, List.foldl_nil]
  rw [executeOne_unlogged printer ranked _ (by decide),
    executeOne_unlogged printer ranked _ (by decide),
    executeOne_unlogged printer ranked _ (by decide), h.executed_mode,
    executeOne_unlogged printer ranked _ (by decide), hmail]

/-! ### The strategy -/

/-- What a member's stored offer says of the line: a speed within the limits, and full
inspection only from the quality agent. -/
structure Recommends (c : Crew) (m : Member) (e : Dict) : Prop where
  agent : Assoc.get e "agent" = some (.str m.agentId)
  speed : Assoc.get e "speed_recommendation" = some (.int (clampedSpeed (speedOf c m)))
  mode : Assoc.get e "inspection_mode" =
    if m = .qa then some (.str (proposedMode c.qa.worstCpk)) else none

theorem Recommends.of_stored {printer : Printer} {m : Member} {e : Dict}
    (h : (crewOffer printer c m).StoredAs e) : Recommends c m e := by
  obtain ⟨_,hsound,hparticulars⟩ := answerOf_sound printer c m
  refine ⟨?_,h.speed,?_⟩
  · exact (h.others _ (by decide)).trans hsound.agent
  · exact (h.others _ (by decide)).trans hparticulars.mode

theorem RankedCrew.recommends {printer : Printer} {ranked enriched : List Dict}
    (h : RankedCrew printer c ranked enriched) {e : Dict} (he : e ∈ ranked) :
    ∃ m, Recommends c m e ∧ (crewOffer printer c m).StoredAs e := by
  obtain ⟨o,ho,hstored⟩ := Traverse.exists_left h.stored (h.perm.mem_iff.mp he)
  obtain ⟨m,_,rfl⟩ := List.mem_map.mp ho
  exact ⟨m,.of_stored hstored,hstored⟩

/-- The speeds that a round of the crew can set. -/
def crewSpeeds : List ℤ := [70, 80, 90, 100]

theorem crewSpeeds_within {n : ℤ} (h : n ∈ crewSpeeds) : 40 ≤ n ∧ n ≤ 100 := by
  simp only [crewSpeeds, List.mem_cons, List.not_mem_nil, or_false] at h
  omega

/-- What a built strategy says: a speed, and full inspection only if the rules chose a quality
agent that asked for it. -/
structure Built (c : Crew) (strategy : Dict) : Prop where
  speed : ∃ n ∈ crewSpeeds, Assoc.get strategy "target_speed_pct" = some (.int n)
  full : isFullInspection (getD strategy "inspection_mode" (.str "")) = true ↔
    getD strategy "decision" .none = .str "rule_based" ∧
      getD strategy "best_agent" .none = .str "QA" ∧ c.qa.worstCpk < 1

theorem full_proposedMode (worst : ℚ) :
    isFullInspection (.str (proposedMode worst)) = true ↔ worst < 1 := by
  unfold proposedMode
  split
  · rename_i hlow
    exact iff_of_true (by decide) hlow
  · rename_i hnot
    exact iff_of_false (by decide) hnot

theorem Recommends.rules {m : Member} {best : Dict} (h : Recommends c m best) (cnpId : Nat)
    (others : List Dict) : Built c (buildStrategyRules cnpId (best :: others)) := by
  have hmode : getD (buildStrategyRules cnpId (best :: others)) "inspection_mode" (.str "") =
      getD best "inspection_mode" (.str "standard") := rfl
  have hagent : getD (buildStrategyRules cnpId (best :: others)) "best_agent" .none =
      getD best "agent" (.str "") := rfl
  have hdecision : getD (buildStrategyRules cnpId (best :: others)) "decision" .none =
      .str "rule_based" := rfl
  refine ⟨⟨_,clamped_speedOf c m,?_⟩,?_⟩
  · exact congrArg some (getD_of_some h.speed _)
  · rw [hmode, hagent, hdecision, getD_of_some h.agent]
    have hread := h.mode
    by_cases hqa : m = .qa
    · subst hqa
      rw [if_pos rfl] at hread
      rw [getD_of_some hread, full_proposedMode]
      exact ⟨fun hlow => ⟨rfl,rfl,hlow⟩,fun hall => hall.2.2⟩
    · rw [if_neg hqa] at hread
      rw [getD_of_none hread]
      refine iff_of_false (by decide) ?_
      rintro ⟨_,hname,_⟩
      exact hqa (agentId_injective (Val.str.inj hname))

/-- The solver's numbers come from one of the ranked proposals. -/
theorem numeric_of_best {ranked : List Dict} {numeric : Dict}
    (h : cnpNumericStrategy ranked = .ok numeric) (hranked : ranked ≠ []) :
    ∃ best ∈ ranked, ∃ speed, orOnBadNumber (intOf (recommended best)) 100 = .ok speed ∧
      Assoc.get numeric "target_speed_pct" = some (.int (clampedSpeed speed)) ∧
      Assoc.get numeric "inspection_mode" =
        some (solverLabel (getD best "inspection_mode" (.str "standard"))) := by
  unfold cnpNumericStrategy at h
  obtain ⟨keyed,hkeyed,h⟩ := Traverse.bind_ok_iff.mp h
  have heach := Traverse.mapM_ok_iff.mp hkeyed
  have hperm := Ranking.sortDescending_perm PyFloat.lt Prod.fst keyed
  split at h
  · rename_i hsorted
    rw [hsorted] at hperm
    rw [hperm.symm.eq_nil, List.forall₂_nil_right_iff] at heach
    exact absurd heach hranked
  · rename_i score best others hsorted
    obtain ⟨speed,hspeed,h⟩ := Traverse.bind_ok_iff.mp h
    rw [hsorted] at hperm
    obtain ⟨p,hp,hpair⟩ := Traverse.exists_left heach (hperm.mem_iff.mp List.mem_cons_self)
    obtain ⟨_,_,hsame⟩ := Traverse.bind_ok_iff.mp hpair
    cases hsame
    cases h
    exact ⟨best,hp,speed,hspeed,rfl,rfl⟩

theorem Built.of_solver {strategy : Dict} {n : ℤ} {label : Val} (hn : n ∈ crewSpeeds)
    (hspeed : Assoc.get strategy "target_speed_pct" = some (.int n))
    (hmode : Assoc.get strategy "inspection_mode" = some (solverLabel label))
    (hdecision : getD strategy "decision" .none ≠ .str "rule_based") : Built c strategy := by
  refine ⟨⟨n,hn,hspeed⟩,?_⟩
  rw [getD_of_some hmode, not_full_solverLabel]
  exact iff_of_false Bool.false_ne_true fun hall => hdecision hall.1

/-- A strategy of the client is the solver's, and says so. -/
theorem solver_parts {llm : LLMClient} {context : Dict} {proposals : List Dict} {solver : Dict}
    (h : llm.evaluateProposals context proposals = .ok (some solver)) :
    proposals ≠ [] ∧ (∃ numeric, cnpNumericStrategy proposals = .ok numeric) ∧
      getD solver "decision" .none ≠ .str "rule_based" := by
  unfold LLMClient.evaluateProposals at h
  split at h
  · cases h
  · rename_i hsome
    obtain ⟨numeric,hnumeric,h⟩ := Traverse.bind_ok_iff.mp h
    split at h
    · cases h
    · obtain ⟨rat,_,h⟩ := Traverse.bind_ok_iff.mp h
      cases h
      refine ⟨fun hnil => hsome (by rw [hnil]; rfl),⟨numeric,hnumeric⟩,?_⟩
      rw [getD_set_of_ne (by decide), getD_set_self]
      unfold LLMClient.decisionLabel
      split <;> simp

variable {ranked enriched : List Dict}

theorem RankedCrew.nonempty {printer : Printer} (h : RankedCrew printer c ranked enriched) :
    ∃ best others, ranked = best :: others := by
  obtain ⟨e,he,_⟩ := h.own .qa
  cases ranked with
  | nil => cases he
  | cons best others => exact ⟨best,others,rfl⟩

theorem RankedCrew.rules {printer : Printer} (h : RankedCrew printer c ranked enriched)
    (cnpId : Nat) : Built c (buildStrategyRules cnpId ranked) := by
  obtain ⟨best,others,rfl⟩ := h.nonempty
  obtain ⟨m,hm,_⟩ := h.recommends List.mem_cons_self
  exact hm.rules cnpId others

theorem RankedCrew.solver {printer : Printer} (h : RankedCrew printer c ranked enriched)
    {llm : LLMClient} {context solver : Dict}
    (hsolver : llm.evaluateProposals context ranked = .ok (some solver)) (cnpId : Nat) :
    Built c (Assoc.set solver "cnp_id" (.int cnpId)) := by
  obtain ⟨hranked,⟨numeric,hnumeric⟩,hdecision⟩ := solver_parts hsolver
  obtain ⟨best,hbest,speed,hread,htarget,hmode⟩ := numeric_of_best hnumeric hranked
  obtain ⟨m,hm,_⟩ := h.recommends hbest
  have hwithin := crewSpeeds_within (clamped_speedOf c m)
  have hspeed : speed = clampedSpeed (speedOf c m) := by
    unfold recommended at hread
    rw [getD_of_some hm.speed, intOf_speed hwithin.1 hwithin.2] at hread
    exact (Except.ok.inj hread).symm
  have hclamped : clampedSpeed speed = clampedSpeed (speedOf c m) := by
    rw [hspeed]
    unfold clampedSpeed
    omega
  have htarget' : Assoc.get (Assoc.set solver "cnp_id" (.int cnpId)) "target_speed_pct" =
      some (.int (clampedSpeed (speedOf c m))) := by
    rw [Assoc.get_set_of_ne (by decide), get_of_evaluateProposals hnumeric hsolver (by decide),
      htarget, hclamped]
  have hmode' : Assoc.get (Assoc.set solver "cnp_id" (.int cnpId)) "inspection_mode" =
      some (solverLabel (getD best "inspection_mode" (.str "standard"))) := by
    rw [Assoc.get_set_of_ne (by decide), get_of_evaluateProposals hnumeric hsolver (by decide),
      hmode]
  have hdecision' : getD (Assoc.set solver "cnp_id" (.int cnpId)) "decision" .none ≠
      .str "rule_based" := by
    rw [getD_set_of_ne (by decide)]
    exact hdecision
  exact Built.of_solver (clamped_speedOf c m) htarget' hmode' hdecision'

/-- By rules or by the solver, a strategy is built from what the crew recommends. -/
theorem RankedCrew.built {printer : Printer} (h : RankedCrew printer c ranked enriched)
    (env : CnpEnv (Mail Crew)) (llm : Option LLMClient) (cnpId : Nat) (snapshot : Dict) :
    Built c (buildStrategy env llm cnpId ranked snapshot) := by
  unfold buildStrategy
  split
  · split
    · unfold buildStrategyLlm
      split
      · rename_i result hresult
        split
        · exact h.rules cnpId
        · obtain ⟨context,_,hsolver⟩ := Traverse.bind_ok_iff.mp hresult
          exact h.solver hsolver cnpId
      · exact h.rules cnpId
    · exact h.rules cnpId
  · exact h.rules cnpId

/-- What a settled strategy says: its speed, and that full inspection alone needs approval. -/
structure Settled (c : Crew) (strategy : Dict) : Prop where
  speed : ∃ n ∈ crewSpeeds, Assoc.get strategy "target_speed_pct" = some (.int n)
  approval : ∃ approval, Assoc.get strategy "approval_required" = some (.bool approval) ∧
    (approval = true ↔ getD strategy "decision" .none = .str "rule_based" ∧
      getD strategy "best_agent" .none = .str "QA" ∧ c.qa.worstCpk < 1)

/-- The keys that settling a strategy sets. -/
def settledKeys : List String :=
  ["target_speed_pct", "constraints_applied", "protocol_version", "conversation_id",
    "approval_required", "operational_decision_card", "pa_report_lines"]

/-- The clamp leaves a speed of the crew as it is, and asks for approval by the inspection. -/
theorem settleRound_built {llm : Option LLMClient} {round : Round} {snapshot strategy : Dict}
    {n : ℤ} (hlimits : round.session.constraints = .default)
    (hspeed : Assoc.get (buildStrategy env llm round.cnpId round.ranked snapshot)
      "target_speed_pct" = some (.int n)) (hn : n ∈ crewSpeeds)
    (h : settleRound env llm round snapshot = .ok strategy) :
    Assoc.get strategy "target_speed_pct" = some (.int n) ∧
      Assoc.get strategy "approval_required" = some (.bool (isFullInspection
        (getD (buildStrategy env llm round.cnpId round.ranked snapshot)
          "inspection_mode" (.str "")))) ∧
      ∀ key, key ∉ settledKeys → Assoc.get strategy key =
        Assoc.get (buildStrategy env llm round.cnpId round.ranked snapshot) key := by
  obtain ⟨hlow,hhigh⟩ := crewSpeeds_within hn
  have hclamp : round.session.clampSpeed n = n := by
    unfold CNPSession.clampSpeed
    rw [hlimits]
    change max 40 (min 100 n) = n
    omega
  have hnotSlow : ¬ n < 70 := by
    simp only [crewSpeeds, List.mem_cons, List.not_mem_nil, or_false] at hn
    omega
  unfold settleRound at h
  simp only [Traverse.bind_ok_iff] at h
  obtain ⟨clamped,hclamped,card,_,lines,_,hend⟩ := h
  cases hend
  unfold CNPSession.clampStrategy CNPSession.strategySpeed at hclamped
  rw [getD_of_some hspeed, intOf_speed hlow hhigh] at hclamped
  simp only [orOnBadNumber, bind, Except.bind, pure, Except.pure, hclamp, Except.ok.injEq]
    at hclamped
  subst hclamped
  refine ⟨?_,?_,?_⟩
  · rw [Assoc.get_set_of_ne (by decide), Assoc.get_set_of_ne (by decide),
      Assoc.get_set_of_ne (by decide), Assoc.get_set_of_ne (by decide),
      Assoc.get_set_of_ne (by decide), Assoc.get_set_of_ne (by decide), Assoc.get_set_self]
  · rw [Assoc.get_set_of_ne (by decide), Assoc.get_set_of_ne (by decide), Assoc.get_set_self,
      decide_eq_false hnotSlow, Bool.false_or, getD_set_of_ne (by decide),
      getD_set_of_ne (by decide), getD_set_of_ne (by decide), getD_set_of_ne (by decide)]
  · intro key hkey
    simp only [settledKeys, List.mem_cons, List.not_mem_nil, or_false, not_or] at hkey
    obtain ⟨htarget,happlied,hversion,hconversation,happroval,hcard,hlines⟩ := hkey
    rw [Assoc.get_set_of_ne hlines, Assoc.get_set_of_ne hcard, Assoc.get_set_of_ne happroval,
      Assoc.get_set_of_ne hconversation, Assoc.get_set_of_ne hversion,
      Assoc.get_set_of_ne happlied, Assoc.get_set_of_ne htarget]

/-! ### The whole round -/

/-- Each member has executed the offer it made, as the round stored it. -/
def ExecutedOffers (printer : Printer) (c : Crew) (executed : List (String × Dict)) : Prop :=
  List.Forall₂ (fun (m : Member) (execution : String × Dict) => execution.1 = m.agentId ∧
    (crewOffer printer c m).StoredAs execution.2) members executed

theorem ExecutedOffers.ids {printer : Printer} {executed : List (String × Dict)}
    (h : ExecutedOffers printer c executed) :
    executed.map Prod.fst = members.map Member.agentId := by
  unfold ExecutedOffers at h
  generalize members = ms at h ⊢
  induction h with
  | nil => rfl
  | cons hfirst _ ih => rw [List.map_cons, List.map_cons, hfirst.1, ih]

theorem RankedCrew.executed_offers {printer : Printer} (h : RankedCrew printer c ranked enriched) :
    ExecutedOffers printer c
      (((responders printer).map (·.agentId)).filterMap (assigned ranked)) := by
  have hassigned : ∀ m : Member, ∃ e, assigned ranked m.agentId = some (m.agentId, e) ∧
      (crewOffer printer c m).StoredAs e := by
    intro m
    obtain ⟨e,_,hmatching,hstored⟩ := h.own m
    refine ⟨e,?_,hstored⟩
    unfold assigned
    rw [if_neg (agentId_ne_pa m), hmatching]
    rfl
  have hids : (responders printer).map (·.agentId) = members.map Member.agentId := List.map_map
  unfold ExecutedOffers
  rw [hids]
  induction members with
  | nil => exact .nil
  | cons m ms ih =>
    obtain ⟨e,he,hstored⟩ := hassigned m
    rw [List.map_cons, List.filterMap_cons_some he]
    exact .cons ⟨rfl,hstored⟩ ih

theorem openRound_executed (env : CnpEnv (Mail Crew)) (agents : List (Responder (Mail Crew)))
    (snapshot : Dict) : Keeps (fun w => w.executed) (openRound env agents snapshot) := by
  unfold openRound
  refine Keeps.bind (fun _ => rfl) fun _ => ?_
  refine Keeps.bind (fun _ => rfl) fun w => ?_
  refine Keeps.bind ?_ fun _ => ?_
  · exact fun w => broadcastCfp_keeps (π := fun w => w.executed) (fun _ _ => rfl) env _ _ snapshot w
  · refine Keeps.bind ?_ fun proposals => ?_
    · exact fun w => collectProposals_keeps (π := fun w => w.executed) (fun _ _ => rfl) env _ _ _ _ _ w
    · split
      · exact keeps_pure _
      · exact (keeps_ofExcept _).bind fun _ => keeps_pure _

/-- A round without a strategy ends where its opening ended. -/
theorem initiateCnp_final {env : CnpEnv (Mail Crew)} {llm : Option LLMClient}
    {agents : List (Responder (Mail Crew))} {snapshot : Dict} {w : CnpWorld (Mail Crew)}
    (h : ∀ strategy w', initiateCnp env llm agents snapshot w ≠ .ok (some strategy) w') :
    finalState (initiateCnp env llm agents snapshot w) =
      finalState (openRound env agents snapshot w) := by
  unfold initiateCnp at h ⊢
  rw [bind_apply]
  cases hopen : openRound env agents snapshot w with
  | error e w1 => rfl
  | ok opened w1 =>
    cases opened with
    | none => rfl
    | some round =>
      cases hsettle : settleRound env llm round snapshot with
      | error e =>
        dsimp only
        rw [bind_apply, hsettle]
        rfl
      | ok strategy =>
        obtain ⟨w2,hw2,_⟩ := executeAccepted_executed round.ranked agents w1
        refine absurd ?_ (h strategy
          { w2 with pa := { w2.pa with strategyLog := w2.pa.strategyLog ++ [strategy] } })
        refine bind_ok_iff.mpr ⟨_,w1,hopen,?_⟩
        refine bind_ok_iff.mpr ⟨strategy,w1,ofExcept_ok_iff.mpr ⟨hsettle,rfl⟩,?_⟩
        exact bind_ok_iff.mpr ⟨_,w2,hw2,rfl⟩

theorem answersFrom_in_time (session : CNPSession) (cfp : Dict) {agents : List (Responder (Mail Crew))}
    {i : Nat} {mail : Mail Crew} (h : ∀ j, j < i + agents.length → env.expired j = false) :
    ∃ stored, answersFrom env session cfp i agents mail = some stored := by
  induction agents generalizing i mail with
  | nil => exact ⟨[],rfl⟩
  | cons agent agents ih =>
    have hrest : ∀ j, j < i + 1 + agents.length → env.expired j = false :=
      fun j hj => h j (by rw [List.length_cons]; omega)
    unfold answersFrom
    split
    · exact ih fun j hj => hrest j (by omega)
    · have hopen : ¬ env.expired i = true := by
        rw [h i (by rw [List.length_cons]; omega)]
        exact Bool.false_ne_true
      rw [if_neg hopen]
      obtain ⟨stored,hstored⟩ := @ih (i + 1) (agent.handleCfp cfp mail).2 hrest
      dsimp only
      rw [hstored]
      exact ⟨_,rfl⟩

/-- A round that meets no passed deadline has proposals to rank. -/
theorem openRound_in_time (h : ∀ i < 5, env.expired i = false)
    (snapshot : Dict) (w w' : CnpWorld (Mail Crew)) :
    openRound env (responders env.printer) snapshot w ≠ .ok none w' := by
  intro hopen
  have hanswers : ∃ stored, answersFrom env (collecting env) (callOf env snapshot w) 0
      (responders env.printer) (announced env snapshot w).rest = some stored :=
    answersFrom_in_time _ _ h
  obtain ⟨stored,hstored⟩ := hanswers
  have hlimits : (collecting env).constraints = .default := rfl
  have hlength := (answersFrom_crew hlimits _ hstored).length_eq
  obtain ⟨w1,hw1⟩ := collectProposals_answers env (collecting env) (callOf env snapshot w)
    (responders env.printer) 0 [] (announced env snapshot w)
  rw [hstored] at hw1
  rw [openRound_eq] at hopen
  obtain ⟨proposals,w2,hproposals,hend⟩ := bind_ok_iff.mp hopen
  rw [hw1] at hproposals
  cases hproposals
  obtain ⟨hround,_⟩ := ofExcept_ok_iff.mp hend
  unfold roundOf at hround
  split at hround
  · rename_i hempty
    rw [Option.elim_some, List.nil_append, List.isEmpty_iff_length_eq_zero, ← hlength] at hempty
    cases hempty
  · obtain ⟨_,_,hround⟩ := Traverse.bind_ok_iff.mp hround
    cases hround

/-- The crew once all have executed what they offered: it inspects as the quality agent
proposed, and nothing else has changed but the logs. -/
def Executed (c c' : Crew) : Prop :=
  unlogged c' = { unlogged c with
    qa := { (unlogged c).qa with inspectionMode := proposedMode c.qa.worstCpk } }

/-- The round behind a strategy. -/
theorem initiateCnp_ranked (hquiet : Quiet env) {llm : Option LLMClient} {snapshot strategy : Dict}
    {w w' : CnpWorld (Mail Crew)}
    (h : initiateCnp env llm (responders env.printer) snapshot w = .ok (some strategy) w') :
    ∃ round enriched, RankedCrew env.printer w.rest.others round.ranked enriched ∧
      round.session.constraints = .default ∧ settleRound env llm round snapshot = .ok strategy ∧
      (∃ executed, w'.executed = w.executed ++ executed ∧
        ExecutedOffers env.printer w.rest.others executed) ∧
      Executed w.rest.others w'.rest.others := by
  rcases initiateCnp_ok h with ⟨hnone,_⟩ | ⟨round,settled,w1,w2,hsome,hopen,hsettle,hexecute,rfl⟩
  · cases hnone
  cases hsome
  obtain ⟨hrest,hexecuted,enriched,hranked⟩ := openRound_crew hquiet hopen
  obtain ⟨w3,hw3,hids⟩ := executeAccepted_executed round.ranked (responders env.printer) w1
  have hmail := executeAccepted_rest round.ranked (responders env.printer) w1
  rw [hexecute] at hw3 hmail
  cases hw3
  refine ⟨round,enriched,hranked,openRound_limits hopen,hsettle,?_,?_⟩
  · exact ⟨_,hids.trans (congrArg (· ++ _) hexecuted),hranked.executed_offers⟩
  · have hmail' : w2.rest = (responders env.printer).foldl (executeOne round.ranked) w1.rest :=
      hmail
    change unlogged w2.rest.others = _
    rw [hmail']
    exact hranked.executed hrest

/-- A round without a strategy leaves the agents as they were, and executes nothing. -/
theorem initiateCnp_idle (hquiet : Quiet env) {llm : Option LLMClient} {snapshot : Dict}
    {w : CnpWorld (Mail Crew)} (h : ∀ strategy w', initiateCnp env llm (responders env.printer)
      snapshot w ≠ .ok (some strategy) w') :
    (finalState (initiateCnp env llm (responders env.printer) snapshot w)).rest.others =
        w.rest.others ∧
      (finalState (initiateCnp env llm (responders env.printer) snapshot w)).executed =
        w.executed := by
  rw [initiateCnp_final h]
  exact ⟨openRound_rest (f := fun mail : Mail Crew => mail.others)
      (responders_answer env.printer) hquiet snapshot w,
    openRound_executed env _ snapshot w⟩

/-- How a round of the crew can go. With a strategy it has set one of four speeds, full
inspection needs approval and no other decision does, and every agent has executed what it
offered; without one nothing is executed, and the agents are as they were. In time there is
always something to decide on. -/
theorem crew_round (env : CnpEnv (Mail Crew)) (hquiet : Quiet env) (llm : Option LLMClient)
    (snapshot : Dict) (w : CnpWorld (Mail Crew)) :
    (∀ strategy w', initiateCnp env llm (responders env.printer) snapshot w =
        .ok (some strategy) w' →
      Settled w.rest.others strategy ∧
      (∃ executed, w'.executed = w.executed ++ executed ∧
        ExecutedOffers env.printer w.rest.others executed) ∧
      Executed w.rest.others w'.rest.others) ∧
    ((∀ strategy w', initiateCnp env llm (responders env.printer) snapshot w ≠
        .ok (some strategy) w') →
      (finalState (initiateCnp env llm (responders env.printer) snapshot w)).rest.others =
          w.rest.others ∧
        (finalState (initiateCnp env llm (responders env.printer) snapshot w)).executed =
          w.executed) ∧
    ((∀ i < 5, env.expired i = false) →
      ∀ w', initiateCnp env llm (responders env.printer) snapshot w ≠ .ok none w') := by
  refine ⟨?_,initiateCnp_idle hquiet,?_⟩
  · intro strategy w' h
    obtain ⟨round,enriched,hranked,hlimits,hsettle,hids,hexecuted⟩ := initiateCnp_ranked hquiet h
    obtain ⟨⟨n,hn,hspeed⟩,hfull⟩ := hranked.built env llm round.cnpId snapshot
    obtain ⟨htarget,happroval,hkept⟩ := settleRound_built hlimits hspeed hn hsettle
    refine ⟨⟨⟨n,hn,htarget⟩,_,happroval,?_⟩,hids,hexecuted⟩
    rw [hfull, getD_congr (hkept "decision" (by decide)),
      getD_congr (hkept "best_agent" (by decide))]
  · intro hopen w' h
    rcases initiateCnp_ok h with ⟨_,hnone⟩ | ⟨_,_,_,_,hsome,_⟩
    · exact openRound_in_time hopen snapshot w w' hnone
    · cases hsome

/-- A round among agents that have seen nothing yet. -/
def firstEnv : CnpEnv (Mail Crew) :=
  { printer := .blank
    conversationId := "conv"
    buildLlmContext := fun _ => .error .typeError
    expired := fun _ => false
    publishCfp := some fun _ mail => mail }

def firstWorld : CnpWorld (Mail Crew) :=
  { pa := newPlanningAgent, rest := { inbox := [], others := .new }, executed := [] }

theorem crew_round_first :
    ∃ strategy w', initiateCnp firstEnv none (responders firstEnv.printer) [] firstWorld =
        .ok (some strategy) w' ∧
      Settled Crew.new strategy ∧ w'.executed.map Prod.fst = ["EA", "QA", "SA", "DA", "IA"] := by
  have hquiet : Quiet firstEnv := by
    intro publish hpublish body mail
    cases hpublish
    rfl
  have hround := crew_round firstEnv hquiet none [] firstWorld
  have hsettles : (returned (initiateCnp firstEnv none (responders firstEnv.printer) []
      firstWorld)).any Option.isSome = true := by decide +kernel
  cases hrun : initiateCnp firstEnv none (responders firstEnv.printer) [] firstWorld with
  | error e w' =>
    rw [hrun] at hsettles
    cases hsettles
  | ok result w' =>
    cases result with
    | none =>
      rw [hrun] at hsettles
      cases hsettles
    | some strategy =>
      obtain ⟨hsettled,⟨executed,hexecuted,hoffers⟩,_⟩ := hround.1 strategy w' hrun
      have hids : w'.executed.map Prod.fst = members.map Member.agentId := by
        rw [hexecuted]
        exact hoffers.ids
      exact ⟨strategy,w',rfl,hsettled,hids⟩

end ManufacturingMas.Proofs.CrewRounds
