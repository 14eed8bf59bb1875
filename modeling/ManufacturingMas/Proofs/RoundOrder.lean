import Mathlib.Data.Prod.Lex
import ManufacturingMas.Agents.PlanningAgent
import ManufacturingMas.Lib.Traverse

/-! Whether the order in which agents are asked, or agents without a proposal, make a
difference to a contract-net round. -/

namespace ManufacturingMas.Proofs.RoundOrder
open Py Protocol Intelligence Agents Ranking

variable {σ : Type}

/-! ### The order of the keys -/

abbrev Key := PyFloat × PyFloat × PyFloat

/-- Floats other than nan in their order, the finite ones between the infinities. -/
def measure : PyFloat → ℤ ×ₗ ℚ
  | .fin q => toLex (0, q)
  | .posInf => toLex (1, 0)
  | .negInf | .nan => toLex (-1, 0)

theorem lt_iff_measure {x y : PyFloat} (hx : x ≠ .nan) (hy : y ≠ .nan) :
    x.lt y = true ↔ measure x < measure y := by
  cases x <;> cases y <;> simp_all [PyFloat.lt, measure, Prod.Lex.toLex_lt_toLex]

theorem eq_iff {x y : PyFloat} (hx : x ≠ .nan) : x.eq y = true ↔ x = y := by
  cases x <;> cases y <;> simp_all [PyFloat.eq]

theorem measure_inj {x y : PyFloat} (hx : x ≠ .nan) (hy : y ≠ .nan) :
    measure x = measure y ↔ x = y := by
  cases x <;> cases y <;> simp_all [measure]

/-- A key without a nan. -/
def Comparable (k : Key) : Prop := k.1 ≠ .nan ∧ k.2.1 ≠ .nan ∧ k.2.2 ≠ .nan

instance (k : Key) : Decidable (Comparable k) := instDecidableAnd

/-- Pairwise distinct keys, none with a nan. -/
def DistinctKeys (keys : List Key) : Prop := keys.Nodup ∧ ∀ k ∈ keys, Comparable k

instance (keys : List Key) : Decidable (DistinctKeys keys) := instDecidableAnd

/-- Comparable keys compare as these triples do, from the first entry on. -/
def lexMeasure (k : Key) : (ℤ ×ₗ ℚ) ×ₗ (ℤ ×ₗ ℚ) ×ₗ ℤ ×ₗ ℚ :=
  toLex (measure k.1, toLex (measure k.2.1, measure k.2.2))

theorem keyLt_iff {k k' : Key} (h : Comparable k) (h' : Comparable k') :
    keyLt k k' = true ↔ lexMeasure k < lexMeasure k' := by
  obtain ⟨a,b,c⟩ := k
  obtain ⟨a',b',c'⟩ := k'
  obtain ⟨ha,hb,hc⟩ := h
  obtain ⟨ha',hb',hc'⟩ := h'
  dsimp only at ha hb hc ha' hb' hc'
  unfold keyLt lexMeasure
  rw [Prod.Lex.toLex_lt_toLex, Prod.Lex.toLex_lt_toLex]
  dsimp only
  rw [← lt_iff_measure ha ha', ← lt_iff_measure hb hb', ← lt_iff_measure hc hc',
    measure_inj ha ha', measure_inj hb hb']
  have hself : ∀ x : PyFloat, x.lt x = false := by
    intro x
    cases x <;> simp [PyFloat.lt]
  by_cases heq : a = a'
  · subst heq
    have ha1 : a.eq a = true := (eq_iff ha).mpr rfl
    by_cases heq2 : b = b'
    · subst heq2
      have hb1 : b.eq b = true := (eq_iff hb).mpr rfl
      simp [ha1, hb1, hself]
    · have hb1 : b.eq b' = false := by
        rw [← Bool.not_eq_true, eq_iff hb]
        exact heq2
      simp [ha1, hb1, heq2, hself]
  · have ha1 : a.eq a' = false := by
      rw [← Bool.not_eq_true, eq_iff ha]
      exact heq
    simp [ha1, heq]

theorem lexMeasure_inj {k k' : Key} (h : Comparable k) (h' : Comparable k')
    (heq : lexMeasure k = lexMeasure k') : k = k' := by
  obtain ⟨a,b,c⟩ := k
  obtain ⟨a',b',c'⟩ := k'
  have hpair := congrArg ofLex heq
  injection hpair with hfirst hrest
  have hpair' := congrArg ofLex hrest
  injection hpair' with hsecond hthird
  obtain rfl := (measure_inj h.1 h'.1).mp hfirst
  obtain rfl := (measure_inj h.2.1 h'.2.1).mp hsecond
  obtain rfl := (measure_inj h.2.2 h'.2.2).mp hthird
  rfl

/-- Two comparable keys of which neither is below the other are one key. -/
theorem key_tie {k k' : Key} (h : Comparable k) (h' : Comparable k') (hkk' : keyLt k k' = false)
    (hk'k : keyLt k' k = false) : k = k' := by
  apply lexMeasure_inj h h'
  rw [← Bool.not_eq_true, keyLt_iff h h', not_lt] at hkk'
  rw [← Bool.not_eq_true, keyLt_iff h' h, not_lt] at hk'k
  exact le_antisymm hk'k hkk'

theorem key_irrefl {k : Key} (h : Comparable k) : keyLt k k = false := by
  rw [← Bool.not_eq_true, keyLt_iff h h]
  exact lt_irrefl _

/-! ### What the agents offer -/

/-- What is stored of an agent's answer to a call in the state `s`. -/
def offer (env : CnpEnv σ) (session : CNPSession) (cfp : Dict) (s : σ) (agent : Responder σ) :
    Option Dict :=
  if agent.agentId = paId then none
  else
    match (agent.handleCfp cfp s).1 >>= acceptAnswer env session with
    | .ok proposal => proposal
    | .error _ => none

/-- Each of two agents gives its own answer, whether or not the other was asked before. -/
def Independent (a b : Responder σ) : Prop :=
  ∀ cfp s, (a.handleCfp cfp (b.handleCfp cfp s).2).1 = (a.handleCfp cfp s).1 ∧
    (b.handleCfp cfp (a.handleCfp cfp s).2).1 = (b.handleCfp cfp s).1

theorem Independent.symm {a b : Responder σ} (h : Independent a b) : Independent b a :=
  fun cfp s => ⟨(h cfp s).2,(h cfp s).1⟩

/-- The agent raises, or returns nothing. -/
def Fails (agent : Responder σ) : Prop :=
  ∀ cfp s, (∃ e, (agent.handleCfp cfp s).1 = .error e) ∨ (agent.handleCfp cfp s).1 = .ok none ∨
    (agent.handleCfp cfp s).1 = .ok (some [])

theorem Fails.offer_eq {agent : Responder σ} (h : Fails agent) (env : CnpEnv σ)
    (session : CNPSession) (cfp : Dict) (s : σ) : offer env session cfp s agent = none := by
  unfold offer
  split
  · rfl
  · rcases h cfp s with ⟨e,he⟩ | hnone | hempty
    · rw [he]
      rfl
    · rw [hnone]
      rfl
    · rw [hempty]
      rfl

/-- An agent other than the planning agent is asked in the state it finds. -/
theorem collectProposals_ask {env : CnpEnv σ} {i : Nat} (hopen : env.expired i = false)
    (session : CNPSession) (cfp : Dict) {agent : Responder σ} (hother : agent.agentId ≠ paId)
    (agents : List (Responder σ)) (proposals : List Dict) (w : CnpWorld σ) :
    collectProposals env session cfp i (agent :: agents) proposals w =
      collectProposals env session cfp (i + 1) agents
        (proposals ++ (offer env session cfp w.rest agent).toList)
        { w with rest := (agent.handleCfp cfp w.rest).2 } := by
  have hexpired : ¬ env.expired i = true := by
    rw [hopen]
    exact Bool.false_ne_true
  have hask : (modifyGet fun w : CnpWorld σ =>
      ((agent.handleCfp cfp w.rest).1, { w with rest := (agent.handleCfp cfp w.rest).2 }) :
      CnpM σ (Except PyErr (Option Dict))) w =
      .ok (agent.handleCfp cfp w.rest).1 { w with rest := (agent.handleCfp cfp w.rest).2 } := rfl
  rw [collectProposals, if_neg hother, if_neg hexpired, Stateful.bind_apply, hask]
  unfold offer
  rw [if_neg hother]
  dsimp only
  cases (agent.handleCfp cfp w.rest).1 >>= acceptAnswer env session with
  | error e => simp
  | ok stored =>
    cases stored with
    | none => simp
    | some proposal => simp

/-- Without a deadline every agent is asked, and each in the state it finds answers
as it would have first. -/
theorem collectProposals_ok {env : CnpEnv σ} (hopen : ∀ i, env.expired i = false)
    (session : CNPSession) (cfp : Dict) {agents : List (Responder σ)}
    (hind : agents.Pairwise Independent) (i : Nat) (proposals : List Dict) (w : CnpWorld σ) :
    ∃ w', collectProposals env session cfp i agents proposals w =
      .ok (proposals ++ agents.filterMap (offer env session cfp w.rest)) w' := by
  induction agents generalizing i proposals w with
  | nil =>
    refine ⟨w,?_⟩
    rw [List.filterMap_nil, List.append_nil]
    rfl
  | cons agent agents ih =>
    obtain ⟨hfirst,hrest⟩ := List.pairwise_cons.mp hind
    by_cases hpa : agent.agentId = paId
    · obtain ⟨w',hw'⟩ := ih hrest i proposals w
      have hnone : offer env session cfp w.rest agent = none := if_pos hpa
      refine ⟨w',?_⟩
      rw [collectProposals, if_pos hpa, List.filterMap_cons_none hnone]
      exact hw'
    · -- the others answer after this agent as they would have before it
      have hsame : agents.filterMap (offer env session cfp (agent.handleCfp cfp w.rest).2) =
          agents.filterMap (offer env session cfp w.rest) := by
        apply List.filterMap_congr
        intro b hb
        unfold offer
        rw [(hfirst b hb cfp w.rest).2]
      obtain ⟨w',hw'⟩ := ih hrest (i + 1)
        (proposals ++ (offer env session cfp w.rest agent).toList)
        { w with rest := (agent.handleCfp cfp w.rest).2 }
      refine ⟨w',?_⟩
      rw [collectProposals_ask (hopen i) session cfp hpa, hw', hsame]
      cases hoffer : offer env session cfp w.rest agent with
      | none => simp [hoffer]
      | some proposal => simp [hoffer]

/-! ### The round that is opened -/

/-- The session of a round while it collects proposals. -/
def collecting (env : CnpEnv σ) : CNPSession :=
  { (CNPSession.new .default).begin env.conversationId with state := .collecting }

def situationOf (env : CnpEnv σ) (w : CnpWorld σ) : String :=
  summarizeAlerts env.printer w.pa.pendingAlerts

/-- What agents are called with, in the world `w` before the round. -/
def callOf (env : CnpEnv σ) (snapshot : Dict) (w : CnpWorld σ) : Dict :=
  cfpData (collecting env) (w.pa.cnpCount + 1) (situationOf env w) snapshot

/-- The world in which the first agent is asked: the round is marked and published. -/
def announced (env : CnpEnv σ) (snapshot : Dict) (w : CnpWorld σ) : CnpWorld σ :=
  Stateful.finalState (broadcastCfp env ((CNPSession.new .default).begin env.conversationId)
    (situationOf env w) snapshot { w with pa := { w.pa with
      cnpCount := w.pa.cnpCount + 1
      lastCnpCycle := getD snapshot "cycle" (.int 0) } })

/-- What the agents of a round offer. -/
def offers (env : CnpEnv σ) (snapshot : Dict) (w : CnpWorld σ) (agents : List (Responder σ)) :
    List Dict :=
  agents.filterMap
    (offer env (collecting env) (callOf env snapshot w) (announced env snapshot w).rest)

/-- The round that a list of collected proposals leads to. -/
def roundOf (env : CnpEnv σ) (w : CnpWorld σ) (proposals : List Dict) :
    Except PyErr (Option Round) :=
  if proposals.isEmpty then pure none
  else do
    let session := { collecting env with state := .evaluating }
    let ranked ← rankProposalsByComparison env.printer proposals session.constraints.toDict
    pure (some ⟨session,situationOf env w,w.pa.cnpCount + 1,ranked⟩)

theorem ofExcept_roundOf (env : CnpEnv σ) (w : CnpWorld σ) (proposals : List Dict) :
    (Stateful.ofExcept (roundOf env w proposals) : CnpM σ (Option Round)) =
      if proposals.isEmpty then pure none
      else (do
        let session := { collecting env with state := .evaluating }
        let ranked ← Stateful.ofExcept
          (rankProposalsByComparison env.printer proposals session.constraints.toDict)
        pure (some ⟨session,situationOf env w,w.pa.cnpCount + 1,ranked⟩)) := by
  unfold roundOf
  split
  · rfl
  · dsimp only
    cases rankProposalsByComparison env.printer proposals (collecting env).constraints.toDict with
    | ok ranked => rfl
    | error e => rfl

theorem openRound_eq (env : CnpEnv σ) (agents : List (Responder σ)) (snapshot : Dict)
    (w : CnpWorld σ) : openRound env agents snapshot w =
      (collectProposals env (collecting env) (callOf env snapshot w) 0 agents [] >>=
        fun proposals => Stateful.ofExcept (roundOf env w proposals))
        (announced env snapshot w) := by
  simp only [ofExcept_roundOf]
  unfold openRound announced broadcastCfp
  cases env.publishCfp with
  | none => rfl
  | some publish => rfl

/-- Without a deadline the round depends only on what the agents offer. -/
theorem openRound_of_offers {env : CnpEnv σ} (hopen : ∀ i, env.expired i = false)
    {agents : List (Responder σ)} (hind : agents.Pairwise Independent) (snapshot : Dict)
    (w : CnpWorld σ) : ∃ w', openRound env agents snapshot w =
      Stateful.ofExcept (roundOf env w (offers env snapshot w agents)) w' := by
  obtain ⟨w',hw'⟩ := collectProposals_ok hopen (collecting env) (callOf env snapshot w) hind 0 []
    (announced env snapshot w)
  refine ⟨w',?_⟩
  rw [openRound_eq, Stateful.bind_apply, hw']
  rfl

/-! ### Rankings of the same proposals -/

/-- Proposals with distinct comparable keys come out of the sort ranked. -/
theorem ranked_of_distinct {enriched : List Dict} (h : DistinctKeys (enriched.map rankKey)) :
    Ranked keyLt rankKey (sortDescending keyLt rankKey enriched) := by
  have hcomparable : ∀ p ∈ enriched, Comparable (rankKey p) :=
    fun p hp => h.2 _ (List.mem_map_of_mem hp)
  exact ranked_sortDescending (fun p => lexMeasure (rankKey p)) fun p hp p' hp' =>
    keyLt_iff (hcomparable p hp) (hcomparable p' hp')

theorem DistinctKeys.perm {keys keys' : List Key} (h : DistinctKeys keys)
    (hperm : keys'.Perm keys) : DistinctKeys keys' :=
  ⟨hperm.nodup_iff.mpr h.1,fun k hk => h.2 k (hperm.mem_iff.mp hk)⟩

/-- Proposals with distinct comparable keys have one ranking, in whatever order they come. -/
theorem rank_perm {printer : Printer} {proposals proposals' ranked : List Dict}
    {constraints : Dict} (hperm : proposals'.Perm proposals)
    (h : rankProposalsByComparison printer proposals constraints = .ok ranked)
    (hkeys : DistinctKeys (ranked.map rankKey)) :
    rankProposalsByComparison printer proposals' constraints = .ok ranked := by
  obtain ⟨enriched,henriched,rfl⟩ := rank_ok h
  obtain ⟨enriched',henriched',hsame⟩ := Traverse.mapM_perm henriched hperm
  have hsorted := sortDescending_perm keyLt rankKey enriched
  have hsorted' := sortDescending_perm keyLt rankKey enriched'
  have hkeys1 : DistinctKeys (enriched.map rankKey) := hkeys.perm (hsorted.symm.map rankKey)
  have hkeys2 : DistinctKeys (enriched'.map rankKey) := hkeys1.perm (hsame.map rankKey)
  have heq : sortDescending keyLt rankKey enriched' = sortDescending keyLt rankKey enriched := by
    apply (ranked_of_distinct hkeys2).eq_of_perm (ranked_of_distinct hkeys1)
    · exact hsorted'.trans (hsame.trans hsorted.symm)
    · intro x hx y hy hxy hyx
      have hx' := hsorted'.mem_iff.mp hx
      have hy' := hsorted'.mem_iff.mp hy
      apply List.inj_on_of_nodup_map hkeys2.1 hx' hy'
      exact key_tie (hkeys2.2 _ (List.mem_map_of_mem hx')) (hkeys2.2 _ (List.mem_map_of_mem hy'))
        hxy hyx
  unfold rankProposalsByComparison
  rw [henriched']
  exact congrArg Except.ok heq

/-- A ranking that raises also raises in every other order. -/
theorem rank_error_perm {printer : Printer} {proposals proposals' : List Dict} {constraints : Dict}
    {e : PyErr} (hperm : proposals'.Perm proposals)
    (h : rankProposalsByComparison printer proposals constraints = .error e) :
    ∃ e', rankProposalsByComparison printer proposals' constraints = .error e' := by
  cases hranked : rankProposalsByComparison printer proposals' constraints with
  | error e' => exact ⟨e',rfl⟩
  | ok ranked =>
    obtain ⟨enriched',henriched',_⟩ := rank_ok hranked
    obtain ⟨enriched,henriched,_⟩ := Traverse.mapM_perm henriched' hperm.symm
    unfold rankProposalsByComparison at h
    rw [henriched] at h
    cases h

/-! ### The outcome -/

/-- What a program returns, if it does not raise. -/
def returned {α : Type} : EStateM.Result PyErr (CnpWorld σ) α → Option α
  | .ok a _ => some a
  | .error _ _ => none

theorem returned_ofExcept {α : Type} (r : Except PyErr α) (w : CnpWorld σ) :
    returned (Stateful.ofExcept r w) = r.toOption := by
  cases r with
  | ok a => rfl
  | error e => rfl

theorem executeAccepted_ok (ranked : List Dict) (agents : List (Responder σ)) (w : CnpWorld σ) :
    ∃ w', executeAccepted ranked agents w = .ok () w' := by
  induction agents generalizing w with
  | nil => exact ⟨w,rfl⟩
  | cons agent agents ih =>
    unfold executeAccepted
    split
    · exact ih w
    · dsimp only
      cases matching ranked agent.agentId with
      | nil => exact ih w
      | cons proposal _ => exact ih _

/-- The strategy depends on the world only through the round that is opened. -/
theorem initiateCnp_returned (env : CnpEnv σ) (llm : Option LLMClient)
    (agents : List (Responder σ)) (snapshot : Dict) (w : CnpWorld σ) :
    returned (initiateCnp env llm agents snapshot w) =
      (returned (openRound env agents snapshot w)).bind fun opened =>
        match opened with
        | none => some none
        | some round => (settleRound env llm round snapshot).toOption.map some := by
  unfold initiateCnp
  rw [Stateful.bind_apply]
  cases openRound env agents snapshot w with
  | error e w1 => rfl
  | ok opened w1 =>
    cases opened with
    | none => rfl
    | some round =>
      dsimp only
      rw [Stateful.bind_apply]
      change _ = (settleRound env llm round snapshot).toOption.map some
      cases settleRound env llm round snapshot with
      | error e => rfl
      | ok strategy =>
        obtain ⟨w2,hw2⟩ := executeAccepted_ok round.ranked agents w1
        change returned ((executeAccepted round.ranked agents >>= _) w1) = _
        rw [Stateful.bind_apply, hw2]
        rfl

/-- The offers of a list with agents added that fail, in any order. -/
theorem offers_perm (env : CnpEnv σ) (snapshot : Dict) (w : CnpWorld σ)
    {agents failing agents' : List (Responder σ)} (hfail : ∀ a ∈ failing, Fails a)
    (hperm : agents'.Perm (agents ++ failing)) :
    (offers env snapshot w agents').Perm (offers env snapshot w agents) := by
  have hnone : offers env snapshot w failing = [] := by
    unfold offers
    rw [List.filterMap_eq_nil_iff]
    intro a ha
    exact (hfail a ha).offer_eq _ _ _ _
  have hoffers : (offers env snapshot w agents').Perm (offers env snapshot w (agents ++ failing)) :=
    hperm.filterMap _
  have happend : offers env snapshot w (agents ++ failing) =
      offers env snapshot w agents ++ offers env snapshot w failing := List.filterMap_append
  rw [happend, hnone, List.append_nil] at hoffers
  exact hoffers

theorem roundOf_perm {env : CnpEnv σ} {w : CnpWorld σ} {proposals proposals' : List Dict}
    (hperm : proposals'.Perm proposals)
    (hkeys : ∀ round, roundOf env w proposals = .ok (some round) →
      DistinctKeys (round.ranked.map rankKey)) :
    (roundOf env w proposals').toOption = (roundOf env w proposals).toOption := by
  unfold roundOf at hkeys ⊢
  rw [hperm.isEmpty_eq]
  split
  · rfl
  · rename_i hsome
    rw [if_neg hsome] at hkeys
    dsimp only at hkeys ⊢
    cases hrank : rankProposalsByComparison env.printer proposals
        (collecting env).constraints.toDict with
    | error e =>
      obtain ⟨e',he'⟩ := rank_error_perm hperm hrank
      rw [he']
      rfl
    | ok ranked =>
      rw [hrank] at hkeys
      rw [rank_perm hperm hrank (hkeys _ rfl)]

/-- The first proposal's key is the largest of all. -/
def HasWinner (ranked : List Dict) : Prop :=
  ∃ best others, ranked = best :: others ∧ ∀ p ∈ ranked, keyLt (rankKey best) (rankKey p) = false

/-- The round ranks what the proposals are evaluated to, and the winner is a largest of these. -/
theorem roundOf_winner {env : CnpEnv σ} {w : CnpWorld σ} {proposals : List Dict} {round : Round}
    (h : roundOf env w proposals = .ok (some round))
    (hkeys : DistinctKeys (round.ranked.map rankKey)) :
    HasWinner round.ranked ∧ ∃ enriched, round.ranked.Perm enriched ∧
      proposals.mapM (fun p => evaluateProposal env.printer p round.session.constraints.toDict) =
        .ok enriched := by
  unfold roundOf at h
  split at h
  · cases h
  · rename_i hsome
    dsimp only at h
    cases hrank : rankProposalsByComparison env.printer proposals
        (collecting env).constraints.toDict with
    | error e =>
      rw [hrank] at h
      cases h
    | ok ranked =>
      rw [hrank] at h
      cases h
      obtain ⟨enriched,henriched,rfl⟩ := rank_ok hrank
      have hsorted := sortDescending_perm keyLt rankKey enriched
      refine ⟨?_,enriched,hsorted,henriched⟩
      have hranked := ranked_of_distinct (hkeys.perm (hsorted.symm.map rankKey))
      dsimp only at hkeys ⊢
      cases hlist : sortDescending keyLt rankKey enriched with
      | nil =>
        rw [hlist] at hsorted
        have hlength := (Traverse.mapM_ok_iff.mp henriched).length_eq
        rw [hsorted.symm.eq_nil] at hlength
        exact absurd (List.isEmpty_iff_length_eq_zero.mpr hlength) hsome
      | cons best others =>
        rw [hlist] at hranked hkeys
        refine ⟨best,others,rfl,?_⟩
        apply hranked.first_maximal
        exact key_irrefl (hkeys.2 _ List.mem_cons_self)

/-- Without a deadline, agents that answer for themselves, with distinct comparable
keys, have the same round in every order and with any failing agents among them: the
same ranking, the same strategy, and the largest key first. -/
theorem round_order_independent (env : CnpEnv σ) (snapshot : Dict) (w : CnpWorld σ)
    (agents failing agents' : List (Responder σ)) (hopen : ∀ i, env.expired i = false)
    (hind : (agents ++ failing).Pairwise Independent) (hfail : ∀ a ∈ failing, Fails a)
    (hperm : agents'.Perm (agents ++ failing))
    (hkeys : ∀ round w', openRound env agents snapshot w = .ok (some round) w' →
      DistinctKeys (round.ranked.map rankKey)) :
    returned (openRound env agents' snapshot w) = returned (openRound env agents snapshot w) ∧
    (∀ llm, returned (initiateCnp env llm agents' snapshot w) =
      returned (initiateCnp env llm agents snapshot w)) ∧
    ∀ round w', openRound env agents snapshot w = .ok (some round) w' →
      HasWinner round.ranked ∧ ∃ enriched, round.ranked.Perm enriched ∧
        (offers env snapshot w agents).mapM
          (fun p => evaluateProposal env.printer p round.session.constraints.toDict) =
            .ok enriched := by
  have hind' : agents'.Pairwise Independent := (hperm.pairwise_iff fun h => h.symm).mpr hind
  obtain ⟨w1,hw1⟩ := openRound_of_offers hopen (List.pairwise_append.mp hind).1 snapshot w
  obtain ⟨w2,hw2⟩ := openRound_of_offers hopen hind' snapshot w
  have hsame : returned (openRound env agents' snapshot w) =
      returned (openRound env agents snapshot w) := by
    rw [hw1, hw2, returned_ofExcept, returned_ofExcept]
    apply roundOf_perm (offers_perm env snapshot w hfail hperm)
    intro round hround
    apply hkeys round w1
    rw [hw1, hround]
    rfl
  refine ⟨hsame,?_,?_⟩
  · intro llm
    rw [initiateCnp_returned, initiateCnp_returned, hsame]
  · intro round w' hround
    have hdistinct := hkeys round w' hround
    rw [hw1] at hround
    cases hoffers : roundOf env w (offers env snapshot w agents) with
    | error e =>
      rw [hoffers] at hround
      cases hround
    | ok opened =>
      rw [hoffers] at hround
      cases hround
      exact roundOf_winner hoffers hdistinct

/-! ### Two agents and one that fails -/

/-- An agent whose proposal names its confidence only. -/
def bidder (agentId : String) (confidence : PyFloat) : Responder Unit :=
  { agentId := agentId
    handleCfp := fun _ s => (.ok (some [("agent", .str agentId),
      ("comparison", .dict [("confidence", .float confidence)])]), s)
    executeAcceptedProposal := fun _ s => (.ok (), s) }

def broken : Responder Unit :=
  { agentId := "SA"
    handleCfp := fun _ s => (.error .valueError, s)
    executeAcceptedProposal := fun _ s => (.ok (), s) }

def plainEnv : CnpEnv Unit :=
  { printer := .blank
    conversationId := "conv"
    buildLlmContext := fun _ => .error .typeError
    expired := fun _ => false
    publishCfp := none }

def before : CnpWorld Unit :=
  { pa := { cnpCount := 0, lastCnpCycle := .int 0, strategyLog := [], pendingAlerts := [] }
    rest := (), executed := [] }

/-- The keys of the proposals that a list of agents has ranked. -/
def keysOf (agents : List (Responder Unit)) : List Key :=
  match returned (openRound plainEnv agents [] before) with
  | some (some round) => round.ranked.map rankKey
  | _ => []

theorem keysOf_eq {agents : List (Responder Unit)} {round : Round} {w' : CnpWorld Unit}
    (h : openRound plainEnv agents [] before = .ok (some round) w') :
    keysOf agents = round.ranked.map rankKey := by
  unfold keysOf
  rw [h]
  rfl

theorem round_order_independent_bidders :
    returned (initiateCnp plainEnv none
      [broken, bidder "QA" (.fin (9/10)), bidder "EA" (.fin (1/2))] [] before) =
    returned (initiateCnp plainEnv none
      [bidder "EA" (.fin (1/2)), bidder "QA" (.fin (9/10))] [] before) := by
  have hkeys : DistinctKeys (keysOf [bidder "EA" (.fin (1/2)), bidder "QA" (.fin (9/10))]) := by
    decide +kernel
  refine (round_order_independent plainEnv [] before
    [bidder "EA" (.fin (1/2)), bidder "QA" (.fin (9/10))] [broken]
    [broken, bidder "QA" (.fin (9/10)), bidder "EA" (.fin (1/2))] (fun _ => rfl) ?_ ?_ ?_ ?_).2.1
    none
  · simp only [List.cons_append, List.nil_append, List.pairwise_cons, List.mem_cons,
      List.not_mem_nil, or_false]
    refine ⟨?_,?_,?_,List.Pairwise.nil⟩
    · rintro a (rfl | rfl) <;> exact fun _ _ => ⟨rfl,rfl⟩
    · rintro a rfl
      exact fun _ _ => ⟨rfl,rfl⟩
    · intro a ha
      cases ha
  · intro a ha
    rw [List.mem_singleton.mp ha]
    exact fun _ _ => Or.inl ⟨.valueError,rfl⟩
  · exact List.reverse_perm [bidder "EA" (.fin (1/2)), bidder "QA" (.fin (9/10)), broken]
  · intro round w' h
    rw [← keysOf_eq h]
    exact hkeys

def bestAgent (agents : List (Responder Unit)) : Option String :=
  match returned (initiateCnp plainEnv none agents [] before) with
  | some (some strategy) =>
    match getD strategy "best_agent" .none with
    | .str agentId => some agentId
    | _ => none
  | _ => none

/-- With a nan for a confidence the keys are distinct, and the agent that is asked
first wins. -/
theorem nan_confidence_first_wins :
    Independent (bidder "EA" .nan) (bidder "QA" (.fin (9/10))) ∧
    (keysOf [bidder "EA" .nan, bidder "QA" (.fin (9/10))]).Nodup ∧
    bestAgent [bidder "EA" .nan, bidder "QA" (.fin (9/10))] = some "EA" ∧
    bestAgent [bidder "QA" (.fin (9/10)), bidder "EA" .nan] = some "QA" :=
  ⟨fun _ _ => ⟨rfl,rfl⟩,by decide +kernel,by decide +kernel,by decide +kernel⟩

end ManufacturingMas.Proofs.RoundOrder
