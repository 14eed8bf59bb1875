import ManufacturingMas.Proofs.Rescoring
import ManufacturingMas.Proofs.RoundExecution
import ManufacturingMas.Proofs.StrategyAgreement

/-! What a contract-net round makes of an answer whose metrics are known. -/

namespace ManufacturingMas.Proofs.Bids
open Py Protocol Agents Ranking ScoreParts ScoreOrder MetricNumbers Rescoring StrategyAgreement
  RoundExecution

/-! ### Answers -/

/-- An answer of `agentId` to a call: what it recommends for the line, what its metrics are
scored as, and what its KPI scores come to. -/
structure Bid (p : Dict) (agentId : String) (speed : ℤ) (r : Metric → ℚ) (b : ℚ) : Prop where
  agent : Assoc.get p "agent" = some (.str agentId)
  held : |speed| ≤ 2 ^ 53
  asked : recommended p = .int speed
  scored : ∀ m, scored p m = .ok (.fin (r m))
  covered : ∀ m, ¬ Uncovered p m
  readable : ∀ axis, ∃ x, normalizedAxis p axis = .ok x
  business : businessScore (getD p "scores" .none).asDict defaultKpiWeights = .ok (.fin b)

/-- Metrics that no score leaves the range of ordinary numbers with. -/
structure Moderate (r : Metric → ℚ) (b : ℚ) : Prop where
  product : |r .effect * r .confidence| ≤ 2
  cost : |r .cost| ≤ 2
  quality : |r .quality| ≤ 2
  violation : 0 ≤ r .violation ∧ r .violation ≤ 1
  business : |b| ≤ 100

/-- The total of the metrics, for a proposal whose speed is within the limits. -/
def exactTotal (r : Metric → ℚ) (b : ℚ) : ℚ :=
  2/5 * b + 3/5 * exactComparison r - 1/25 * r .violation

variable {p e : Dict} {agentId : String} {speed : ℤ} {r : Metric → ℚ} {b : ℚ}

theorem Moderate.comparison (h : Moderate r b) : |exactComparison r| ≤ 4 := by
  have hproduct := abs_le.mp h.product
  have hcost := abs_le.mp h.cost
  have hquality := abs_le.mp h.quality
  unfold exactComparison
  rw [abs_le]
  constructor <;> linarith

theorem Moderate.comparisonOf (h : Moderate r b) :
    comparisonOf (fun m => .fin (r m)) = .fin (exactComparison r) := by
  have hproduct := abs_le.mp h.product
  have hcost := abs_le.mp h.cost
  have hquality := abs_le.mp h.quality
  unfold ScoreParts.comparisonOf exactComparison
  rw [mul_small (by rw [abs_le]; constructor <;> linarith),
    mul_small (by rw [abs_le]; constructor <;> linarith),
    mul_small (by rw [abs_le]; constructor <;> linarith),
    sub_small (by rw [abs_le]; constructor <;> linarith),
    sub_small (by rw [abs_le]; constructor <;> linarith)]

theorem Moderate.penaltyOf (h : Moderate r b) :
    penaltyOf 0 (.fin (r .violation)) = .fin (1/5 * r .violation) := by
  obtain ⟨hlow,hhigh⟩ := h.violation
  unfold ScoreParts.penaltyOf
  rw [mul_small (by rw [abs_le]; constructor <;> linarith), Rat.mul_comm (r .violation),
    add_small (by rw [abs_le]; constructor <;> linarith), zero_add, PyFloat.min_fin (by linarith)]

theorem Moderate.finalScore (h : Moderate r b) :
    finalScore (.fin b) (.fin (exactComparison r)) (.fin (1/5 * r .violation)) =
      .fin (exactTotal r b) := by
  have hbusiness := abs_le.mp h.business
  have hcomparison := abs_le.mp h.comparison
  obtain ⟨hlow,hhigh⟩ := h.violation
  have hsum : exactTotal r b =
      2/5 * b + 3/5 * exactComparison r - 1/5 * (1/5 * r .violation) := by
    unfold exactTotal
    ring
  unfold Agents.finalScore
  rw [mul_small (by rw [abs_le]; constructor <;> linarith),
    mul_small (by rw [abs_le]; constructor <;> linarith),
    mul_small (by rw [abs_le]; constructor <;> linarith),
    add_small (by rw [abs_le]; constructor <;> linarith),
    sub_small (by rw [abs_le]; constructor <;> linarith), hsum]

/-- A number of ordinary size is still one when it is rounded. -/
theorem round_small {q : ℚ} (h : |q| ≤ 100) : (PyFloat.fin q).round 4 = .fin (roundTo 4 q) := by
  have hbound := abs_le.mp h
  have hround := abs_le.mp (abs_roundTo_sub_le 4 q)
  exact PyFloat.ofRat_of_small (by rw [abs_le]; constructor <;> linarith)

/-! ### Their evaluation -/

/-- A speed within the limits leaves the violation as the only penalty. -/
theorem scoreAgainst_within {printer : Printer} {block : Dict} {n : ℤ} {x : PyFloat}
    (hblock : normalizeComparisonMetrics printer p = .ok block)
    (hspeed : Assoc.get p "speed_recommendation" = some (.int n)) (hlow : 40 ≤ n) (hhigh : n ≤ 100)
    (hx : ScoreParts.scored p .violation = .ok x) :
    scoreAgainstConstraints (Assoc.set p "comparison" (.dict block))
      CNPConstraints.default.toDict = .ok (penaltyOf 0 x, "ok") := by
  have hread : getD (Assoc.set p "comparison" (.dict block)) "speed_recommendation" .none =
      .int n := (getD_set_of_ne (by decide) _ _).trans (getD_of_some hspeed _)
  have htrue : (Val.int n).truthy = true := by
    simp only [Val.truthy, ne_eq, decide_eq_true_eq]
    omega
  have htaken : ((Val.int n).orElse (getD (Assoc.set p "comparison" (.dict block))
      "target_speed_pct" .none)).orElse (.int 100) = .int n := by
    unfold Val.orElse
    rw [if_pos htrue, if_pos htrue]
  have hnonempty : block.isEmpty = false := by
    obtain ⟨_,_,hentry⟩ := normalize_entries hblock .violation
    cases block with
    | nil => cases hentry
    | cons _ _ => rfl
  have hcomparison : (getD (Assoc.set p "comparison" (.dict block)) "comparison" .none).orElse
      (.dict []) = .dict block := by
    simp [getD, Val.orElse, Val.truthy, hnonempty]
  have hmin : ((getD CNPConstraints.default.toDict "speed_min_pct" .none).orElse (.int 40)).toInt =
      .ok 40 := rfl
  have hmax : ((getD CNPConstraints.default.toDict "speed_max_pct" .none).orElse
      (.int 100)).toInt = .ok 100 := rfl
  have hentry := floatOr_entry hblock .violation hx
  simp only [Metric.key, Metric.default] at hentry
  unfold scoreAgainstConstraints
  rw [hread, htaken, hmin, hmax, hcomparison]
  simp only [Val.toInt, fieldOf, bind, Except.bind, hentry, pure, Except.pure]
  rw [decide_eq_false (by omega), decide_eq_false (by omega)]
  rfl

theorem merged_set {key : String} (hmetrics : "proposal_metrics" ≠ key)
    (hcomparison : "comparison" ≠ key) (p : Dict) (v : Val) :
    merged (Assoc.set p key v) = merged p := by
  unfold merged
  rw [getD_set_of_ne hmetrics, getD_set_of_ne hcomparison]

/-- The speed is set to what the limits leave of it. -/
theorem Bid.clamped (h : Bid p agentId speed r b) {n : ℤ} (hn : |n| ≤ 2 ^ 53) :
    Bid (Assoc.set p "speed_recommendation" (.int n)) agentId n r b := by
  have hmerged : merged (Assoc.set p "speed_recommendation" (.int n)) = merged p :=
    merged_set (by decide) (by decide) p _
  constructor
  · rw [Assoc.get_set_of_ne (by decide)]
    exact h.agent
  · exact hn
  · exact getD_set_self _ _ _ _
  · intro m
    unfold ScoreParts.scored normalized
    rw [hmerged]
    exact h.scored m
  · intro m hm
    exact h.covered m ((uncovered_set (by decide) (by decide) p _ m).2.mp hm)
  · intro axis
    unfold normalizedAxis
    rw [hmerged]
    exact h.readable axis
  · rw [getD_set_of_ne (by decide)]
    exact h.business

/-- The scores of a bid whose speed is within the limits. -/
def Totals (e : Dict) (r : Metric → ℚ) (b : ℚ) : Prop :=
  FiniteScores e (roundTo 4 (exactTotal r b)) (roundTo 4 (exactComparison r)) (roundTo 4 b)

/-- A bid is always evaluated; with moderate metrics its scores are the exact ones, rounded. -/
theorem Bid.evaluate (h : Bid p agentId speed r b) (printer : Printer)
    (hspeed : Assoc.get p "speed_recommendation" = some (.int speed)) (hlow : 40 ≤ speed)
    (hhigh : speed ≤ 100) :
    ∃ e, evaluateProposal printer p CNPConstraints.default.toDict = .ok e ∧
      (Moderate r b → Totals e r b) := by
  obtain ⟨block,hblock⟩ := normalize_ok printer h.readable
  have hcomparison := comparisonScore_eq hblock h.scored
  have hpenalty := scoreAgainst_within hblock hspeed hlow hhigh (h.scored _)
  refine ⟨_,evaluate_of_parts hblock h.business hcomparison hpenalty,fun hm => ?_⟩
  have htotal := abs_le.mp hm.comparison
  have hbusiness := abs_le.mp hm.business
  obtain ⟨hviolation,hviolation'⟩ := hm.violation
  unfold withEvaluation
  refine ⟨?_,?_,?_⟩
  · rw [Assoc.get_set_self, hm.comparisonOf, hm.penaltyOf, hm.finalScore, round_small]
    unfold exactTotal
    rw [abs_le]
    constructor <;> linarith
  · rw [Assoc.get_set_of_ne (by decide), Assoc.get_set_of_ne (by decide),
      Assoc.get_set_of_ne (by decide), Assoc.get_set_self, hm.comparisonOf, round_small]
    rw [abs_le]
    constructor <;> linarith
  · rw [Assoc.get_set_of_ne (by decide), Assoc.get_set_of_ne (by decide),
      Assoc.get_set_of_ne (by decide), Assoc.get_set_of_ne (by decide), Assoc.get_set_self,
      round_small hm.business]

/-- What a round stores for a bid: its scores, its speed, and the rest as it was. -/
structure Stored (p e : Dict) (speed : ℤ) (r : Metric → ℚ) (b : ℚ) : Prop where
  totals : Moderate r b → Totals e r b
  speed : Assoc.get e "speed_recommendation" = some (.int speed)
  others : ∀ key, key ∉ "speed_recommendation" :: evaluationKeys → Assoc.get e key = Assoc.get p key

def clampedSpeed (speed : ℤ) : ℤ := max 40 (min 100 speed)

section
variable {σ : Type} {env : CnpEnv σ} {session : CNPSession}

/-- A bid is accepted with its scores, whatever its metrics. -/
theorem Bid.accepted (h : Bid p agentId speed r b)
    (hlimits : session.constraints = .default) :
    ∃ e, acceptAnswer env session (some p) = .ok (some e) ∧
      Stored p e (clampedSpeed speed) r b := by
  have hread : orOnBadNumber (intOf (recommended p)) 100 = .ok speed := by
    rw [h.asked, intOf_small h.held]
    rfl
  have hclamp : session.clampSpeed speed = clampedSpeed speed := by
    unfold CNPSession.clampSpeed
    rw [hlimits]
    rfl
  have hwithin : 40 ≤ clampedSpeed speed ∧ clampedSpeed speed ≤ 100 := by
    unfold clampedSpeed
    omega
  obtain ⟨e,he,htotals⟩ := (h.clamped (n := clampedSpeed speed)
    (by rw [abs_le]; omega)).evaluate env.printer Assoc.get_set_self hwithin.1 hwithin.2
  refine ⟨e,?_,htotals,?_,?_⟩
  · cases p with
    | nil => cases h.agent
    | cons entry p =>
      unfold recommended at hread
      unfold acceptAnswer
      simp only [hread, bind, Except.bind, hclamp, hlimits, he]
      rfl
  · rw [get_evaluate he (by decide), Assoc.get_set_self]
  · intro key hkey
    obtain ⟨hspeed,hkeys⟩ := not_or.mp (mt List.mem_cons.mpr hkey)
    rw [get_evaluate he hkeys, Assoc.get_set_of_ne hspeed]

/-! ### The bids of a round -/

/-- An agent's answer, with what it asks for and what it scores. -/
structure Offer where
  answer : Dict
  agentId : String
  speed : ℤ
  metrics : Metric → ℚ
  business : ℚ

def Offer.Sound (o : Offer) : Prop := Bid o.answer o.agentId o.speed o.metrics o.business

def Offer.Moderate (o : Offer) : Prop := Bids.Moderate o.metrics o.business

def Offer.total (o : Offer) : ℚ := roundTo 4 (exactTotal o.metrics o.business)

def Offer.StoredAs (o : Offer) (e : Dict) : Prop :=
  Stored o.answer e (clampedSpeed o.speed) o.metrics o.business

def Accepted (env : CnpEnv σ) (session : CNPSession) (o : Offer) (e : Dict) : Prop :=
  acceptAnswer env session (some o.answer) = .ok (some e) ∧ o.StoredAs e

theorem Totals.same {e' : Dict} (h : Totals e r b) (hsame : SameScores e e') : Totals e' r b :=
  ⟨(hsame _ (by decide)).symm.trans h.total,(hsame _ (by decide)).symm.trans h.comparison,
    (hsame _ (by decide)).symm.trans h.business⟩

/-- An accepted bid is stored the same when it is evaluated for the ranking. -/
theorem Accepted.again {o : Offer} (h : Accepted env session o e) (ho : o.Sound)
    (hlimits : session.constraints = .default) :
    ∃ e', evaluateProposal env.printer e CNPConstraints.default.toDict = .ok e' ∧
      o.StoredAs e' := by
  have hcollected : Collected env session e :=
    ⟨o.answer,h.1,fun m hm => absurd hm (ho.covered m)⟩
  obtain ⟨e',he',hsame⟩ := hcollected.evaluate_again
  rw [hlimits] at he'
  refine ⟨e',he',fun hm => (h.2.totals hm).same hsame,?_,?_⟩
  · rw [get_evaluate he' (by decide)]
    exact h.2.speed
  · intro key hkey
    rw [get_evaluate he' (fun hmem => hkey (List.mem_cons_of_mem _ hmem))]
    exact h.2.others key hkey

/-- The bids of a round are ranked by what they score. -/
theorem rank_offers {os : List Offer} {es : List Dict} (hos : ∀ o ∈ os, o.Sound)
    (hlimits : session.constraints = .default)
    (h : List.Forall₂ (Accepted env session) os es) :
    ∃ ranked enriched, rankProposalsByComparison env.printer es CNPConstraints.default.toDict =
        .ok ranked ∧ ranked.Perm enriched ∧ List.Forall₂ Offer.StoredAs os enriched ∧
      ((∀ o ∈ os, o.Moderate) → Ranked keyLt rankKey ranked) := by
  obtain ⟨enriched,heach,hstored⟩ : ∃ enriched,
      List.Forall₂ (fun e e' => evaluateProposal env.printer e CNPConstraints.default.toDict =
        .ok e') es enriched ∧ List.Forall₂ Offer.StoredAs os enriched := by
    induction h with
    | nil => exact ⟨[],.nil,.nil⟩
    | cons hfirst _ ih =>
      obtain ⟨hsound,hrest⟩ := List.forall_mem_cons.mp hos
      obtain ⟨e',he',hstored⟩ := hfirst.again hsound hlimits
      obtain ⟨enriched,heach,hall⟩ := ih hrest
      exact ⟨e' :: enriched,.cons he' heach,.cons hstored hall⟩
  have hrank : rankProposalsByComparison env.printer es CNPConstraints.default.toDict =
      .ok (sortDescending keyLt rankKey enriched) := by
    unfold rankProposalsByComparison
    rw [Traverse.mapM_ok_iff.mpr heach]
    rfl
  have hperm := sortDescending_perm keyLt rankKey enriched
  refine ⟨_,enriched,hrank,hperm,hstored,fun hmoderate => ?_⟩
  apply ranked_of_rankProposals hrank
  intro e he
  obtain ⟨o,hmem,ho⟩ := Traverse.exists_left hstored (hperm.mem_iff.mp he)
  exact ⟨_,_,_,ho.totals (hmoderate o hmem)⟩

end

section
variable {os : List Offer} {ranked enriched : List Dict}

/-- A bid whose total is above those of all others is ranked first. -/
theorem best_first (hranked : Ranked keyLt rankKey ranked) (hperm : ranked.Perm enriched)
    (hstored : List.Forall₂ Offer.StoredAs os enriched) (hmoderate : ∀ o ∈ os, o.Moderate)
    {o : Offer} (ho : o ∈ os) (hbest : ∀ o' ∈ os, o' = o ∨ o'.total < o.total) :
    ∃ best others, ranked = best :: others ∧ o.StoredAs best := by
  obtain ⟨e,he,hoe⟩ := Traverse.exists_zip hstored ho
  have hmem : e ∈ ranked := hperm.mem_iff.mpr (List.of_mem_zip he).2
  cases ranked with
  | nil => cases hmem
  | cons best others =>
    refine ⟨best,others,rfl,?_⟩
    obtain ⟨o',ho',hstoredBest⟩ :=
      Traverse.exists_left hstored (hperm.mem_iff.mp List.mem_cons_self)
    rcases hbest o' ho' with rfl | hlt
    · exact hstoredBest
    · rcases List.mem_cons.mp hmem with rfl | hmem
      · exact hoe
      · have hle := total_le_of_keyLt_false (hstoredBest.totals (hmoderate o' ho'))
          (hoe.totals (hmoderate o ho))
          ((List.pairwise_cons.mp hranked).1 e hmem)
        exact absurd hle (not_le.mpr hlt)

/-- Of bids in different names, each agent finds its own in the ranking. -/
theorem matching_own (hos : ∀ o ∈ os, o.Sound) (hnodup : (os.map (·.agentId)).Nodup)
    (hperm : ranked.Perm enriched) (hstored : List.Forall₂ Offer.StoredAs os enriched)
    {o : Offer} {e : Dict} (h : (o, e) ∈ os.zip enriched) :
    matching ranked o.agentId = [e] := by
  obtain ⟨hlength,hzip⟩ := List.forall₂_iff_zip.mp hstored
  let pairs := (os.zip enriched).map fun q => ((q.1.agentId, q.1.answer), q.2)
  have hsnd : pairs.map Prod.snd = enriched := by
    rw [List.map_map]
    exact List.map_snd_zip hlength.ge
  have hfst : (os.zip enriched).map Prod.fst = os := List.map_fst_zip hlength.le
  have hnames := congrArg (List.map Offer.agentId) hfst
  rw [List.map_map] at hnames
  have hids : pairs.map (·.1.1) = os.map (·.agentId) := by
    rw [List.map_map]
    exact hnames
  have hone := (hperm.filter fun p => (getD p "agent" .none).isStr o.agentId)
  rw [← hsnd] at hone
  have hpair : ((o.agentId, o.answer), e) ∈ pairs := List.mem_map.mpr ⟨(o, e),h,rfl⟩
  have hmatch : matching (pairs.map Prod.snd) o.agentId = [e] := by
    refine matching_pairs (p := ((o.agentId, o.answer), e)) ?_ (hids ▸ hnodup) hpair
    intro q hq
    obtain ⟨⟨o',e'⟩,hmem,rfl⟩ := List.mem_map.mp hq
    have hstored' : o'.StoredAs e' := hzip hmem
    rw [hstored'.others "agent" (by decide)]
    exact (hos o' (List.of_mem_zip hmem).1).agent
  unfold matching at hmatch ⊢
  rw [hmatch, List.perm_singleton] at hone
  exact hone

end

end ManufacturingMas.Proofs.Bids
