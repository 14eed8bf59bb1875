import ManufacturingMas.Agents.PlanningAgent
import ManufacturingMas.Proofs.MetricNumbers

/-! A proposal whose scores are computed a second time. -/

namespace ManufacturingMas.Proofs.Rescoring
open Py Agents Protocol PyFloat ScoreParts ScoreOrder MetricNumbers

/-! ### What the second computation reads -/

/-- The scores of an evaluated proposal. -/
def scoreKeys : List String :=
  ["total_score", "business_score", "comparison_score", "constraint_penalty", "constraint_status"]

def SameScores (e e' : Dict) : Prop := Assoc.AgreeOn scoreKeys e e'

theorem SameScores.total {e e' : Dict} (h : SameScores e e') :
    scoreOf "total_score" e = scoreOf "total_score" e' := by
  unfold scoreOf
  rw [getD_congr (h "total_score" (by decide))]

/-- What a zero of the comparison block is read as again: the aliases of the proposal's own
metrics, which no earlier block covers any more. -/
def reread (p : Dict) (m : Metric) : Val :=
  match m.aliases with
  | [] => .float (.fin 0)
  | k :: ks => firstOf (getD p "proposal_metrics" .none).asDict k ks

/-- A metric that comes to zero while its uncovered aliases have something else than zero and
than what a zero is scored as. -/
def Uncovered (p : Dict) (m : Metric) : Prop :=
  ReadsAs m.default 0 (firstOf (merged p) m.key m.aliases) ∧
    ¬ (ReadsAs m.default 0 (reread p m) ∨ ReadsAs m.default m.default (reread p m))

/-- No metric that counts is uncovered; without constraints a violation need only be a number
that a float holds. -/
def Steady (constraints p : Dict) : Prop :=
  ∀ m, Uncovered p m → m = .violation ∧ constraints.isEmpty = true ∧
    ∃ x, numberOr (reread p m) m.default = .ok x

/-! ### The second comparison block -/

def blockKeys : List String :=
  ["candidate_action", "expected_effect", "expected_cost", "quality_risk", "delivery_impact",
    "material_impact", "constraint_violation", "confidence", "schema_version"]

theorem normalize_keys {printer : Printer} {p block : Dict}
    (h : normalizeComparisonMetrics printer p = .ok block) : block.map Prod.fst = blockKeys := by
  unfold normalizeComparisonMetrics at h
  simp only [Traverse.bind_ok_iff] at h
  obtain ⟨_,_,_,_,_,_,_,_,_,_,_,_,_,_,hblock⟩ := h
  cases hblock
  rfl

theorem alias_not_blockKey {m : Metric} {k : String} (h : k ∈ m.aliases) : k ∉ blockKeys := by
  revert k
  cases m <;> decide

/-- A proposal that carries a normalized block, its other metrics unchanged. -/
structure Carries (printer : Printer) (p block e : Dict) : Prop where
  normalized : normalizeComparisonMetrics printer p = .ok block
  comparison : getD e "comparison" .none = .dict block
  metrics : getD e "proposal_metrics" .none = getD p "proposal_metrics" .none

theorem eq_zero_of_falsy {x : PyFloat} (h : x.truthy = false) : x = .fin 0 := by
  cases x with
  | fin q =>
    have hq : q = 0 := by simpa [PyFloat.truthy] using h
    rw [hq]
  | posInf | negInf | nan => cases h

section
variable {printer : Printer} {p block e : Dict}

theorem Carries.merged (h : Carries printer p block e) :
    merged e = Assoc.update (getD p "proposal_metrics" .none).asDict block := by
  unfold ScoreParts.merged
  rw [h.comparison, h.metrics]
  rfl

theorem Carries.get_axis (h : Carries printer p block e) (axis : Axis) :
    ∃ x, normalizedAxis p axis = .ok x ∧ getD (ScoreParts.merged e) axis.key .none = .float x := by
  obtain ⟨x,hx,hentry⟩ := axis_entry h.normalized axis
  have hnodup : (block.map Prod.fst).Nodup := by
    rw [normalize_keys h.normalized]
    decide
  refine ⟨x,hx,?_⟩
  rw [h.merged]
  exact getD_of_some (Assoc.get_update_of_get hnodup hentry) _

theorem Carries.get_alias (h : Carries printer p block e) {m : Metric} {k : String}
    (hk : k ∈ m.aliases) :
    Assoc.get (ScoreParts.merged e) k =
      Assoc.get (getD p "proposal_metrics" .none).asDict k := by
  rw [h.merged]
  apply Assoc.get_update_of_not_mem
  rw [normalize_keys h.normalized]
  exact alias_not_blockKey hk

/-- The second reading of a metric is that of the first, or of its aliases where that is zero. -/
theorem Carries.normalized_again (h : Carries printer p block e) {m : Metric} {x : PyFloat}
    (hx : ScoreParts.normalized p m = .ok x) :
    ScoreParts.normalized e m =
      if x.truthy then .ok x else numberOr (reread p m) m.default := by
  obtain ⟨y,hy,hread⟩ := h.get_axis (.scored m)
  have hsame : y = x := Except.ok.inj (hy.symm.trans hx)
  rw [hsame] at hread
  have hread : getD (ScoreParts.merged e) m.key .none = .float x := hread
  unfold ScoreParts.normalized reread
  cases haliases : m.aliases with
  | nil =>
    unfold firstOf
    rw [hread]
    cases htruthy : x.truthy with
    | true => rfl
    | false =>
      rw [eq_zero_of_falsy htruthy]
      rfl
  | cons k ks =>
    have hrest : firstOf (ScoreParts.merged e) k ks =
        firstOf (getD p "proposal_metrics" .none).asDict k ks := by
      apply firstOf_congr
      rw [← haliases]
      exact fun j hj => h.get_alias hj
    have hfirst : firstOf (ScoreParts.merged e) m.key (k :: ks) =
        (Val.float x).orElse (firstOf (ScoreParts.merged e) k ks) :=
      congrArg (Val.orElse · _) hread
    rw [hfirst, hrest]
    unfold Val.orElse
    change numberOr (if x.truthy = true then _ else _) _ = _
    split <;> rfl

theorem orDefault_default (m : Metric) : orDefault m (.fin m.default) = .fin m.default :=
  ite_self _

theorem orDefault_zero (m : Metric) : orDefault m (.fin 0) = .fin m.default := rfl

/-- A metric that is not uncovered is scored the same again. -/
theorem Carries.scored_again (h : Carries printer p block e) {m : Metric}
    (hcovered : ¬ Uncovered p m) : scored e m = scored p m := by
  obtain ⟨x,hx,_⟩ := normalize_entries h.normalized m
  unfold scored
  rw [h.normalized_again hx, hx]
  cases htruthy : x.truthy with
  | true => rfl
  | false =>
    obtain rfl := eq_zero_of_falsy htruthy
    have hreads : ReadsAs m.default 0 (reread p m) ∨ ReadsAs m.default m.default (reread p m) := by
      by_contra hnot
      exact hcovered ⟨(numberOr_iff _ _ _).mp hx,hnot⟩
    rw [if_neg (by simp)]
    rcases hreads with hzero | hdefault
    · rw [(numberOr_iff _ _ _).mpr hzero]
    · rw [(numberOr_iff _ _ _).mpr hdefault]
      simp [Except.map, orDefault_default, orDefault_zero]

/-- An uncovered metric is scored as the number under its aliases. -/
theorem Carries.scored_uncovered (h : Carries printer p block e) {m : Metric}
    (huncovered : Uncovered p m) :
    scored p m = .ok (.fin m.default) ∧
      scored e m = (numberOr (reread p m) m.default).map (orDefault m) := by
  have hx : ScoreParts.normalized p m = .ok (.fin 0) := (numberOr_iff _ _ _).mpr huncovered.1
  unfold scored
  rw [h.normalized_again hx, hx]
  exact ⟨rfl,rfl⟩

theorem Carries.normalize_again (h : Carries printer p block e)
    (hread : ∀ m, ∃ x, ScoreParts.normalized e m = .ok x) :
    ∃ block', normalizeComparisonMetrics printer e = .ok block' := by
  apply normalize_ok
  intro axis
  cases axis with
  | scored m => exact hread m
  | delivery =>
    obtain ⟨x,_,hentry⟩ := h.get_axis .delivery
    exact ⟨x,congrArg (numberOr · _) hentry⟩
  | material =>
    obtain ⟨x,_,hentry⟩ := h.get_axis .material
    exact ⟨x,congrArg (numberOr · _) hentry⟩

end

/-! ### The second evaluation -/

theorem sameScores_withEvaluation (p q block block' : Dict) (business comparison violation : PyFloat)
    (note : String) :
    SameScores (withEvaluation p block business comparison violation note)
      (withEvaluation q block' business comparison violation note) := by
  have hnone : Assoc.AgreeOn [] (Assoc.set p "comparison" (.dict block))
      (Assoc.set q "comparison" (.dict block')) := fun _ hkey => absurd hkey List.not_mem_nil
  exact ((((hnone.set _ _).set _ _).set _ _).set _ _).set _ _ |>.mono (by decide)

/-- The constraints are checked on the speeds and on the violation alone. -/
theorem scoreAgainst_congr {printer : Printer} {p q block block' constraints : Dict}
    (hspeed : getD q "speed_recommendation" .none = getD p "speed_recommendation" .none)
    (htarget : getD q "target_speed_pct" .none = getD p "target_speed_pct" .none)
    (hblock : normalizeComparisonMetrics printer p = .ok block)
    (hblock' : normalizeComparisonMetrics printer q = .ok block')
    (hscored : scored q .violation = scored p .violation) :
    scoreAgainstConstraints (Assoc.set q "comparison" (.dict block')) constraints =
      scoreAgainstConstraints (Assoc.set p "comparison" (.dict block)) constraints := by
  have hread : ∀ {r b : Dict}, normalizeComparisonMetrics printer r = .ok b →
      (getD (Assoc.set r "comparison" (.dict b)) "comparison" .none).orElse (.dict []) = .dict b := by
    intro r b hb
    obtain ⟨_,_,hentry⟩ := normalize_entries hb .violation
    cases b with
    | nil => cases hentry
    | cons _ _ => simp [getD, Val.orElse, Val.truthy]
  obtain ⟨s,hs⟩ := scored_ok hblock
  have hentry := floatOr_entry hblock .violation (hs .violation)
  have hentry' := floatOr_entry hblock' .violation (hscored.trans (hs .violation))
  simp only [Metric.key, Metric.default] at hentry hentry'
  unfold scoreAgainstConstraints
  rw [hread hblock, hread hblock']
  repeat rw [getD_set_of_ne (by decide)]
  rw [hspeed, htarget]
  simp only [fieldOf, bind, Except.bind, hentry, hentry']

/-- Two proposals with the same KPI scores, the same speeds and equally scored metrics. -/
structure ScoredAlike (constraints p q : Dict) : Prop where
  scores : getD q "scores" .none = getD p "scores" .none
  speed : getD q "speed_recommendation" .none = getD p "speed_recommendation" .none
  target : getD q "target_speed_pct" .none = getD p "target_speed_pct" .none
  metrics : ∀ m, m ≠ .violation ∨ constraints.isEmpty = false → scored q m = scored p m

theorem ScoredAlike.evaluate {printer : Printer} {weights : List (String × ℚ)}
    {p q constraints e block : Dict} (h : ScoredAlike constraints p q)
    (he : evaluateProposalWith printer weights p constraints = .ok e)
    (hblock : normalizeComparisonMetrics printer q = .ok block) :
    ∃ e', evaluateProposalWith printer weights q constraints = .ok e' ∧ SameScores e e' := by
  obtain ⟨first,business,comparison,violation,note,hfirst,hbusiness,hcomparison,hviolation,rfl⟩ :=
    evaluate_ok he
  obtain ⟨s,hs⟩ := scored_ok hfirst
  obtain ⟨s',hs'⟩ := scored_ok hblock
  have hother : ∀ n, n ≠ .violation → s' n = s n := by
    intro n hn
    have hsame := h.metrics n (.inl hn)
    rw [hs, hs'] at hsame
    exact Except.ok.inj hsame
  rw [comparisonScore_eq hfirst hs, ← comparisonOf_violation hother] at hcomparison
  refine ⟨withEvaluation q block business comparison violation note,?_,
    sameScores_withEvaluation p q first block business comparison violation note⟩
  apply evaluate_of_parts hblock
  · rw [h.scores]
    exact hbusiness
  · rw [comparisonScore_eq hblock hs']
    exact hcomparison
  · by_cases hempty : constraints.isEmpty = true
    · rw [if_pos hempty] at hviolation ⊢
      exact hviolation
    · rw [if_neg hempty] at hviolation ⊢
      have hsome : constraints.isEmpty = false := by simpa using hempty
      rw [scoreAgainst_congr h.speed h.target hfirst hblock (h.metrics _ (.inr hsome))]
      exact hviolation

section
variable {printer : Printer} {weights : List (String × ℚ)} {p constraints e : Dict}

theorem evaluate_carries (h : evaluateProposalWith printer weights p constraints = .ok e) :
    ∃ block, Carries printer p block e := by
  have hmetrics : getD e "proposal_metrics" .none = getD p "proposal_metrics" .none :=
    getD_congr (get_evaluateWith h (by decide)) _
  obtain ⟨block,_,_,_,_,hblock,_,_,_,rfl⟩ := evaluate_ok h
  refine ⟨block,hblock,?_,hmetrics⟩
  repeat rw [getD_set_of_ne (by decide)]
  simp [getD]

/-- A steady proposal is scored the same when its evaluation is evaluated. -/
theorem evaluate_again (h : evaluateProposalWith printer weights p constraints = .ok e)
    (hsteady : Steady constraints p) :
    ∃ e', evaluateProposalWith printer weights e constraints = .ok e' ∧ SameScores e e' := by
  obtain ⟨block,hcarries⟩ := evaluate_carries h
  have hsame : ∀ m, m ≠ .violation ∨ constraints.isEmpty = false → scored e m = scored p m := by
    intro m hm
    apply hcarries.scored_again
    intro huncovered
    obtain ⟨hviolation,hempty,_⟩ := hsteady m huncovered
    rcases hm with hm | hm
    · exact hm hviolation
    · rw [hm] at hempty
      cases hempty
  have hread : ∀ m, ∃ x, normalized e m = .ok x := by
    intro m
    obtain ⟨x,hx,_⟩ := normalize_entries hcarries.normalized m
    rw [hcarries.normalized_again hx]
    cases htruthy : x.truthy with
    | true => exact ⟨x,rfl⟩
    | false =>
      rw [if_neg (by simp)]
      by_cases huncovered : Uncovered p m
      · exact (hsteady m huncovered).2.2
      · have hzero : normalized p m = .ok (.fin 0) := by
          rw [hx, eq_zero_of_falsy htruthy]
        have hcovered := not_and_not_right.mp huncovered ((numberOr_iff _ _ _).mp hzero)
        rcases hcovered with hreads | hreads
        · exact ⟨_,(numberOr_iff _ _ _).mpr hreads⟩
        · exact ⟨_,(numberOr_iff _ _ _).mpr hreads⟩
  obtain ⟨block',hblock'⟩ := hcarries.normalize_again hread
  have hkept : ∀ key, key ∉ evaluationKeys → getD e key .none = getD p key .none :=
    fun key hkey => getD_congr (get_evaluateWith h hkey) _
  have halike : ScoredAlike constraints p e :=
    ⟨hkept _ (by decide),hkept _ (by decide),hkept _ (by decide),hsame⟩
  exact halike.evaluate h hblock'

end

/-! ### When the scores change -/

/-- The scores are kept, whatever the KPI scores of the proposal and their weights. -/
def ScoresKept (printer : Printer) (p constraints : Dict) : Prop :=
  ∀ weights scores e, evaluateProposalWith printer weights (withScores p scores) constraints = .ok e →
    ∃ e', evaluateProposalWith printer weights e constraints = .ok e' ∧ SameScores e e'

/-- The numbers under the uncovered aliases are between 0 and 1. -/
def OrdinaryAliases (p : Dict) : Prop :=
  ∀ m y, numberOr (reread p m) m.default = .ok y → ∃ q, y = .fin q ∧ 0 ≤ q ∧ q ≤ 1

/-- Other entries than the two blocks are no part of a reading. -/
theorem uncovered_set {key : String} (hmetrics : "proposal_metrics" ≠ key)
    (hcomparison : "comparison" ≠ key) (p : Dict) (v : Val) (m : Metric) :
    reread (Assoc.set p key v) m = reread p m ∧
      (Uncovered (Assoc.set p key v) m ↔ Uncovered p m) := by
  have hreread : reread (Assoc.set p key v) m = reread p m := by
    unfold reread
    rw [getD_set_of_ne hmetrics]
  refine ⟨hreread,?_⟩
  unfold Uncovered merged
  rw [getD_set_of_ne hmetrics, getD_set_of_ne hcomparison, hreread]

@[simp] theorem reread_withScores (p scores : Dict) (m : Metric) :
    reread (withScores p scores) m = reread p m :=
  (uncovered_set (by decide) (by decide) p _ m).1

theorem uncovered_withScores (p scores : Dict) (m : Metric) :
    Uncovered (withScores p scores) m ↔ Uncovered p m :=
  (uncovered_set (by decide) (by decide) p _ m).2

theorem steady_set {key : String} (hmetrics : "proposal_metrics" ≠ key)
    (hcomparison : "comparison" ≠ key) {constraints p : Dict} (v : Val) (h : Steady constraints p) :
    Steady constraints (Assoc.set p key v) := by
  intro m hm
  obtain ⟨hreread,huncovered⟩ := uncovered_set hmetrics hcomparison p v m
  rw [hreread]
  exact h m (huncovered.mp hm)

theorem exactScore_update_ne {constraints : Dict} {r : Metric → ℚ} {m : Metric} {q : ℚ} (base : ℚ)
    (hpositive : ∀ n, n ≠ .violation → 0 < r n) (hq : q ≠ r m)
    (hcounts : m = .violation → constraints.isEmpty = false) :
    exactScore constraints base r ≠ exactScore constraints base (Function.update r m q) := by
  intro heq
  unfold exactScore exactComparison exactPenalty at heq
  cases m with
  | effect =>
    simp only [Function.update_self, ne_eq, reduceCtorEq, not_false_eq_true,
      Function.update_of_ne] at heq
    have hproduct : (q - r .effect) * r .confidence = 0 := by linarith
    rcases mul_eq_zero.mp hproduct with hzero | hzero
    · exact hq (by linarith)
    · exact (hpositive .confidence (by decide)).ne' hzero
  | confidence =>
    simp only [Function.update_self, ne_eq, reduceCtorEq, not_false_eq_true,
      Function.update_of_ne] at heq
    have hproduct : r .effect * (q - r .confidence) = 0 := by linarith
    rcases mul_eq_zero.mp hproduct with hzero | hzero
    · exact (hpositive .effect (by decide)).ne' hzero
    · exact hq (by linarith)
  | cost | quality =>
    simp only [Function.update_self, ne_eq, reduceCtorEq, not_false_eq_true,
      Function.update_of_ne] at heq
    exact hq (by linarith)
  | violation =>
    simp only [Function.update_self, ne_eq, reduceCtorEq, not_false_eq_true,
      Function.update_of_ne, hcounts rfl, Bool.false_eq_true, if_false] at heq
    exact hq (by linarith)

section
variable {printer : Printer} {weights : List (String × ℚ)} {p constraints e : Dict}

/-- The scores of an uncovered metric's second reading. -/
theorem rescored (h : evaluateProposalWith printer weights p constraints = .ok e) {m : Metric}
    {r : Metric → ℚ} {q : ℚ} (hscored : ∀ n, scored p n = .ok (.fin (r n))) (hm : Uncovered p m)
    (honly : ∀ n, Uncovered p n → n = m) (hq : numberOr (reread p m) m.default = .ok (.fin q)) :
    q ≠ r m ∧ ∀ n, scored e n = .ok (.fin (Function.update r m q n)) := by
  obtain ⟨block,hcarries⟩ := evaluate_carries h
  obtain ⟨hfirst,hsecond⟩ := hcarries.scored_uncovered hm
  have hdefault : r m = m.default := by
    rw [hscored] at hfirst
    exact PyFloat.fin.inj (Except.ok.inj hfirst)
  have hne : q ≠ 0 ∧ q ≠ m.default := by
    refine ⟨?_,?_⟩
    · rintro rfl
      exact hm.2 (.inl ((numberOr_iff _ _ _).mp hq))
    · rintro rfl
      exact hm.2 (.inr ((numberOr_iff _ _ _).mp hq))
  refine ⟨hdefault ▸ hne.2,?_⟩
  intro n
  by_cases hn : n = m
  · subst hn
    rw [hsecond, hq, Function.update_self]
    simp [Except.map, orDefault, PyFloat.truthy, hne.1]
  · rw [Function.update_of_ne hn, hcarries.scored_again fun huncovered => hn (honly n huncovered)]
    exact hscored n

/-- Where the alias holds no number that a float can hold, the second evaluation raises. -/
theorem unreadable_change (h : evaluateProposalWith printer weights p constraints = .ok e)
    {m : Metric} {err : PyErr} (hm : Uncovered p m)
    (hread : numberOr (reread p m) m.default = .error err) : ¬ ScoresKept printer p constraints := by
  intro hkept
  obtain ⟨f,hf⟩ := evaluate_withScores h (businessScore_scoresOf (b := 0) (by norm_num))
  obtain ⟨f',hf',_⟩ := hkept _ _ _ hf
  obtain ⟨_,hcarries⟩ := evaluate_carries hf
  obtain ⟨_,_,_,_,_,hblock,_⟩ := evaluate_ok hf'
  obtain ⟨x,hx,_⟩ := normalize_entries hblock m
  have hzero : normalized (withScores p (scoresOf 0)) m = .ok (.fin 0) :=
    (numberOr_iff _ _ _).mpr ((uncovered_withScores p _ m).mpr hm).1
  rw [hcarries.normalized_again hzero, reread_withScores, hread] at hx
  cases hx

theorem range_update {r : Metric → ℚ} (hr : ∀ n, 0 ≤ r n ∧ r n ≤ 1) (m : Metric) {q : ℚ}
    (hq : 0 ≤ q ∧ q ≤ 1) (n : Metric) :
    0 ≤ Function.update r m q n ∧ Function.update r m q n ≤ 1 := by
  by_cases hn : n = m
  · subst hn
    rw [Function.update_self]
    exact hq
  · rw [Function.update_of_ne hn]
    exact hr n

/-- The totals of a proposal with some scores and of its evaluation, where one metric is
uncovered. -/
theorem rescored_totals (h : evaluateProposalWith printer weights p constraints = .ok e)
    {m : Metric} {r : Metric → ℚ} {q base b : ℚ} (hr : ∀ n, 0 ≤ r n ∧ r n ≤ 1)
    (hscored : ∀ n, scored p n = .ok (.fin (r n))) (hm : Uncovered p m)
    (honly : ∀ n, Uncovered p n → n = m) (hread : numberOr (reread p m) m.default = .ok (.fin q))
    (hq : 0 ≤ q ∧ q ≤ 1) (hlow : 0 ≤ base) (hhigh : base ≤ 4/5)
    (hlinear : LinearPenalty p constraints base) (hb : |b| ≤ 100) :
    ∃ f, evaluateProposalWith printer defaultKpiWeights (withScores p (scoresOf b)) constraints =
        .ok f ∧
      scoreOf "total_score" f = .fin (roundTo 4 (2/5 * b + exactScore constraints base r)) ∧
      ∀ f', evaluateProposalWith printer defaultKpiWeights f constraints = .ok f' →
        scoreOf "total_score" f' =
          .fin (roundTo 4 (2/5 * b + exactScore constraints base (Function.update r m q))) := by
  obtain ⟨f,hf⟩ := evaluate_withScores h (businessScore_scoresOf hb)
  refine ⟨f,hf,score_withScores hscored hr hlow hhigh hlinear hb hf,?_⟩
  intro f' hf'
  have hscores : (getD f "scores" .none).asDict = scoresOf b := by
    rw [getD_congr (get_evaluateWith hf (by decide)), withScores, getD_set_self, Val.asDict]
  have hspeed : speedPenalty f constraints = speedPenalty p constraints := by
    rw [← speedPenalty_withScores p (scoresOf b)]
    unfold speedPenalty
    rw [getD_congr (get_evaluateWith hf (by decide)), getD_congr (get_evaluateWith hf (by decide))]
  have hagain := (rescored hf (fun n => (scored_withScores p _ n).trans (hscored n))
    ((uncovered_withScores p _ m).mpr hm)
    (fun n hn => honly n ((uncovered_withScores p _ n).mp hn))
    ((congrArg (numberOr · _) (reread_withScores p _ m)).trans hread)).2
  exact score_of_scoresOf hscores hagain (range_update hr m hq) hlow hhigh (hlinear.congr hspeed)
    hb hf'

theorem scores_change (h : evaluateProposalWith printer weights p constraints = .ok e)
    (hordinary : Ordinary p) (haliases : OrdinaryAliases p) {m : Metric} (hm : Uncovered p m)
    (honly : ∀ n, Uncovered p n → n = m)
    (hcounts : ¬ (m = .violation ∧ constraints.isEmpty = true ∧
      ∃ x, numberOr (reread p m) m.default = .ok x)) : ¬ ScoresKept printer p constraints := by
  cases hread : numberOr (reread p m) m.default with
  | error err => exact unreadable_change h hm hread
  | ok y =>
    intro hkept
    obtain ⟨q,rfl,hq⟩ := haliases m y hread
    obtain ⟨s,_,_,hs,_⟩ := evaluate_score h
    obtain ⟨r,hr,rfl⟩ := hordinary.numbers hs
    have hpositive : ∀ n, n ≠ Metric.violation → 0 < r n := fun n hn =>
      lt_of_le_of_ne (hr n).1 (scored_ne_zero hn (hs n)).symm
    have hsome : m = .violation → constraints.isEmpty = false := by
      intro hviolation
      by_contra hempty
      exact hcounts ⟨hviolation,by simpa using hempty,_,hread⟩
    obtain ⟨base,hlow,hhigh,hlinear⟩ := linearPenalty_exists p constraints
    have hne := exactScore_update_ne base hpositive (rescored h hs hm honly hread).1 hsome
    -- some scores bring the two totals to the two sides of a tie
    obtain ⟨b,hb,hapart⟩ := exists_apart hne (exactScore_bound constraints hlow hhigh hr)
      (exactScore_bound constraints hlow hhigh (range_update hr m hq))
    obtain ⟨f,hf,htotal,htotal'⟩ :=
      rescored_totals h hr hs hm honly hread hq hlow hhigh hlinear hb
    obtain ⟨f',hf',hsame⟩ := hkept _ _ _ hf
    have hequal := hsame.total
    rw [htotal, htotal' f' hf'] at hequal
    exact hapart (PyFloat.fin.inj hequal)

end

/-! ### The ranking of collected proposals -/

section
variable {σ : Type} {env : CnpEnv σ} {session : CNPSession}

/-- What a round stores of a steady answer. -/
def Collected (env : CnpEnv σ) (session : CNPSession) (proposal : Dict) : Prop :=
  ∃ raw, acceptAnswer env session (some raw) = .ok (some proposal) ∧
    Steady session.constraints.toDict raw

theorem Collected.evaluate_again {proposal : Dict} (h : Collected env session proposal) :
    ∃ e, evaluateProposal env.printer proposal session.constraints.toDict = .ok e ∧
      SameScores proposal e := by
  obtain ⟨raw,hraw,hsteady⟩ := h
  cases raw with
  | nil => cases hraw
  | cons entry raw =>
    unfold acceptAnswer at hraw
    simp only [Traverse.bind_ok_iff] at hraw
    obtain ⟨speed,_,e,he,hstored⟩ := hraw
    cases hstored
    exact Rescoring.evaluate_again he (steady_set (by decide) (by decide) _ hsteady)

/-- The scores that a ranking goes by are those of the collection. -/
theorem rank_collected {proposals : List Dict} (h : ∀ p ∈ proposals, Collected env session p) :
    ∃ enriched, rankProposalsByComparison env.printer proposals session.constraints.toDict =
        .ok (Ranking.sortDescending keyLt rankKey enriched) ∧
      List.Forall₂ SameScores proposals enriched := by
  obtain ⟨enriched,hsame⟩ : ∃ enriched, List.Forall₂ (fun p e =>
      evaluateProposal env.printer p session.constraints.toDict = .ok e ∧ SameScores p e)
      proposals enriched := by
    induction proposals with
    | nil => exact ⟨[],.nil⟩
    | cons p proposals ih =>
      obtain ⟨e,he⟩ := (h p List.mem_cons_self).evaluate_again
      obtain ⟨enriched,hrest⟩ := ih fun q hq => h q (List.mem_cons_of_mem _ hq)
      exact ⟨e :: enriched,.cons he hrest⟩
  refine ⟨enriched,?_,hsame.imp fun _ _ hpair => hpair.2⟩
  unfold rankProposalsByComparison
  rw [Traverse.mapM_ok_iff.mpr (hsame.imp fun _ _ hpair => hpair.1)]
  rfl

end

/-- An alias of zero in the comparison block over one that is not. -/
def coveredBenefit : Dict :=
  [("proposal_metrics", .dict [("expected_benefit", .float (.fin (9/10)))]),
    ("comparison", .dict [("expected_benefit", .int 0)])]

end ManufacturingMas.Proofs.Rescoring
