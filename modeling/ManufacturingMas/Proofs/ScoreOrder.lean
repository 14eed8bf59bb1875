import ManufacturingMas.Proofs.ScoreParts

/-! How the total score of a proposal depends on each of its metrics. -/

namespace ManufacturingMas.Proofs.ScoreOrder
open Py Agents PyFloat ScoreParts

/-! ### Two proposals that differ in one metric -/

/-- Two proposals that agree except in one metric, in which the first is better. -/
structure OnAxis (m : Metric) (p p' : Dict) (q q' : ℚ) : Prop where
  entries : ∀ key, key ≠ "proposal_metrics" → key ≠ "comparison" →
    Assoc.get p' key = Assoc.get p key
  metrics : ∀ key, key ≠ m.key → Assoc.get (merged p') key = Assoc.get (merged p) key
  given : Given p m q
  given' : Given p' m q'
  range : 0 ≤ q ∧ q ≤ 1
  range' : 0 ≤ q' ∧ q' ≤ 1
  better : if m.higherIsBetter then q' < q else q < q'

theorem firstOf_congr {d d' : Dict} {k : String} {ks : List String}
    (h : ∀ j ∈ k :: ks, Assoc.get d' j = Assoc.get d j) : firstOf d' k ks = firstOf d k ks := by
  induction ks generalizing k with
  | nil =>
    unfold firstOf
    rw [getD_congr (h k List.mem_cons_self)]
  | cons j ks ih =>
    have hrest : firstOf d' j ks = firstOf d j ks := ih fun i hi => h i (List.mem_cons_of_mem _ hi)
    unfold firstOf
    rw [getD_congr (h k List.mem_cons_self), hrest]

/-- No metric is read under the canonical key of another. -/
theorem key_not_mem {m n : Metric} (h : n ≠ m) : m.key ∉ n.key :: n.aliases := by
  cases m <;> cases n <;> first | exact absurd rfl h | decide

theorem key_not_alias (m : Metric) : m.key ∉ m.aliases := by
  cases m <;> decide

section
variable {m : Metric} {p p' : Dict} {q q' : ℚ}

theorem OnAxis.scored_other (axis : OnAxis m p p' q q') {n : Metric} (h : n ≠ m) :
    scored p' n = scored p n := by
  unfold scored normalized
  rw [firstOf_congr fun j hj => axis.metrics j fun hkey => key_not_mem h (hkey ▸ hj)]

theorem OnAxis.standIn_eq (axis : OnAxis m p p' q q') : standIn p' m = standIn p m := by
  have hnot := key_not_alias m
  unfold standIn
  cases haliases : m.aliases with
  | nil => rfl
  | cons k ks =>
    rw [haliases] at hnot
    dsimp only
    rw [firstOf_congr fun j hj => axis.metrics j fun hkey => hnot (hkey ▸ hj)]

theorem OnAxis.speedPenalty_eq (axis : OnAxis m p p' q q') (constraints : Dict) :
    speedPenalty p' constraints = speedPenalty p constraints := by
  unfold speedPenalty
  rw [getD_congr (axis.entries _ (by decide) (by decide)),
    getD_congr (axis.entries _ (by decide) (by decide))]

/-- A zero is scored as nothing better than the number it is compared with. -/
def HarmlessZero (m : Metric) (p : Dict) (q q' : ℚ) : Prop :=
  if m.higherIsBetter then q' = 0 → ∀ x, standIn p m = .ok x → Le x (.fin q)
  else q = 0 → ∀ x, standIn p m = .ok x → Le x (.fin q')

/-- The better number is scored as the better one. -/
theorem OnAxis.scored_le (axis : OnAxis m p p' q q') (hzero : HarmlessZero m p q q')
    {x x' : PyFloat} (hx : scored p m = .ok x) (hx' : scored p' m = .ok x') :
    if m.higherIsBetter then Le x' x else Le x x' := by
  have hbetter := axis.better
  have hlow := axis.range.1
  have hlow' := axis.range'.1
  rw [scored_of_given axis.given] at hx
  rw [scored_of_given axis.given', axis.standIn_eq] at hx'
  unfold HarmlessZero at hzero
  cases hm : m.higherIsBetter with
  | true =>
    simp only [hm, if_true] at hbetter hzero ⊢
    have hq : q ≠ 0 := (lt_of_le_of_lt hlow' hbetter).ne'
    rw [if_neg hq] at hx
    cases hx
    by_cases hq' : q' = 0
    · rw [if_pos hq'] at hx'
      exact hzero hq' x' hx'
    · rw [if_neg hq'] at hx'
      cases hx'
      exact (le_fin _ _).mpr hbetter.le
  | false =>
    simp only [hm, Bool.false_eq_true, if_false] at hbetter hzero ⊢
    have hq' : q' ≠ 0 := (lt_of_le_of_lt hlow hbetter).ne'
    rw [if_neg hq'] at hx'
    cases hx'
    by_cases hq : q = 0
    · rw [if_pos hq] at hx
      exact hzero hq x hx
    · rw [if_neg hq] at hx
      cases hx
      exact (le_fin _ _).mpr hbetter.le

/-- The metric is not scored with a negative number, nor with a nan. -/
def NotNegative (p : Dict) (n : Metric) : Prop := ∀ x, scored p n = .ok x → Le (.fin 0) x

/-- When the better proposal has the better score: its advantage is no zero that counts as
something else, and the factor it is weighed with is not negative. -/
def Sound (constraints : Dict) (m : Metric) (p : Dict) (q q' : ℚ) : Prop :=
  match m with
  | .effect => HarmlessZero m p q q' ∧ NotNegative p .confidence
  | .confidence => HarmlessZero m p q q' ∧ NotNegative p .effect
  | .violation => constraints.isEmpty = true ∨ HarmlessZero m p q q'
  | .cost | .quality => HarmlessZero m p q q'

theorem finalScore_comparison {comparison comparison' : PyFloat}
    (h : NotBelow comparison comparison') (business penalty : PyFloat) :
    NotBelow (finalScore business comparison penalty) (finalScore business comparison' penalty) :=
  ((h.mul_left ((le_fin _ _).mpr (by norm_num))).add_left _).sub_right _

theorem finalScore_penalty {penalty penalty' : PyFloat} (h : NotBelow penalty' penalty)
    (business comparison : PyFloat) :
    NotBelow (finalScore business comparison penalty) (finalScore business comparison penalty') :=
  (h.mul_left ((le_fin _ _).mpr (by norm_num))).sub_left _

theorem penalized_of_le {constraints : Dict} {x x' penalty penalty' : PyFloat} (hle : Le x x')
    (h : Penalized p constraints x penalty) (h' : Penalized p constraints x' penalty') :
    NotBelow penalty' penalty := by
  unfold Penalized at h h'
  split at h
  · rename_i hempty
    rw [if_pos hempty] at h'
    rw [h, h']
    exact notBelow_self _
  · rename_i hsome
    rw [if_neg hsome] at h'
    obtain ⟨base,hbase,rfl⟩ := h
    obtain ⟨base',hbase',rfl⟩ := h'
    rw [hbase] at hbase'
    cases hbase'
    have hscaled : NotBelow ((PyFloat.fin base).add (x'.mul (.fin (1/5))))
        ((PyFloat.fin base).add (x.mul (.fin (1/5)))) :=
      (hle.notBelow.mul_right ((le_fin _ _).mpr (by norm_num))).add_left _
    exact hscaled.min (add_mul_ne_nan (ne_nan_of_le hle) base (by norm_num))

theorem penalized_unique {constraints : Dict} {x penalty penalty' : PyFloat}
    (h : Penalized p constraints x penalty) (h' : Penalized p constraints x penalty') :
    penalty' = penalty := by
  unfold Penalized at h h'
  split at h
  · rename_i hempty
    rw [if_pos hempty] at h'
    rw [h, h']
  · rename_i hsome
    rw [if_neg hsome] at h'
    obtain ⟨base,hbase,rfl⟩ := h
    obtain ⟨base',hbase',rfl⟩ := h'
    rw [hbase] at hbase'
    cases hbase'
    rfl

/-- The parts of both scores, those of the second in terms of the first's. -/
theorem OnAxis.parts {printer : Printer} {weights : List (String × ℚ)} {constraints e e' : Dict}
    (axis : OnAxis m p p' q q') (h : evaluateProposalWith printer weights p constraints = .ok e)
    (h' : evaluateProposalWith printer weights p' constraints = .ok e') :
    ∃ s s' business penalty penalty', (∀ n, scored p n = .ok (s n)) ∧
      (∀ n, scored p' n = .ok (s' n)) ∧ (∀ n, n ≠ m → s' n = s n) ∧
      Penalized p constraints (s .violation) penalty ∧
      Penalized p constraints (s' .violation) penalty' ∧
      scoreOf "total_score" e = (finalScore business (comparisonOf s) penalty).round 4 ∧
      scoreOf "total_score" e' = (finalScore business (comparisonOf s') penalty').round 4 := by
  obtain ⟨s,business,penalty,hs,hbusiness,hpenalty,htotal⟩ := evaluate_score h
  obtain ⟨s',business',penalty',hs',hbusiness',hpenalty',htotal'⟩ := evaluate_score h'
  have hscores : getD p' "scores" .none = getD p "scores" .none :=
    getD_congr (axis.entries _ (by decide) (by decide)) _
  rw [hscores, hbusiness] at hbusiness'
  cases hbusiness'
  refine ⟨s,s',business,penalty,penalty',hs,hs',?_,hpenalty,
    hpenalty'.congr (axis.speedPenalty_eq constraints),htotal,
    htotal'⟩
  intro n hn
  have hsame := axis.scored_other hn
  rw [hs, hs'] at hsame
  exact Except.ok.inj hsame

/-- A comparison follows each of its metrics, the two factors where the other one is not
negative. -/
theorem comparisonOf_not_below {s s' : Metric → PyFloat} (hm : m ≠ .violation)
    (hother : ∀ n, n ≠ m → s' n = s n)
    (hle : if m.higherIsBetter then Le (s' m) (s m) else Le (s m) (s' m))
    (heffect : m = .effect → Le (.fin 0) (s .confidence))
    (hconfidence : m = .confidence → Le (.fin 0) (s .effect)) :
    NotBelow (comparisonOf s) (comparisonOf s') := by
  unfold comparisonOf
  cases m with
  | effect =>
    have hle : Le (s' .effect) (s .effect) := hle
    rw [hother .confidence (by decide), hother .cost (by decide), hother .quality (by decide)]
    exact ((hle.notBelow.mul_right (heffect rfl)).sub_right _).sub_right _
  | confidence =>
    have hle : Le (s' .confidence) (s .confidence) := hle
    rw [hother .effect (by decide), hother .cost (by decide), hother .quality (by decide)]
    exact ((hle.notBelow.mul_left (hconfidence rfl)).sub_right _).sub_right _
  | cost =>
    have hle : Le (s .cost) (s' .cost) := hle
    rw [hother .effect (by decide), hother .confidence (by decide), hother .quality (by decide)]
    exact ((hle.notBelow.mul_left ((le_fin _ _).mpr (by norm_num))).sub_left _).sub_right _
  | quality =>
    have hle : Le (s .quality) (s' .quality) := hle
    rw [hother .effect (by decide), hother .confidence (by decide), hother .cost (by decide)]
    exact (hle.notBelow.mul_left ((le_fin _ _).mpr (by norm_num))).sub_left _
  | violation => exact absurd rfl hm

/-- A violation is no part of a comparison. -/
theorem comparisonOf_violation {s s' : Metric → PyFloat}
    (hother : ∀ n, n ≠ .violation → s' n = s n) : comparisonOf s' = comparisonOf s := by
  unfold comparisonOf
  rw [hother .effect (by decide), hother .confidence (by decide), hother .cost (by decide),
    hother .quality (by decide)]

theorem Sound.harmless {constraints : Dict} (h : Sound constraints m p q q')
    (hm : m ≠ .violation) : HarmlessZero m p q q' := by
  cases m with
  | effect | confidence => exact h.1
  | cost | quality => exact h
  | violation => exact absurd rfl hm

theorem OnAxis.not_below {printer : Printer} {weights : List (String × ℚ)}
    {constraints e e' : Dict} (axis : OnAxis m p p' q q')
    (h : evaluateProposalWith printer weights p constraints = .ok e)
    (h' : evaluateProposalWith printer weights p' constraints = .ok e')
    (hsound : Sound constraints m p q q') :
    NotBelow (scoreOf "total_score" e) (scoreOf "total_score" e') := by
  obtain ⟨s,s',business,penalty,penalty',hs,hs',hother,hpenalty,hpenalty',htotal,htotal'⟩ :=
    axis.parts h h'
  rw [htotal, htotal']
  refine NotBelow.round ?_ 4
  by_cases hm : m = .violation
  · subst hm
    rw [comparisonOf_violation hother]
    refine finalScore_penalty ?_ _ _
    rcases hsound with hempty | hzero
    · unfold Penalized at hpenalty hpenalty'
      rw [if_pos hempty] at hpenalty hpenalty'
      rw [hpenalty, hpenalty']
      exact notBelow_self _
    · exact penalized_of_le (axis.scored_le hzero (hs _) (hs' _)) hpenalty hpenalty'
  · rw [hother .violation (Ne.symm hm)] at hpenalty'
    rw [penalized_unique hpenalty hpenalty']
    refine finalScore_comparison ?_ _ _
    apply comparisonOf_not_below hm hother (axis.scored_le (hsound.harmless hm) (hs _) (hs' _))
    · rintro rfl
      exact hsound.2 _ (hs _)
    · rintro rfl
      exact hsound.2 _ (hs _)

/-! ### The exact condition -/

/-- Every metric is scored with a number between 0 and 1. -/
def Ordinary (p : Dict) : Prop := ∀ n x, scored p n = .ok x → ∃ r, x = .fin r ∧ 0 ≤ r ∧ r ≤ 1

theorem Ordinary.numbers {s : Metric → PyFloat} (h : Ordinary p) (hs : ∀ n, scored p n = .ok (s n)) :
    ∃ r : Metric → ℚ, (∀ n, 0 ≤ r n ∧ r n ≤ 1) ∧ s = fun n => .fin (r n) := by
  choose r hr using fun n => h n (s n) (hs n)
  exact ⟨r,fun n => (hr n).2,funext fun n => (hr n).1⟩

/-- Only a violation is ever scored with a zero. -/
theorem scored_ne_zero {n : Metric} {r : ℚ} (hn : n ≠ .violation) (h : scored p n = .ok (.fin r)) :
    r ≠ 0 := by
  rintro rfl
  have hdefault : n.default ≠ 0 := Metric.default_ne_zero hn
  unfold scored at h
  cases hx : normalized p n with
  | error err =>
    rw [hx] at h
    cases h
  | ok x =>
    rw [hx] at h
    have hscored : orDefault n x = .fin 0 := Except.ok.inj h
    unfold orDefault at hscored
    split at hscored
    · rename_i htruthy
      rw [hscored] at htruthy
      simp [PyFloat.truthy] at htruthy
    · exact hdefault (PyFloat.fin.inj hscored)

/-- Where the zero is not harmless, the better number is scored as the worse one. -/
theorem OnAxis.scored_lt (axis : OnAxis m p p' q q') (hzero : ¬ HarmlessZero m p q q') {r r' : ℚ}
    (hr : scored p m = .ok (.fin r)) (hr' : scored p' m = .ok (.fin r')) :
    if m.higherIsBetter then r < r' else r' < r := by
  have hbetter := axis.better
  rw [scored_of_given axis.given] at hr
  rw [scored_of_given axis.given', axis.standIn_eq] at hr'
  unfold HarmlessZero at hzero
  cases hm : m.higherIsBetter with
  | true =>
    simp only [hm, if_true] at hbetter hzero ⊢
    push Not at hzero
    obtain ⟨rfl,x,hx,hnot⟩ := hzero
    rw [if_neg hbetter.ne'] at hr
    cases hr
    rw [if_pos rfl, hx] at hr'
    cases hr'
    exact not_le.mp fun hle => hnot ((le_fin _ _).mpr hle)
  | false =>
    simp only [hm, Bool.false_eq_true, if_false] at hbetter hzero ⊢
    push Not at hzero
    obtain ⟨rfl,x,hx,hnot⟩ := hzero
    rw [if_neg hbetter.ne'] at hr'
    cases hr'
    rw [if_pos rfl, hx] at hr
    cases hr
    exact not_le.mp fun hle => hnot ((le_fin _ _).mpr hle)

/-- The exact score of the better proposal is the lower one where the condition fails. -/
theorem OnAxis.exactScore_lt (axis : OnAxis m p p' q q') {constraints : Dict}
    (hunsound : ¬ Sound constraints m p q q') {r r' : Metric → ℚ}
    (hscored : ∀ n, scored p n = .ok (.fin (r n))) (hscored' : ∀ n, scored p' n = .ok (.fin (r' n)))
    (hother : ∀ n, n ≠ m → r' n = r n) (hr : ∀ n, 0 ≤ r n ∧ r n ≤ 1) (base : ℚ) :
    exactScore constraints base r < exactScore constraints base r' := by
  have hlt := fun hzero => axis.scored_lt hzero (hscored m) (hscored' m)
  have hpositive : ∀ n, n ≠ Metric.violation → 0 < r n := fun n hn =>
    lt_of_le_of_ne (hr n).1 (scored_ne_zero hn (hscored n)).symm
  have hweight : ∀ n, NotNegative p n := by
    intro n x hx
    rw [hscored] at hx
    cases hx
    exact (le_fin _ _).mpr (hr n).1
  unfold exactScore exactComparison
  cases m with
  | effect =>
    have heffect : r .effect < r' .effect := hlt fun hzero => hunsound ⟨hzero,hweight _⟩
    have hproduct := mul_lt_mul_of_pos_right heffect (hpositive .confidence (by decide))
    rw [hother .confidence (by decide), hother .cost (by decide), hother .quality (by decide),
      hother .violation (by decide)]
    linarith
  | confidence =>
    have hconfidence : r .confidence < r' .confidence := hlt fun hzero =>
      hunsound ⟨hzero,hweight _⟩
    have hproduct := mul_lt_mul_of_pos_left hconfidence (hpositive .effect (by decide))
    rw [hother .effect (by decide), hother .cost (by decide), hother .quality (by decide),
      hother .violation (by decide)]
    linarith
  | cost =>
    have hcost : r' .cost < r .cost := hlt hunsound
    rw [hother .effect (by decide), hother .confidence (by decide), hother .quality (by decide),
      hother .violation (by decide)]
    linarith
  | quality =>
    have hquality : r' .quality < r .quality := hlt hunsound
    rw [hother .effect (by decide), hother .confidence (by decide), hother .cost (by decide),
      hother .violation (by decide)]
    linarith
  | violation =>
    obtain ⟨hsome,hzero⟩ := not_or.mp hunsound
    have hviolation : r' .violation < r .violation := hlt hzero
    rw [hother .effect (by decide), hother .confidence (by decide), hother .cost (by decide),
      hother .quality (by decide)]
    unfold exactPenalty
    rw [if_neg hsome, if_neg hsome]
    linarith

/-- With some scores, the better proposal has the lower total. -/
theorem OnAxis.total_lt {printer : Printer} {weights : List (String × ℚ)}
    {constraints e e' : Dict} (axis : OnAxis m p p' q q')
    (h : evaluateProposalWith printer weights p constraints = .ok e)
    (h' : evaluateProposalWith printer weights p' constraints = .ok e') (hordinary : Ordinary p)
    (hordinary' : Ordinary p') (hunsound : ¬ Sound constraints m p q q') :
    ∃ scores f f',
      evaluateProposalWith printer defaultKpiWeights (withScores p scores) constraints = .ok f ∧
      evaluateProposalWith printer defaultKpiWeights (withScores p' scores) constraints = .ok f' ∧
      ¬ NotBelow (scoreOf "total_score" f) (scoreOf "total_score" f') := by
  obtain ⟨s,s',_,_,_,hs,hs',hother,_⟩ := axis.parts h h'
  obtain ⟨r,hr,rfl⟩ := hordinary.numbers hs
  obtain ⟨r',hr',rfl⟩ := hordinary'.numbers hs'
  have hsame : ∀ n, n ≠ m → r' n = r n := fun n hn => PyFloat.fin.inj (hother n hn)
  obtain ⟨base,hlow,hhigh,hlinear⟩ := linearPenalty_exists p constraints
  have hlinear' : LinearPenalty p' constraints base :=
    hlinear.congr (axis.speedPenalty_eq constraints)
  have hexact := axis.exactScore_lt hunsound hs hs' hsame hr base
  obtain ⟨b,hsmall,hlt⟩ := exists_separating hexact (exactScore_bound constraints hlow hhigh hr)
    (exactScore_bound constraints hlow hhigh hr')
  obtain ⟨f,hf⟩ := evaluate_withScores h (businessScore_scoresOf hsmall)
  obtain ⟨f',hf'⟩ := evaluate_withScores h' (businessScore_scoresOf hsmall)
  refine ⟨scoresOf b,f,f',hf,hf',?_⟩
  rw [score_withScores hs hr hlow hhigh hlinear hsmall hf,
    score_withScores hs' hr' hlow hhigh hlinear' hsmall hf', notBelow_fin, not_le]
  exact hlt

/-- Other scores change nothing about the metrics. -/
theorem OnAxis.withScores (axis : OnAxis m p p' q q') (scores : Dict) :
    OnAxis m (withScores p scores) (withScores p' scores) q q' where
  entries := by
    intro key hmetrics hcomparison
    by_cases hkey : key = "scores"
    · rw [hkey]
      simp [ScoreParts.withScores]
    · unfold ScoreParts.withScores
      rw [Assoc.get_set_of_ne hkey, Assoc.get_set_of_ne hkey]
      exact axis.entries key hmetrics hcomparison
  metrics := by
    rw [merged_withScores, merged_withScores]
    exact axis.metrics
  given := by
    unfold Given
    rw [merged_withScores]
    exact axis.given
  given' := by
    unfold Given
    rw [merged_withScores]
    exact axis.given'
  range := axis.range
  range' := axis.range'
  better := axis.better

theorem sound_withScores (constraints : Dict) (m : Metric) (p scores : Dict) (q q' : ℚ) :
    Sound constraints m (withScores p scores) q q' ↔ Sound constraints m p q q' := by
  cases m <;> simp [Sound, HarmlessZero, NotNegative]

/-- The total of the first proposal is not lower, whatever they both scored elsewhere and
whatever that weighs. -/
def NeverLower (printer : Printer) (p p' constraints : Dict) : Prop :=
  ∀ weights scores e e',
    evaluateProposalWith printer weights (withScores p scores) constraints = .ok e →
    evaluateProposalWith printer weights (withScores p' scores) constraints = .ok e' →
    NotBelow (scoreOf "total_score" e) (scoreOf "total_score" e')

end

/-! ### Proposals that carry all metrics -/

def textPrinter : Printer :=
  ⟨fun v => match v with | .str text => text | _ => "",fun _ _ => .ok ""⟩

def ratings (r : Metric → ℚ) (ms : List Metric) : Dict :=
  ms.map fun n => (n.key,.float (.fin (r n)))

/-- A proposal that carries all metrics. -/
def ratedProposal (r : Metric → ℚ) : Dict :=
  [("proposal_metrics", .dict (ratings r [.effect, .cost, .quality, .violation, .confidence]))]

theorem merged_rated (r : Metric → ℚ) :
    merged (ratedProposal r) = ratings r [.effect, .cost, .quality, .violation, .confidence] := by
  simp [merged, ratedProposal, getD, Val.asDict, Assoc.update]

theorem get_ratings (r : Metric → ℚ) {ms : List Metric} {m : Metric} (h : m ∈ ms) :
    Assoc.get (ratings r ms) m.key = some (.float (.fin (r m))) := by
  have hinj : ∀ n : Metric, n.key = m.key → n = m := by
    intro n
    cases n <;> cases m <;> first | exact fun _ => rfl | (intro hkey; revert hkey; decide)
  unfold ratings
  induction ms with
  | nil => cases h
  | cons n ms ih =>
    rw [List.map_cons, Assoc.get_cons]
    by_cases hkey : n.key = m.key
    · rw [if_pos hkey, hinj n hkey]
    · rw [if_neg hkey]
      refine ih (List.mem_of_ne_of_mem ?_ h)
      rintro rfl
      exact hkey rfl

theorem ratings_other {r r' : Metric → ℚ} {m : Metric} (hother : ∀ n, n ≠ m → r' n = r n)
    {key : String} (hkey : key ≠ m.key) (ms : List Metric) :
    Assoc.get (ratings r' ms) key = Assoc.get (ratings r ms) key := by
  unfold ratings
  induction ms with
  | nil => rfl
  | cons n ms ih =>
    rw [List.map_cons, List.map_cons, Assoc.get_cons, Assoc.get_cons, ih]
    by_cases hn : n = m
    · rw [hn, if_neg hkey.symm, if_neg hkey.symm]
    · rw [hother n hn]

theorem given_rated (r : Metric → ℚ) (m : Metric) : Given (ratedProposal r) m (r m) := by
  refine ⟨.float (.fin (r m)),?_,rfl⟩
  rw [merged_rated]
  exact get_ratings r (by cases m <;> decide)

theorem rated_onAxis {r r' : Metric → ℚ} {m : Metric} (hother : ∀ n, n ≠ m → r' n = r n)
    (hrange : 0 ≤ r m ∧ r m ≤ 1) (hrange' : 0 ≤ r' m ∧ r' m ≤ 1)
    (hbetter : if m.higherIsBetter then r' m < r m else r m < r' m) :
    OnAxis m (ratedProposal r) (ratedProposal r') (r m) (r' m) := by
  refine ⟨?_,?_,given_rated r m,given_rated r' m,hrange,hrange',hbetter⟩
  · intro key hmetrics _
    unfold ratedProposal
    rw [Assoc.get_cons, Assoc.get_cons, if_neg hmetrics.symm, if_neg hmetrics.symm]
  · intro key hkey
    rw [merged_rated, merged_rated]
    exact ratings_other hother hkey _

theorem get_ratings_none (r : Metric → ℚ) {ms : List Metric} {key : String}
    (h : ∀ n : Metric, n.key ≠ key) : Assoc.get (ratings r ms) key = none := by
  unfold ratings
  induction ms with
  | nil => rfl
  | cons n ms ih => rw [List.map_cons, Assoc.get_cons, if_neg (h n), ih]

theorem standIn_rated (r : Metric → ℚ) (m : Metric) :
    standIn (ratedProposal r) m = .ok (.fin m.default) := by
  have hnone : ∀ key, (∀ n : Metric, n.key ≠ key) →
      getD (merged (ratedProposal r)) key .none = .none := by
    intro key hkey
    rw [merged_rated]
    exact getD_of_none (get_ratings_none r hkey) _
  have hdefault : ∀ x : Val, x = .none →
      (numberOr x m.default).map (orDefault m) = .ok (.fin m.default) := by
    rintro x rfl
    exact congrArg Except.ok (ite_self _)
  have hfirst : ∀ keys key, (∀ k ∈ key :: keys, ∀ n : Metric, n.key ≠ k) →
      firstOf (merged (ratedProposal r)) key keys = .none := by
    intro keys
    induction keys with
    | nil => exact fun key h => hnone key (h key List.mem_cons_self)
    | cons k keys ih =>
      intro key h
      unfold firstOf
      rw [hnone key (h key List.mem_cons_self), ih k fun j hj => h j (List.mem_cons_of_mem _ hj)]
      rfl
  unfold standIn
  cases haliases : m.aliases with
  | nil => rfl
  | cons k keys =>
    refine hdefault _ (hfirst keys k ?_)
    rw [← haliases]
    intro j hj n
    cases m <;> cases n <;> revert j <;> decide

/-- Proposals that carry all metrics within range are scored within range. -/
theorem ordinary_rated {r : Metric → ℚ} (h : ∀ n, 0 ≤ r n ∧ r n ≤ 1) :
    Ordinary (ratedProposal r) := by
  intro n x hx
  rw [scored_of_given (given_rated r n), standIn_rated] at hx
  split at hx
  · cases hx
    exact ⟨n.default,rfl,n.default_unit⟩
  · cases hx
    exact ⟨r n,rfl,h n⟩

/-- The metrics of a proposal under a price. -/
def priced (cost : ℚ) : Metric → ℚ
  | .effect => 1/2
  | .cost => cost
  | .quality => 1/5
  | .violation => 0
  | .confidence => 4/5

theorem priced_onAxis {cost cost' : ℚ} (hlow : 0 ≤ cost) (hlt : cost < cost') (hhigh : cost' ≤ 1) :
    OnAxis .cost (ratedProposal (priced cost)) (ratedProposal (priced cost')) cost cost' := by
  refine rated_onAxis ?_ ⟨hlow,(hlt.trans_le hhigh).le⟩ ⟨(hlow.trans_lt hlt).le,hhigh⟩ hlt
  intro n hn
  cases n with
  | cost => exact absurd rfl hn
  | effect | quality | violation | confidence => rfl

theorem priced_ordinary {cost : ℚ} (hlow : 0 ≤ cost) (hhigh : cost ≤ 1) :
    Ordinary (ratedProposal (priced cost)) := by
  refine ordinary_rated fun n => ?_
  cases n with
  | cost => exact ⟨hlow,hhigh⟩
  | effect | quality | violation | confidence => norm_num [priced]

/-! ### The order of the totals -/

theorem of_total {p : Dict} {x : PyFloat}
    (h : (evaluateProposal textPrinter p []).map (scoreOf "total_score") = .ok x) :
    ∃ e, evaluateProposal textPrinter p [] = .ok e ∧ scoreOf "total_score" e = x := by
  cases he : evaluateProposal textPrinter p [] with
  | error err =>
    rw [he] at h
    cases h
  | ok e =>
    rw [he] at h
    exact ⟨e,rfl,Except.ok.inj h⟩

end ManufacturingMas.Proofs.ScoreOrder
