import Mathlib.Data.Prod.Lex
import ManufacturingMas.Py.Text
import ManufacturingMas.Proofs.RationaleIndependence

/-! Where the rules and the solver choose the same from one ranking. -/

namespace ManufacturingMas.Proofs.StrategyAgreement
open Py Protocol Intelligence Agents Ranking Assoc

/-! ### Inspection levels -/

def IsStandard (s : String) : Prop := lower s = "standard".toList ∨ lower s = "표준".toList

def IsEnhanced (s : String) : Prop := lower s = "enhanced".toList ∨ lower s = "강화".toList

instance (s : String) : Decidable (IsStandard s) := inferInstanceAs (Decidable (_ ∨ _))

instance (s : String) : Decidable (IsEnhanced s) := inferInstanceAs (Decidable (_ ∨ _))

/-- What a label of an inspection mode means; a label outside the vocabulary stands for itself. -/
inductive InspectionLevel where
  | standard | enhanced | full
  | other (label : Val)

def inspectionLevel : Val → InspectionLevel
  | .str s =>
    if IsStandard s then .standard
    else if IsEnhanced s then .enhanced
    else if isFullInspection (.str s) then .full
    else .other (.str s)
  | label => .other label

/-- The two levels the solver knows. -/
def SolverLevel (label : Val) : Prop :=
  inspectionLevel label = .standard ∨ inspectionLevel label = .enhanced

/-- The label that ends in the solver's strategy. -/
def solverLabel (label : Val) : Val :=
  if (solverMode label).isStr "standard" || (solverMode label).isStr "enhanced"
  then solverMode label else .str "standard"

theorem solverMode_standard {s : String} (h : IsStandard s) :
    solverMode (.str s) = .str "standard" := by
  rcases h with h | h
  · have hstrip : strip s.toList = s.toList := strip_of_lower h (by decide +kernel)
    have hkorean : contains "강화".toList s.toList = false :=
      not_contains_of_lower h (by decide +kernel)
    have henhanced : contains "enhanced".toList (s.toList.map Char.toLower) = false := by
      rw [show s.toList.map Char.toLower = _ from h]
      decide +kernel
    have hstandard : contains "standard".toList (s.toList.map Char.toLower) = true := by
      rw [show s.toList.map Char.toLower = _ from h]
      decide +kernel
    simp only [solverMode, hstrip, hkorean, henhanced, hstandard, Bool.or_self, Bool.or_true,
      Bool.false_eq_true, ↓reduceIte]
  · have hs : s.toList = "표준".toList := eq_of_map_toLower h (by decide +kernel)
    have hkorean : contains "강화".toList s.toList = false := by rw [hs]; decide +kernel
    have henhanced : contains "enhanced".toList ((strip s.toList).map Char.toLower) = false := by
      rw [hs]; decide +kernel
    have hstandard : contains "표준".toList s.toList = true := by rw [hs]; decide +kernel
    simp only [solverMode, hkorean, henhanced, hstandard, Bool.or_self, Bool.true_or,
      Bool.false_eq_true, ↓reduceIte]

theorem solverMode_enhanced {s : String} (h : IsEnhanced s) :
    solverMode (.str s) = .str "enhanced" := by
  rcases h with h | h
  · have hstrip : strip s.toList = s.toList := strip_of_lower h (by decide +kernel)
    have henhanced : contains "enhanced".toList (s.toList.map Char.toLower) = true := by
      rw [show s.toList.map Char.toLower = _ from h]
      decide +kernel
    simp only [solverMode, hstrip, henhanced, Bool.or_true, ↓reduceIte]
  · have hs : s.toList = "강화".toList := eq_of_map_toLower h (by decide +kernel)
    have hkorean : contains "강화".toList s.toList = true := by rw [hs]; decide +kernel
    simp only [solverMode, hkorean, Bool.true_or, ↓reduceIte]

theorem solverLabel_known (label : Val) :
    solverLabel label = .str "standard" ∨ solverLabel label = .str "enhanced" := by
  have hisStr : ∀ (v : Val) (t : String), v.isStr t = true → v = .str t := by
    intro v t h
    cases v <;> simp_all [Val.isStr]
  unfold solverLabel
  split
  · rename_i h
    rw [Bool.or_eq_true] at h
    exact h.imp (hisStr _ _) (hisStr _ _)
  · exact .inl rfl

theorem level_of_isStandard {s : String} (h : IsStandard s) :
    inspectionLevel (.str s) = .standard := if_pos h

theorem level_of_isEnhanced {s : String} (h : IsEnhanced s) :
    inspectionLevel (.str s) = .enhanced := by
  have hnot : ¬ IsStandard s := by
    rcases h with h | h <;> (unfold IsStandard; rw [h]; decide +kernel)
  exact (if_neg hnot).trans (if_pos h)

theorem of_level_standard {label : Val} (h : inspectionLevel label = .standard) :
    ∃ s, label = .str s ∧ IsStandard s := by
  unfold inspectionLevel at h
  split at h
  · rename_i s
    split at h
    · exact ⟨s,rfl,‹_›⟩
    · split at h
      · cases h
      · split at h <;> cases h
  · cases h

theorem of_level_enhanced {label : Val} (h : inspectionLevel label = .enhanced) :
    ∃ s, label = .str s ∧ IsEnhanced s := by
  unfold inspectionLevel at h
  split at h
  · rename_i s
    split at h
    · cases h
    · split at h
      · exact ⟨s,rfl,‹_›⟩
      · split at h <;> cases h
  · cases h

theorem level_standard : inspectionLevel (.str "standard") = .standard :=
  level_of_isStandard (.inl (by decide +kernel))

theorem level_enhanced : inspectionLevel (.str "enhanced") = .enhanced :=
  level_of_isEnhanced (.inl (by decide +kernel))

/-- The solver keeps exactly the levels it knows. -/
theorem level_solverLabel_iff (label : Val) :
    inspectionLevel label = inspectionLevel (solverLabel label) ↔ SolverLevel label := by
  constructor
  · intro h
    rcases solverLabel_known label with hl | hl
    · exact .inl (by rw [h, hl, level_standard])
    · exact .inr (by rw [h, hl, level_enhanced])
  · intro h
    rcases h with h | h
    · obtain ⟨s,rfl,hs⟩ := of_level_standard h
      have hl : solverLabel (.str s) = .str "standard" := by
        simp [solverLabel, solverMode_standard hs, Val.isStr]
      rw [hl, level_standard, h]
    · obtain ⟨s,rfl,hs⟩ := of_level_enhanced h
      have hl : solverLabel (.str s) = .str "enhanced" := by
        simp [solverLabel, solverMode_enhanced hs, Val.isStr]
      rw [hl, level_enhanced, h]

theorem not_full_of_solverLevel {label : Val} (h : SolverLevel label) :
    isFullInspection label = false := by
  rcases h with h | h
  · obtain ⟨s,rfl,hs⟩ := of_level_standard h
    rcases hs with hs | hs <;> (simp only [isFullInspection, hs]; decide +kernel)
  · obtain ⟨s,rfl,hs⟩ := of_level_enhanced h
    rcases hs with hs | hs <;> (simp only [isFullInspection, hs]; decide +kernel)

theorem not_full_solverLabel (label : Val) : isFullInspection (solverLabel label) = false := by
  refine not_full_of_solverLevel ?_
  rcases solverLabel_known label with h | h
  · exact .inl (h ▸ level_standard)
  · exact .inr (h ▸ level_enhanced)

/-! ### The two orders -/

/-- The scores of an evaluated proposal, when they are numbers. -/
structure FiniteScores (p : Dict) (total comparison business : ℚ) : Prop where
  total : Assoc.get p "total_score" = some (.float (.fin total))
  comparison : Assoc.get p "comparison_score" = some (.float (.fin comparison))
  business : Assoc.get p "business_score" = some (.float (.fin business))

def value : PyFloat → ℚ
  | .fin q => q
  | _ => 0

/-- Ranked proposals compare as these triples do, from the first entry on. -/
def lexScore (p : Dict) : ℚ ×ₗ ℚ ×ₗ ℚ :=
  toLex (value (rankKey p).1, toLex (value (rankKey p).2.1, value (rankKey p).2.2))

theorem FiniteScores.rankKey_eq {p : Dict} {t c b : ℚ} (h : FiniteScores p t c b) :
    rankKey p = (.fin t, .fin c, .fin b) := by
  simp [rankKey, scoreOf, getD, h.total, h.comparison, h.business]

theorem FiniteScores.totalScore_eq {p : Dict} {t c b : ℚ} (h : FiniteScores p t c b) :
    totalScore p = .ok (.fin t) := by
  have hget : getD p "total_score" (.int 0) = .float (.fin t) := by simp [getD, h.total]
  unfold totalScore
  rw [hget]
  by_cases ht : t = 0
  · subst ht
    have hzero : (Val.float (.fin 0)).orElse (.int 0) = .int 0 := rfl
    rw [hzero]
    exact PyFloat.ofInt_of_small (n := 0) (by norm_num)
  · simp [Val.orElse, Val.truthy, PyFloat.truthy, ht, Val.toFloat]

theorem keyLt_fin_iff (a b c a' b' c' : ℚ) :
    keyLt (.fin a, .fin b, .fin c) (.fin a', .fin b', .fin c') = true ↔
      toLex (a, toLex (b, c)) < toLex (a', toLex (b', c')) := by
  rw [Prod.Lex.toLex_lt_toLex, Prod.Lex.toLex_lt_toLex]
  by_cases ha : a = a'
  · by_cases hb : b = b'
    · simp [keyLt, PyFloat.eq, PyFloat.lt, ha, hb]
    · simp [keyLt, PyFloat.eq, PyFloat.lt, ha, hb]
  · simp [keyLt, PyFloat.eq, PyFloat.lt, ha]

theorem keyLt_iff {p p' : Dict} (h : ∃ t c b, FiniteScores p t c b)
    (h' : ∃ t c b, FiniteScores p' t c b) :
    keyLt (rankKey p) (rankKey p') = true ↔ lexScore p < lexScore p' := by
  obtain ⟨t,c,b,h⟩ := h
  obtain ⟨t',c',b',h'⟩ := h'
  simp only [lexScore, h.rankKey_eq, h'.rankKey_eq, value]
  exact keyLt_fin_iff t c b t' c' b'

/-- A proposal that is not ranked below another has no smaller total score. -/
theorem total_le_of_keyLt_false {p p' : Dict} {t c b t' c' b' : ℚ} (h : FiniteScores p t c b)
    (h' : FiniteScores p' t' c' b') (hlt : keyLt (rankKey p) (rankKey p') = false) : t' ≤ t := by
  by_contra hless
  rw [not_le] at hless
  rw [h.rankKey_eq, h'.rankKey_eq] at hlt
  have hkey := (keyLt_fin_iff t c b t' c' b').mpr
    (Prod.Lex.toLex_lt_toLex.mpr (.inl hless))
  rw [hlt] at hkey
  cases hkey

/-! ### One order for both -/

theorem ranked_of_rankProposals {printer : Printer} {proposals ranked : List Dict}
    {constraints : Dict}
    (hrank : rankProposalsByComparison printer proposals constraints = .ok ranked)
    (hscores : ∀ p ∈ ranked, ∃ t c b, FiniteScores p t c b) : Ranked keyLt rankKey ranked := by
  obtain ⟨enriched,_,rfl⟩ := rank_ok hrank
  have hmem : ∀ p ∈ enriched, ∃ t c b, FiniteScores p t c b := by
    intro p hp
    exact hscores p ((sortDescending_perm keyLt rankKey enriched).mem_iff.mpr hp)
  exact ranked_sortDescending lexScore fun p hp p' hp' => keyLt_iff (hmem p hp) (hmem p' hp')

/-- A proposal under the one key the solver sorts by. -/
def keyed (p : Dict) : PyFloat × Dict := (scoreOf "total_score" p, p)

theorem FiniteScores.keyed_eq {p : Dict} {t c b : ℚ} (h : FiniteScores p t c b) :
    keyed p = (.fin t, p) := by
  simp [keyed, scoreOf, getD, h.total]

theorem mapM_keyed {ranked : List Dict} (hscores : ∀ p ∈ ranked, ∃ t c b, FiniteScores p t c b) :
    (ranked.mapM fun p => do
      let score ← totalScore p
      pure (score, p)) = (pure (ranked.map keyed) : Except PyErr _) := by
  induction ranked with
  | nil => rfl
  | cons p ranked ih =>
    obtain ⟨t,c,b,h⟩ := hscores p List.mem_cons_self
    rw [List.mapM_cons, ih fun q hq => hscores q (List.mem_cons_of_mem p hq), h.totalScore_eq,
      List.map_cons, h.keyed_eq]
    rfl

/-- The solver's sort leaves a ranking as it is: it compares less, and it is stable. -/
theorem sort_keyed {ranked : List Dict} (hscores : ∀ p ∈ ranked, ∃ t c b, FiniteScores p t c b)
    (h : Ranked keyLt rankKey ranked) :
    sortDescending PyFloat.lt Prod.fst (ranked.map keyed) = ranked.map keyed := by
  refine Ranked.sortDescending_eq (List.pairwise_map.mpr (h.imp_of_mem fun {p p'} hp hp' hlt => ?_))
  obtain ⟨t,c,b,hfin⟩ := hscores p hp
  obtain ⟨t',c',b',hfin'⟩ := hscores p' hp'
  have hle := total_le_of_keyLt_false hfin hfin' hlt
  rw [hfin.keyed_eq, hfin'.keyed_eq]
  exact decide_eq_false (not_lt.mpr hle)

/-! ### The two strategies -/

/-- The speed a proposal recommends, wherever it stands. -/
def recommended (p : Dict) : Val :=
  getD p "speed_recommendation" (getD p "target_speed_pct" (.int 100))

structure IntegerSpeed (p : Dict) (speed : ℤ) : Prop where
  eq : recommended p = .int speed
  low : 40 ≤ speed
  high : speed ≤ 100

theorem intOf_speed {speed : ℤ} (hlow : 40 ≤ speed) (hhigh : speed ≤ 100) :
    intOf (.int speed) = .ok speed :=
  intOf_small (abs_le.mpr ⟨by omega,by omega⟩)

theorem cnpNumericStrategy_eq {best : Dict} {others : List Dict} {t c b : ℚ} {speed : ℤ}
    (hscores : ∀ p ∈ best :: others, ∃ t c b, FiniteScores p t c b)
    (h : Ranked keyLt rankKey (best :: others)) (hbest : FiniteScores best t c b)
    (hspeed : IntegerSpeed best speed) :
    cnpNumericStrategy (best :: others) = .ok [("target_speed_pct", .int speed),
      ("inspection_mode", solverLabel (getD best "inspection_mode" (.str "standard"))),
      ("best_agent", getD best "agent" (.str "")), ("best_score", .float (.fin t)),
      ("decision", .str "solver_first")] := by
  have hread : (do let x ← (recommended best).toFloat; x.toInt) = (.ok speed : Except PyErr ℤ) := by
    rw [hspeed.eq]
    exact intOf_speed hspeed.low hspeed.high
  have hclamped : max 40 (min 100 speed) = speed := by
    have := hspeed.low
    have := hspeed.high
    omega
  unfold cnpNumericStrategy
  rw [mapM_keyed hscores, pure_bind, sort_keyed hscores h, List.map_cons, hbest.keyed_eq]
  unfold recommended at hread
  simp only [hread, orOnBadNumber]
  simp only [bind, Except.bind, hclamped]
  rfl

/-- The answer to the rationale call leaves the solver's numbers in the strategy. -/
theorem get_of_evaluateProposals {llm : LLMClient} {context : Dict} {proposals : List Dict}
    {numeric solver : Dict} (hnumeric : cnpNumericStrategy proposals = .ok numeric)
    (hsolver : llm.evaluateProposals context proposals = .ok (some solver)) {k : String}
    (hk : k ∈ RationaleIndependence.solverKeys) : Assoc.get solver k = Assoc.get numeric k := by
  have hdecision : k ≠ "decision" :=
    ne_of_mem_of_not_mem hk (by simp [RationaleIndependence.solverKeys])
  have hsuite : k ≠ "prompt_suite_version" :=
    ne_of_mem_of_not_mem hk (by simp [RationaleIndependence.solverKeys])
  unfold LLMClient.evaluateProposals at hsolver
  rw [hnumeric] at hsolver
  split at hsolver
  · cases hsolver
  · simp only [bind, Except.bind] at hsolver
    split at hsolver
    · cases hsolver
    · cases hrat : llm.rationale context proposals numeric with
      | error e =>
        rw [hrat] at hsolver
        cases hsolver
      | ok rat =>
        rw [hrat] at hsolver
        cases hsolver
        rw [get_set_of_ne hsuite, get_set_of_ne hdecision]
        exact RationaleIndependence.merge_numeric (List.mem_append_left ["decision"] hk) numeric rat

/-- What the clamp makes of a strategy whose speed is an integer a double holds. -/
structure Clamped (session : CNPSession) (strategy : Dict) (n : ℤ) (out : Dict) : Prop where
  speed : Assoc.get out "target_speed_pct" = some (.int (session.clampSpeed n))
  approval : Assoc.get out "approval_required" = some (.bool (session.clampSpeed n < 70 ||
    isFullInspection (getD strategy "inspection_mode" (.str ""))))
  kept : AgreeOn ["best_agent", "best_score", "inspection_mode"] strategy out

theorem clampStrategy_clamped (session : CNPSession) {strategy : Dict} {speed : ℤ}
    (hspeed : Assoc.get strategy "target_speed_pct" = some (.int speed)) (hlow : 40 ≤ speed)
    (hhigh : speed ≤ 100) :
    ∃ out, session.clampStrategy strategy = .ok out ∧ Clamped session strategy speed out := by
  have hread : session.strategySpeed strategy = .ok (session.clampSpeed speed) := by
    simp [CNPSession.strategySpeed, getD, hspeed, intOf_speed hlow hhigh, orOnBadNumber, bind,
      Except.bind, pure, Except.pure]
  unfold CNPSession.clampStrategy
  rw [hread]
  have hset : AgreeOn ["best_agent", "best_score", "inspection_mode"] strategy
      (Assoc.set (Assoc.set (Assoc.set (Assoc.set strategy "target_speed_pct"
        (.int (session.clampSpeed speed))) "constraints_applied" (.bool true))
        "protocol_version" (.str protocolVersion)) "conversation_id"
        (.str session.conversationId)) :=
    ((((AgreeOn.refl _ strategy).set_right (by simp) _).set_right (by simp) _).set_right
      (by simp) _).set_right (by simp) _
  refine ⟨_,rfl,?_,?_,hset.set_right (by simp) _⟩
  · rw [get_set_of_ne (by simp), get_set_of_ne (by simp), get_set_of_ne (by simp),
      get_set_of_ne (by simp), get_set_self]
  · rw [get_set_self, RationaleIndependence.getD_eq hset (by simp)]

/-! ### The decision -/

/-- One decision: the same agent, score, speed and approval, and labels of one level. -/
structure SameDecision (r s : Dict) : Prop where
  fields : AgreeOn ["best_agent", "best_score", "target_speed_pct", "approval_required"] r s
  level : inspectionLevel (getD r "inspection_mode" .none) =
    inspectionLevel (getD s "inspection_mode" .none)

/-- The best proposal's label is one the solver knows, and its speed stands where
the rules look for it, unless the limits make no difference. -/
structure Agreeable (session : CNPSession) (best : Dict) : Prop where
  level : SolverLevel (getD best "inspection_mode" (.str "standard"))
  speed : (Assoc.get best "speed_recommendation").isSome ∨
    ∀ speed, recommended best = .int speed → session.clampSpeed speed = session.clampSpeed 100

/-- The speed the rules take from the best proposal. -/
theorem rulesSpeed_cases {best : Dict} {speed : ℤ} (h : IntegerSpeed best speed) :
    ∃ taken, getD best "speed_recommendation" (.int 100) = .int taken ∧ 40 ≤ taken ∧ taken ≤ 100 ∧
      ∀ session : CNPSession, session.clampSpeed taken = session.clampSpeed speed ↔
        ((Assoc.get best "speed_recommendation").isSome ∨
          ∀ n, recommended best = .int n → session.clampSpeed n = session.clampSpeed 100) := by
  cases hget : Assoc.get best "speed_recommendation" with
  | some v =>
    have hv : v = .int speed := by simpa [recommended, getD, hget] using h.eq
    exact ⟨speed,by simp [getD, hget, hv],h.low,h.high,fun _ => by simp⟩
  | none =>
    refine ⟨100,by simp [getD, hget],by norm_num,le_rfl,fun session => ?_⟩
    rw [h.eq]
    simp only [Option.isSome_none, Bool.false_eq_true, Val.int.injEq, forall_eq', false_or]
    exact eq_comm

/-- Clamped strategies with one agent and one score, of which the second carries
the label that the solver makes of the first's. -/
theorem sameDecision_iff {session : CNPSession} {rules solver r s : Dict} {n n' : ℤ} {label : Val}
    (hr : Clamped session rules n r) (hs : Clamped session solver n' s)
    (hchosen : AgreeOn ["best_agent", "best_score"] rules solver)
    (hlabel : Assoc.get rules "inspection_mode" = some label)
    (hlabel' : Assoc.get solver "inspection_mode" = some (solverLabel label)) :
    SameDecision r s ↔ SolverLevel label ∧ session.clampSpeed n = session.clampSpeed n' := by
  have hmode : getD r "inspection_mode" .none = label := by
    rw [getD, ← hr.kept _ (by simp), hlabel, Option.getD_some]
  have hmode' : getD s "inspection_mode" .none = solverLabel label := by
    rw [getD, ← hs.kept _ (by simp), hlabel', Option.getD_some]
  constructor
  · intro h
    have hlevel := h.level
    rw [hmode, hmode', level_solverLabel_iff] at hlevel
    have hspeed := h.fields "target_speed_pct" (by simp)
    rw [hr.speed, hs.speed] at hspeed
    exact ⟨hlevel,by simpa using hspeed⟩
  · intro h
    obtain ⟨hlevel,hspeed⟩ := h
    have hchosen' : AgreeOn ["best_agent", "best_score"] r s := fun k hk =>
      ((hr.kept k (by simp at hk ⊢; tauto)).symm.trans (hchosen k hk)).trans
        (hs.kept k (by simp at hk ⊢; tauto))
    constructor
    · intro k hk
      simp only [List.mem_cons, List.not_mem_nil, or_false] at hk
      rcases hk with rfl | rfl | rfl | rfl
      · exact hchosen' _ (by simp)
      · exact hchosen' _ (by simp)
      · rw [hr.speed, hs.speed, hspeed]
      · rw [hr.approval, hs.approval, hspeed, getD, getD, hlabel, hlabel', Option.getD_some,
          Option.getD_some, not_full_of_solverLevel hlevel, not_full_solverLabel]
    · rw [hmode, hmode']
      exact (level_solverLabel_iff label).mpr hlevel

/-- The solver's strategy names the agent and score the rules name. -/
theorem chosen_agree {cnpId : Nat} {best solver : Dict} {others : List Dict} {t c b : ℚ}
    (hbest : FiniteScores best t c b)
    (hagent : Assoc.get solver "best_agent" = some (getD best "agent" (.str "")))
    (hscore : Assoc.get solver "best_score" = some (.float (.fin t))) :
    AgreeOn ["best_agent", "best_score"] (buildStrategyRules cnpId (best :: others)) solver := by
  intro k hk
  simp only [List.mem_cons, List.not_mem_nil, or_false] at hk
  rcases hk with rfl | rfl
  · exact hagent.symm
  · have htotal : getD best "total_score" (.int 0) = .float (.fin t) := by simp [getD, hbest.total]
    exact (congrArg some htotal).trans hscore.symm

/-! ### Proposals of the quality agent -/

def qualityProposal (mode : String) : Dict :=
  [("agent", .str "QA"), ("speed_recommendation", .int 80), ("inspection_mode", .str mode)]

def comparisonBlock : Dict :=
  [("candidate_action", .str ""), ("expected_effect", .float (.fin (1/2))),
    ("expected_cost", .float (.fin (1/2))), ("quality_risk", .float (.fin (nearestDouble (3/10)))),
    ("delivery_impact", .float (.fin 0)),
    ("material_impact", .float (.fin (nearestDouble (1/5)))),
    ("constraint_violation", .float (.fin 0)),
    ("confidence", .float (.fin (nearestDouble (7/10)))),
    ("schema_version", .str "1.0")]

/-- The comparison score of that block before it is rounded. -/
def defaultComparison : ℚ :=
  1/2 * nearestDouble (7/10) - 7/20 * (1/2) - 1/4 * nearestDouble (3/10)

def evaluatedProposal (mode : String) : Dict :=
  qualityProposal mode ++ [("comparison", .dict comparisonBlock),
    ("business_score", .float (.fin 0)), ("comparison_score", .float (.fin (1/10))),
    ("constraint_penalty", .float (.fin 0)), ("constraint_status", .str "ok"),
    ("total_score", .float (.fin (3/50)))]

def silentClient : LLMClient := ⟨false,"",fun _ _ _ => .ok "",fun _ => none⟩

theorem scoreAgainstConstraints_quality (mode : String) :
    scoreAgainstConstraints (qualityProposal mode ++ [("comparison", .dict comparisonBlock)])
      CNPConstraints.default.toDict = .ok (.fin 0, "ok") := by
  have hsum : (PyFloat.fin 0).add ((PyFloat.fin 0).mul (.fin (1/5))) = .fin 0 := by decide +kernel
  have hmin : PyFloat.min (.fin 1) (.fin 0) = .fin 0 := by decide +kernel
  change Except.ok (PyFloat.min (.fin 1) ((PyFloat.fin 0).add ((PyFloat.fin 0).mul (.fin (1/5)))),
    "ok") = _
  rw [hsum, hmin]

theorem evaluateProposal_quality (mode : String) :
    evaluateProposal .blank (qualityProposal mode) CNPConstraints.default.toDict =
      .ok (evaluatedProposal mode) := by
  have hbusiness : businessScore [] defaultKpiWeights = .ok (.fin 0) := by decide +kernel
  have hcomparison : comparisonScore comparisonBlock = .ok (.fin defaultComparison) := by
    decide +kernel
  have hrounded : (PyFloat.fin defaultComparison).round 4 = .fin (1/10) := by decide +kernel
  have hfinal : (finalScore (.fin 0) (.fin defaultComparison) (.fin 0)).round 4 = .fin (3/50) := by
    decide +kernel
  have hzero : (PyFloat.fin 0).round 4 = .fin 0 := by decide +kernel
  have hmerged : mergeIntoProposal .blank (qualityProposal mode) =
      .ok (qualityProposal mode ++ [("comparison", .dict comparisonBlock)]) := rfl
  have hscores : (getD (qualityProposal mode ++ [("comparison", .dict comparisonBlock)]) "scores"
      .none).asDict = [] := rfl
  have hblock : (getD (qualityProposal mode ++ [("comparison", .dict comparisonBlock)])
      "comparison" .none).asDict = comparisonBlock := rfl
  have hconstraints : CNPConstraints.default.toDict.isEmpty = false := rfl
  unfold evaluateProposal evaluateProposalWith
  simp only [hmerged, bind, Except.bind, hscores, hblock, hbusiness, hcomparison, hconstraints,
    Bool.false_eq_true, ↓reduceIte, scoreAgainstConstraints_quality, hrounded, hfinal, hzero]
  rfl

theorem ranked_quality (mode : String) :
    rankProposalsByComparison .blank [qualityProposal mode] CNPConstraints.default.toDict =
      .ok [evaluatedProposal mode] := by
  unfold rankProposalsByComparison
  rw [List.mapM_cons, evaluateProposal_quality]
  rfl

theorem scores_quality (mode : String) :
    FiniteScores (evaluatedProposal mode) (3/50) (1/10) 0 := ⟨rfl,rfl,rfl⟩

theorem speed_quality (mode : String) : IntegerSpeed (evaluatedProposal mode) 80 :=
  ⟨rfl,by norm_num,by norm_num⟩

/-- The client that is not asked gives the solver's strategy under its own label. -/
theorem evaluateProposals_silent {proposals : List Dict} {numeric : Dict}
    (hproposals : proposals.isEmpty = false) (hnumeric : cnpNumericStrategy proposals = .ok numeric)
    (hentries : numeric.isEmpty = false) :
    ∃ solver, silentClient.evaluateProposals [] proposals = .ok (some solver) := by
  refine ⟨Assoc.set (Assoc.set (mergeNumericAndRationale numeric none) "decision"
    (.str (silentClient.decisionLabel none))) "prompt_suite_version" (.str ""),?_⟩
  unfold LLMClient.evaluateProposals
  simp only [hproposals, hnumeric, hentries, bind, Except.bind, Bool.false_eq_true, ↓reduceIte]
  rfl

theorem evaluateProposals_quality (mode : String) :
    ∃ solver, silentClient.evaluateProposals [] [evaluatedProposal mode] = .ok (some solver) ∧
      Assoc.get solver "target_speed_pct" = some (.int 80) ∧
      Assoc.get solver "inspection_mode" = some (solverLabel (.str mode)) := by
  have hscores : ∀ p ∈ [evaluatedProposal mode], ∃ t c b, FiniteScores p t c b := by
    intro p hp
    rw [List.mem_singleton.mp hp]
    exact ⟨_,_,_,scores_quality mode⟩
  have hnumeric := cnpNumericStrategy_eq hscores
    (ranked_of_rankProposals (ranked_quality mode) hscores) (scores_quality mode)
    (speed_quality mode)
  obtain ⟨solver,hsolver⟩ := evaluateProposals_silent rfl hnumeric rfl
  exact ⟨solver,hsolver,get_of_evaluateProposals hnumeric hsolver (by decide),
    get_of_evaluateProposals hnumeric hsolver (by decide)⟩

/-! ### The agreement -/

/-- From one ranking of proposals with numbers for scores and speeds, rules and
solver decide the same exactly if the best proposal is agreeable. -/
theorem strategies_agree_iff (printer : Printer) (proposals : List Dict) (constraints : Dict)
    (session : CNPSession) (cnpId : Nat) (llm : LLMClient) (context : Dict) {best : Dict}
    {others : List Dict} {solver : Dict}
    (hrank : rankProposalsByComparison printer proposals constraints = .ok (best :: others))
    (hscores : ∀ p ∈ best :: others, ∃ t c b, FiniteScores p t c b)
    (hspeeds : ∀ p ∈ best :: others, ∃ speed, IntegerSpeed p speed)
    (hsolver : llm.evaluateProposals context (best :: others) = .ok (some solver)) :
    ∃ r s, session.clampStrategy (buildStrategyRules cnpId (best :: others)) = .ok r ∧
      session.clampStrategy solver = .ok s ∧ (SameDecision r s ↔ Agreeable session best) := by
  obtain ⟨t,c,b,hbest⟩ := hscores best List.mem_cons_self
  obtain ⟨speed,hspeed⟩ := hspeeds best List.mem_cons_self
  obtain ⟨taken,htaken,hlow,hhigh,hsame⟩ := rulesSpeed_cases hspeed
  have hnumeric := cnpNumericStrategy_eq hscores (ranked_of_rankProposals hrank hscores) hbest
    hspeed
  have hget := fun k => get_of_evaluateProposals (k := k) hnumeric hsolver
  obtain ⟨r,hr,hrules⟩ := clampStrategy_clamped session
    (show Assoc.get (buildStrategyRules cnpId (best :: others)) "target_speed_pct" = _ from
      congrArg some htaken) hlow hhigh
  obtain ⟨s,hs,hsolved⟩ := clampStrategy_clamped session (hget "target_speed_pct" (by decide))
    hspeed.low hspeed.high
  refine ⟨r,s,hr,hs,?_⟩
  have hchosen : AgreeOn ["best_agent", "best_score"] (buildStrategyRules cnpId (best :: others))
      solver := chosen_agree hbest (hget _ (by decide)) (hget _ (by decide))
  rw [sameDecision_iff hrules hsolved hchosen rfl (hget _ (by decide)), hsame]
  constructor
  · intro h
    exact ⟨h.1,h.2⟩
  · intro h
    exact ⟨h.level,h.speed⟩

theorem strategies_agree_enhanced :
    ∃ r s, (CNPSession.new .default).clampStrategy
        (buildStrategyRules 1 [evaluatedProposal "강화"]) = .ok r ∧
      (∃ solver, silentClient.evaluateProposals [] [evaluatedProposal "강화"] = .ok (some solver) ∧
        (CNPSession.new .default).clampStrategy solver = .ok s) ∧ SameDecision r s := by
  obtain ⟨solver,hsolver,-⟩ := evaluateProposals_quality "강화"
  obtain ⟨r,s,hr,hs,hiff⟩ := strategies_agree_iff .blank [qualityProposal "강화"]
    CNPConstraints.default.toDict (.new .default) 1 silentClient [] (ranked_quality "강화")
    (fun p hp => ⟨_,_,_,List.mem_singleton.mp hp ▸ scores_quality "강화"⟩)
    (fun p hp => ⟨80,List.mem_singleton.mp hp ▸ speed_quality "강화"⟩) hsolver
  refine ⟨r,s,hr,⟨solver,hsolver,hs⟩,hiff.mpr ⟨.inr ?_,.inl rfl⟩⟩
  exact level_of_isEnhanced (.inr (by decide +kernel))

/-- The quality agent asks for a full inspection. The rules keep it and have the
strategy approved by hand; the solver's strategy goes through with the standard inspection. -/
theorem full_inspection_lost :
    rankProposalsByComparison .blank [qualityProposal "전수"] CNPConstraints.default.toDict =
        .ok [evaluatedProposal "전수"] ∧
      FiniteScores (evaluatedProposal "전수") (3/50) (1/10) 0 ∧
      IntegerSpeed (evaluatedProposal "전수") 80 ∧
      ∃ r s solver, silentClient.evaluateProposals [] [evaluatedProposal "전수"] = .ok (some solver) ∧
        (CNPSession.new .default).clampStrategy (buildStrategyRules 1 [evaluatedProposal "전수"]) =
          .ok r ∧
        (CNPSession.new .default).clampStrategy solver = .ok s ∧
        Assoc.get r "approval_required" = some (.bool true) ∧
        Assoc.get s "approval_required" = some (.bool false) ∧ ¬ SameDecision r s := by
  have hspeed : (CNPSession.new .default).clampSpeed 80 = 80 := rfl
  have hfull : isFullInspection (.str "전수") = true := by decide +kernel
  obtain ⟨solver,hsolver,htarget,hmode⟩ := evaluateProposals_quality "전수"
  obtain ⟨r,hr,hrules⟩ := clampStrategy_clamped (CNPSession.new .default)
    (show Assoc.get (buildStrategyRules 1 [evaluatedProposal "전수"]) "target_speed_pct" =
      some (.int 80) from rfl) (by norm_num) (by norm_num)
  obtain ⟨s,hs,hsolved⟩ := clampStrategy_clamped (CNPSession.new .default) htarget
    (by norm_num) (by norm_num)
  have happroved : Assoc.get r "approval_required" = some (.bool true) := by
    rw [hrules.approval, show getD (buildStrategyRules 1 [evaluatedProposal "전수"])
      "inspection_mode" (.str "") = .str "전수" from rfl, hfull, Bool.or_true]
  have hpassed : Assoc.get s "approval_required" = some (.bool false) := by
    rw [hsolved.approval, getD, hmode, Option.getD_some, not_full_solverLabel, hspeed]
    rfl
  refine ⟨ranked_quality _,scores_quality _,speed_quality _,r,s,solver,hsolver,hr,hs,happroved,
    hpassed,?_⟩
  intro h
  have hsame := h.fields "approval_required" (by simp)
  rw [happroved, hpassed] at hsame
  cases hsame

end ManufacturingMas.Proofs.StrategyAgreement
