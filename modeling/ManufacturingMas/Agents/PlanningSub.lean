import ManufacturingMas.Lib.Ranking
import ManufacturingMas.Lib.Traverse
import ManufacturingMas.Py.Value

/-! The planning agent's helpers: the comparison block of a proposal, its scores,
their ranking, and the report. -/

namespace ManufacturingMas.Agents
open Py Ranking

/-- `_f(x, default)`. -/
def numberOr (x : Val) (default : ℚ) : Except PyErr PyFloat :=
  orOnBadNumber x.toFloat (.fin default)

/-- `normalize_comparison_metrics`. -/
def normalizeComparisonMetrics (printer : Printer) (raw : Dict) : Except PyErr Dict := do
  let pm := (getD raw "proposal_metrics" .none).asDict
  let comp := (getD raw "comparison" .none).asDict
  let merged := Assoc.update pm comp
  let field (key : String) : Val := getD merged key .none
  let action := (((field "candidate_action").orElse (getD raw "proposal" .none)).orElse
    (field "action")).orElse (.str "unspecified")
  let effect ← numberOr ((field "expected_effect").orElse (field "expected_benefit")) (1/2)
  let cost ← numberOr (((field "expected_cost").orElse (field "cost_estimate")).orElse
    (field "cost_estimate_norm")) (1/2)
  let quality ← numberOr (field "quality_risk") (nearestDouble (3/10))
  let delivery ← numberOr (field "delivery_impact") 0
  let material ← numberOr (field "material_impact") (nearestDouble (1/5))
  let violation ← numberOr
    ((field "constraint_violation").orElse (field "constraint_violation_total")) 0
  let confidence ← numberOr
    ((field "confidence").orElse (field "recommendation_confidence")) (nearestDouble (7/10))
  pure [("candidate_action", .str (printer.str action)), ("expected_effect", .float effect),
    ("expected_cost", .float cost), ("quality_risk", .float quality),
    ("delivery_impact", .float delivery), ("material_impact", .float material),
    ("constraint_violation", .float violation), ("confidence", .float confidence),
    ("schema_version", .str "1.0")]

def mergeIntoProposal (printer : Printer) (proposal : Dict) : Except PyErr Dict := do
  let comp ← normalizeComparisonMetrics printer proposal
  pure (Assoc.set proposal "comparison" (.dict comp))

/-- `x.get(key, default)` on a value that may be no dict. -/
def fieldOf (x : Val) (key : String) (default : Val) : Except PyErr Val :=
  match x with
  | .dict d => .ok (getD d key default)
  | _ => .error .attributeError

/-- `float(x or default)`. -/
def floatOr (x : Val) (default : ℚ) : Except PyErr PyFloat :=
  (x.orElse (.float (.fin default))).toFloat

def scoreAgainstConstraints (proposal constraints : Dict) : Except PyErr (PyFloat × String) := do
  let sp ← (((getD proposal "speed_recommendation" .none).orElse
    (getD proposal "target_speed_pct" .none)).orElse (.int 100)).toInt
  let smin ← ((getD constraints "speed_min_pct" .none).orElse (.int 40)).toInt
  let smax ← ((getD constraints "speed_max_pct" .none).orElse (.int 100)).toInt
  let low : Bool := sp < smin
  let high : Bool := smax < sp
  let viol := PyFloat.fin 0
  let viol := if low then viol.add (.fin (2/5)) else viol
  let viol := if high then viol.add (.fin (2/5)) else viol
  let notes := (if low then [s!"속도<{smin}%"] else []) ++ (if high then [s!"속도>{smax}%"] else [])
  let comp := (getD proposal "comparison" .none).orElse (.dict [])
  let violation ← fieldOf comp "constraint_violation" .none
  let extra ← floatOr violation 0
  let viol := viol.add (extra.mul (.fin (1/5)))
  pure (PyFloat.min (.fin 1) viol, if notes.isEmpty then "ok" else String.intercalate "; " notes)

/-- DEFAULT_KPI_WEIGHTS; the planning agent's KPI_WEIGHTS are the same. -/
def defaultKpiWeights : List (String × ℚ) :=
  [("quality", 3/10), ("delivery", 1/4), ("cost", 1/4), ("safety", 1/5)]

def businessScore (scores : Dict) (weights : List (String × ℚ)) : Except PyErr PyFloat :=
  weights.foldlM (fun total (key, w) => do
    let score ← (getD scores key (.float (.fin 0))).toFloat
    pure (total.add (score.mul (.fin w)))) (.fin 0)

/-- The comparison score of a normalized block. -/
def comparisonScore (comparison : Dict) : Except PyErr PyFloat := do
  let effect ← floatOr (getD comparison "expected_effect" .none) (1/2)
  let cost ← floatOr (getD comparison "expected_cost" .none) (1/2)
  let quality ← floatOr (getD comparison "quality_risk" .none) (nearestDouble (3/10))
  let confidence ← floatOr (getD comparison "confidence" .none) (nearestDouble (7/10))
  pure (((effect.mul confidence).sub ((PyFloat.fin (7/20)).mul cost)).sub
    ((PyFloat.fin (1/4)).mul quality))

def finalScore (business comparison violation : PyFloat) : PyFloat :=
  (((PyFloat.fin (2/5)).mul business).add ((PyFloat.fin (3/5)).mul comparison)).sub
    ((PyFloat.fin (1/5)).mul violation)

/-- `evaluate_proposal`; the weights are the default ones where `kpi_weights` is empty. -/
def evaluateProposalWith (printer : Printer) (weights : List (String × ℚ)) (proposal : Dict)
    (constraints : Dict) : Except PyErr Dict := do
  let out ← mergeIntoProposal printer proposal
  let scores := (getD out "scores" .none).asDict
  -- the block has just been set and is never empty
  let comparison := (getD out "comparison" .none).asDict
  let business ← businessScore scores weights
  let comparisonValue ← comparisonScore comparison
  let (violation, note) ←
    if constraints.isEmpty then .ok (PyFloat.fin 0, "ok")
    else scoreAgainstConstraints out constraints
  let final := finalScore business comparisonValue violation
  let out := Assoc.set out "business_score" (.float (business.round 4))
  let out := Assoc.set out "comparison_score" (.float (comparisonValue.round 4))
  let out := Assoc.set out "constraint_penalty" (.float (violation.round 4))
  let out := Assoc.set out "constraint_status" (.str note)
  pure (Assoc.set out "total_score" (.float (final.round 4)))

/-- `evaluate_proposal` with the weights that all its callers use. -/
def evaluateProposal (printer : Printer) (proposal : Dict) (constraints : Dict) :
    Except PyErr Dict :=
  evaluateProposalWith printer defaultKpiWeights proposal constraints

/-- The steps of an evaluation: the comparison block, the scores it is made of, and the
entries that are set. -/
theorem evaluate_ok {printer : Printer} {weights : List (String × ℚ)}
    {proposal constraints evaluated : Dict}
    (h : evaluateProposalWith printer weights proposal constraints = .ok evaluated) :
    ∃ block business comparison violation note,
      normalizeComparisonMetrics printer proposal = .ok block ∧
      businessScore (getD proposal "scores" .none).asDict weights = .ok business ∧
      comparisonScore block = .ok comparison ∧
      (if constraints.isEmpty then .ok (PyFloat.fin 0, "ok")
        else scoreAgainstConstraints (Assoc.set proposal "comparison" (.dict block)) constraints) =
          .ok (violation, note) ∧
      evaluated = Assoc.set (Assoc.set (Assoc.set (Assoc.set (Assoc.set
        (Assoc.set proposal "comparison" (.dict block))
        "business_score" (.float (business.round 4)))
        "comparison_score" (.float (comparison.round 4)))
        "constraint_penalty" (.float (violation.round 4)))
        "constraint_status" (.str note))
        "total_score" (.float ((finalScore business comparison violation).round 4)) := by
  unfold evaluateProposalWith mergeIntoProposal at h
  simp only [Traverse.bind_ok_iff] at h
  obtain ⟨out,⟨block,hblock,hout⟩,business,hbusiness,comparison,hcomparison,hpenalty⟩ := h
  cases hout
  have hscores : getD (Assoc.set proposal "comparison" (.dict block)) "scores" .none =
      getD proposal "scores" .none := getD_set_of_ne (by decide) _ _
  have hcomp : (getD (Assoc.set proposal "comparison" (.dict block)) "comparison" .none).asDict =
      block := congrArg Val.asDict (getD_set_self _ _ _ _)
  rw [hscores] at hbusiness
  rw [hcomp] at hcomparison
  refine ⟨block,business,comparison,?_⟩
  split at hpenalty
  · rename_i hempty
    rw [if_pos hempty]
    cases hpenalty
    exact ⟨_,_,hblock,hbusiness,hcomparison,rfl,rfl⟩
  · rename_i hsome
    rw [if_neg hsome]
    obtain ⟨⟨violation,note⟩,hviolation,hend⟩ := Traverse.bind_ok_iff.mp hpenalty
    cases hend
    exact ⟨violation,note,hblock,hbusiness,hcomparison,hviolation,rfl⟩

/-- The entries that an evaluation sets. -/
def withEvaluation (proposal block : Dict) (business comparison violation : PyFloat)
    (note : String) : Dict :=
  Assoc.set (Assoc.set (Assoc.set (Assoc.set (Assoc.set
    (Assoc.set proposal "comparison" (.dict block))
    "business_score" (.float (business.round 4)))
    "comparison_score" (.float (comparison.round 4)))
    "constraint_penalty" (.float (violation.round 4)))
    "constraint_status" (.str note))
    "total_score" (.float ((finalScore business comparison violation).round 4))

/-- An evaluation whose steps all succeed. -/
theorem evaluate_of_parts {printer : Printer} {weights : List (String × ℚ)}
    {proposal constraints block : Dict} {business comparison violation : PyFloat} {note : String}
    (hblock : normalizeComparisonMetrics printer proposal = .ok block)
    (hbusiness : businessScore (getD proposal "scores" .none).asDict weights = .ok business)
    (hcomparison : comparisonScore block = .ok comparison)
    (hviolation : (if constraints.isEmpty then .ok (PyFloat.fin 0, "ok")
      else scoreAgainstConstraints (Assoc.set proposal "comparison" (.dict block)) constraints) =
        .ok (violation, note)) :
    evaluateProposalWith printer weights proposal constraints =
      .ok (withEvaluation proposal block business comparison violation note) := by
  have hscores : getD (Assoc.set proposal "comparison" (.dict block)) "scores" .none =
      getD proposal "scores" .none := getD_set_of_ne (by decide) _ _
  have hcomp : (getD (Assoc.set proposal "comparison" (.dict block)) "comparison" .none).asDict =
      block := congrArg Val.asDict (getD_set_self _ _ _ _)
  unfold evaluateProposalWith mergeIntoProposal
  rw [hblock]
  dsimp only [bind, Except.bind, pure, Except.pure]
  rw [hscores, hbusiness, hcomp, hcomparison]
  dsimp only
  by_cases hempty : constraints.isEmpty = true
  · rw [if_pos hempty] at hviolation ⊢
    cases hviolation
    rfl
  · rw [if_neg hempty] at hviolation ⊢
    rw [hviolation]
    rfl

/-- The keys an evaluation sets. -/
def evaluationKeys : List String :=
  ["comparison", "business_score", "comparison_score", "constraint_penalty", "constraint_status",
    "total_score"]

/-- The entries under all other keys stay as they are. -/
theorem get_evaluateWith {printer : Printer} {weights : List (String × ℚ)}
    {proposal constraints evaluated : Dict}
    (h : evaluateProposalWith printer weights proposal constraints = .ok evaluated) {key : String}
    (hkey : key ∉ evaluationKeys) : Assoc.get evaluated key = Assoc.get proposal key := by
  obtain ⟨_,_,_,_,_,_,_,_,_,rfl⟩ := evaluate_ok h
  simp only [evaluationKeys, List.mem_cons, List.not_mem_nil, or_false, not_or] at hkey
  obtain ⟨hcomparison,hbusiness,hscore,hpenalty,hstatus,htotal⟩ := hkey
  rw [Assoc.get_set_of_ne htotal, Assoc.get_set_of_ne hstatus, Assoc.get_set_of_ne hpenalty,
    Assoc.get_set_of_ne hscore, Assoc.get_set_of_ne hbusiness, Assoc.get_set_of_ne hcomparison]

theorem get_evaluate {printer : Printer} {proposal constraints evaluated : Dict}
    (h : evaluateProposal printer proposal constraints = .ok evaluated) {key : String}
    (hkey : key ∉ evaluationKeys) : Assoc.get evaluated key = Assoc.get proposal key :=
  get_evaluateWith h hkey

/-- A score of an evaluated proposal, which is always a float. -/
def scoreOf (key : String) (p : Dict) : PyFloat :=
  match getD p key (.int 0) with
  | .float x => x
  | .int n => .fin n
  | _ => .nan

/-- The tuple a ranking compares. -/
def rankKey (p : Dict) : PyFloat × PyFloat × PyFloat :=
  (scoreOf "total_score" p, scoreOf "comparison_score" p, scoreOf "business_score" p)

/-- `<` on tuples: decided by the first pair of unequal entries. -/
def keyLt (a b : PyFloat × PyFloat × PyFloat) : Bool :=
  if !a.1.eq b.1 then a.1.lt b.1
  else if !a.2.1.eq b.2.1 then a.2.1.lt b.2.1
  else a.2.2.lt b.2.2

def rankProposalsByComparison (printer : Printer) (proposals : List Dict) (constraints : Dict) :
    Except PyErr (List Dict) := do
  let enriched ← proposals.mapM fun p => evaluateProposal printer p constraints
  pure (sortDescending keyLt rankKey enriched)

/-- A ranking sorts the evaluations of all proposals. -/
theorem rank_ok {printer : Printer} {proposals ranked : List Dict} {constraints : Dict}
    (h : rankProposalsByComparison printer proposals constraints = .ok ranked) :
    ∃ enriched, proposals.mapM (fun p => evaluateProposal printer p constraints) = .ok enriched ∧
      ranked = sortDescending keyLt rankKey enriched := by
  unfold rankProposalsByComparison at h
  cases henriched : proposals.mapM fun p => evaluateProposal printer p constraints with
  | error e =>
    rw [henriched] at h
    cases h
  | ok enriched =>
    rw [henriched] at h
    cases h
    exact ⟨enriched,rfl,rfl⟩

/-- The line on the best proposal's comparison block. -/
def bestAlternativeLine (printer : Printer) (proposals : List Dict) :
    Except PyErr (List String) :=
  let comparison := match proposals with
    | best :: _ => getD best "comparison" .none
    | [] => .none
  if comparison.truthy then do
    let action ← fieldOf comparison "candidate_action" (.str "")
    let confidence ← fieldOf comparison "confidence" (.int 0)
    let shown ← printer.fixed 2 confidence
    pure [s!"최우선 대안: {printer.str action} (신뢰도 {shown})"]
  else pure []

def buildPaReportLines (printer : Printer) (strategy : Dict) (proposals : List Dict) :
    Except PyErr (List String) := do
  let best ← bestAlternativeLine printer proposals
  let decision := printer.field strategy "decision" "n/a"
  let speed := printer.field strategy "target_speed_pct" "-"
  let mode := printer.field strategy "inspection_mode" "-"
  pure ([s!"결정: {decision}", s!"목표속도: {speed}%", s!"검사모드: {mode}",
    s!"제안 수: {proposals.length}"] ++ best)

end ManufacturingMas.Agents
