import ManufacturingMas.Lib.TwoRuns
import ManufacturingMas.Agents.PlanningAgent

/-! The answer of the rationale call is not seen in what a round decides and executes. -/

namespace ManufacturingMas.Proofs.RationaleIndependence
open Py Protocol Intelligence Agents TwoRuns Assoc

variable {σ : Type}

/-! ### The merge -/

theorem mergeEntries_numeric {k : String} (hk : k ∈ numericKeys) (out part : Dict) :
    Assoc.get (mergeEntries out part) k = Assoc.get out k := by
  induction part generalizing out with
  | nil => rfl
  | cons entry part ih =>
    obtain ⟨j,v⟩ := entry
    unfold mergeEntries
    split
    · exact ih out
    · rename_i hj
      have hne : k ≠ j := fun h => hj (h ▸ hk)
      exact (ih _).trans (get_set_of_ne hne)

/-- No answer changes an entry under a numeric key. -/
theorem merge_numeric {k : String} (hk : k ∈ numericKeys) (numeric : Dict) (part : Option Dict) :
    Assoc.get (mergeNumericAndRationale numeric part) k = Assoc.get numeric k := by
  have hrationale : k ≠ "rationale" := ne_of_mem_of_not_mem hk (by simp [numericKeys])
  have hrisk : k ≠ "risk_assessment" := ne_of_mem_of_not_mem hk (by simp [numericKeys])
  have himpact : k ≠ "expected_ss_impact" := ne_of_mem_of_not_mem hk (by simp [numericKeys])
  unfold mergeNumericAndRationale
  split
  · rw [get_setDefault_of_ne hrationale, mergeEntries_numeric hk]
  · rw [get_setDefault_of_ne himpact, get_setDefault_of_ne hrisk,
      get_setDefault_of_ne hrationale]

/-! ### The strategy -/

/-- The entries of a solver's strategy that later stages read. -/
def solverKeys : List String := ["target_speed_pct", "inspection_mode", "best_agent", "best_score"]

/-- The entries of a built strategy that clamp, card and report read or keep. -/
def builtKeys : List String := "cnp_id" :: solverKeys

/-- The entries that say what was decided. -/
def decisionKeys : List String := "approval_required" :: solverKeys

def withAnswer (llm : LLMClient) (answer : String → Option Dict) : LLMClient :=
  { llm with answer := answer }

/-- Two results of the client: none, or strategies with one set of numbers. -/
def SameNumbers : Option Dict → Option Dict → Prop
  | none, none => True
  | some d, some e => d.isEmpty = false ∧ e.isEmpty = false ∧ AgreeOn solverKeys d e
  | _, _ => False

variable (llm : LLMClient) (answer answer' : String → Option Dict)

theorem evaluateProposals_related (context : Dict) (proposals : List Dict) :
    Related SameNumbers ((withAnswer llm answer).evaluateProposals context proposals)
      ((withAnswer llm answer').evaluateProposals context proposals) := by
  unfold LLMClient.evaluateProposals
  split
  · trivial
  · apply Related.bind_same
    intro numeric
    split
    · trivial
    · have hrationale : Related (fun _ _ => True)
          ((withAnswer llm answer).rationale context proposals numeric)
          ((withAnswer llm answer').rationale context proposals numeric) := by
        unfold LLMClient.rationale
        by_cases henabled : llm.enabled = true
        · simp only [withAnswer, henabled, ↓reduceIte]
          apply Related.bind_same
          intro userMsg
          trivial
        · simp only [withAnswer, henabled]
          trivial
      apply Related.bind hrationale
      intro rat rat' _
      refine show SameNumbers (some _) (some _) from ⟨set_isEmpty,set_isEmpty,?_⟩
      have hmerged : AgreeOn solverKeys (mergeNumericAndRationale numeric rat)
          (mergeNumericAndRationale numeric rat') := by
        intro k hk
        have hnumeric : k ∈ numericKeys := List.mem_append_left ["decision"] hk
        rw [merge_numeric hnumeric, merge_numeric hnumeric]
      exact (hmerged.set_other (by simp [solverKeys]) _ _).set_other (by simp [solverKeys]) _ _

theorem buildStrategyLlm_agree (env : CnpEnv σ) (cnpId : Nat) (proposals : List Dict)
    (snapshot : Dict) :
    AgreeOn builtKeys (buildStrategyLlm env (withAnswer llm answer) cnpId proposals snapshot)
      (buildStrategyLlm env (withAnswer llm answer') cnpId proposals snapshot) := by
  have hrel : Related SameNumbers
      (env.buildLlmContext snapshot >>= fun c =>
        (withAnswer llm answer).evaluateProposals c proposals)
      (env.buildLlmContext snapshot >>= fun c =>
        (withAnswer llm answer').evaluateProposals c proposals) := by
    apply Related.bind_same
    intro context
    exact evaluateProposals_related llm answer answer' context proposals
  unfold buildStrategyLlm
  generalize (env.buildLlmContext snapshot >>= fun c =>
    (withAnswer llm answer).evaluateProposals c proposals) = r at hrel ⊢
  generalize (env.buildLlmContext snapshot >>= fun c =>
    (withAnswer llm answer').evaluateProposals c proposals) = r' at hrel ⊢
  match r, r', hrel with
  | .ok none, .ok none, _ => exact AgreeOn.refl _ _
  | .error _, .error _, _ => exact AgreeOn.refl _ _
  | .ok (some d), .ok (some e), ⟨hd,he,hagree⟩ =>
    simp only [hd, he, Bool.false_eq_true, ↓reduceIte]
    exact hagree.set "cnp_id" (.int cnpId)

theorem buildStrategy_agree (env : CnpEnv σ) (cnpId : Nat) (proposals : List Dict)
    (snapshot : Dict) :
    AgreeOn builtKeys (buildStrategy env (some (withAnswer llm answer)) cnpId proposals snapshot)
      (buildStrategy env (some (withAnswer llm answer')) cnpId proposals snapshot) := by
  by_cases henabled : llm.enabled = true
  · simp only [buildStrategy, withAnswer, henabled, ↓reduceIte]
    exact buildStrategyLlm_agree { llm with enabled := true } answer answer' env cnpId proposals
      snapshot
  · simp only [buildStrategy, withAnswer, henabled]
    exact AgreeOn.refl _ _

/-! ### Clamp, card and report -/

theorem getD_eq {ks : List String} {d e : Dict} (h : AgreeOn ks d e) {k : String} (hk : k ∈ ks)
    (default : Val) : getD d k default = getD e k default := by
  simp only [getD, h k hk]

theorem clampStrategy_related (session : CNPSession) {d e : Dict} (h : AgreeOn builtKeys d e) :
    Related (AgreeOn ("approval_required" :: builtKeys)) (session.clampStrategy d)
      (session.clampStrategy e) := by
  have hspeed : session.strategySpeed d = session.strategySpeed e := by
    simp only [CNPSession.strategySpeed, getD_eq h (by decide : "target_speed_pct" ∈ builtKeys)]
  unfold CNPSession.clampStrategy
  rw [hspeed]
  apply Related.bind_same
  intro sp
  have hset := ((((h.set "target_speed_pct" (.int sp)).set "constraints_applied" (.bool true)).set
    "protocol_version" (.str protocolVersion)).set "conversation_id" (.str session.conversationId))
  have hmode := getD_eq hset
    (by decide : "inspection_mode" ∈ "conversation_id" :: "protocol_version" ::
      "constraints_applied" :: "target_speed_pct" :: builtKeys) (.str "")
  change AgreeOn _ (Assoc.set _ _ _) (Assoc.set _ _ _)
  rw [hmode]
  exact (hset.set "approval_required" _).mono (by decide)

theorem fromCnpStrategy_eq (printer : Printer) (situation : String) (proposals : List Dict)
    (snapshot : Dict) {ks : List String} {d e : Dict} (h : AgreeOn ks d e)
    (hks : ∀ k ∈ ["target_speed_pct", "inspection_mode", "cnp_id"], k ∈ ks) :
    fromCnpStrategy printer situation proposals d snapshot =
      fromCnpStrategy printer situation proposals e snapshot := by
  unfold fromCnpStrategy
  simp only [Printer.field, getD_eq h (hks "target_speed_pct" (by decide)),
    getD_eq h (hks "inspection_mode" (by decide)), getD_eq h (hks "cnp_id" (by decide))]

/-- The report may differ in its text, but whether it can be printed does not
depend on the strategy. -/
theorem buildPaReportLines_related (printer : Printer) (proposals : List Dict) (d e : Dict) :
    Related (fun _ _ => True) (buildPaReportLines printer d proposals)
      (buildPaReportLines printer e proposals) := by
  unfold buildPaReportLines
  apply Related.bind_same
  intro best
  trivial

theorem settleRound_related (env : CnpEnv σ) (round : Round) (snapshot : Dict) :
    Related (AgreeOn decisionKeys)
      (settleRound env (some (withAnswer llm answer)) round snapshot)
      (settleRound env (some (withAnswer llm answer')) round snapshot) := by
  unfold settleRound
  apply Related.bind (clampStrategy_related round.session
    (buildStrategy_agree llm answer answer' env round.cnpId round.ranked snapshot))
  intro d e hde
  rw [fromCnpStrategy_eq env.printer round.situation round.ranked snapshot hde (by decide)]
  apply Related.bind_same
  intro card
  apply Related.bind (buildPaReportLines_related env.printer round.ranked _ _)
  intro lines lines' _
  have hcard := hde.set "operational_decision_card" (.dict card)
  exact (hcard.set_other (by decide) (.list (lines.map .str)) (.list (lines'.map .str))).mono
    (by decide)

/-! ### The whole round -/

def SameDecision : Option Dict → Option Dict → Prop
  | none, none => True
  | some d, some e => AgreeOn decisionKeys d e
  | _, _ => False

/-- The same proposals executed by the same agents, the same changes to
everything they share, and the same agent but for the strategies it keeps. -/
structure SameExecution (w w' : CnpWorld σ) : Prop where
  executed : w.executed = w'.executed
  rest : w.rest = w'.rest
  cnpCount : w.pa.cnpCount = w'.pa.cnpCount
  lastCnpCycle : w.pa.lastCnpCycle = w'.pa.lastCnpCycle
  pendingAlerts : w.pa.pendingAlerts = w'.pa.pendingAlerts

theorem SameExecution.refl (w : CnpWorld σ) : SameExecution w w := ⟨rfl,rfl,rfl,rfl,rfl⟩

/-- Two rounds of one agent on one snapshot, whatever the rationale call answers
in each, decide the same and have the same proposals executed by the same agents. -/
theorem rationale_cannot_interfere (env : CnpEnv σ) (llm : LLMClient)
    (answer answer' : String → Option Dict) (agents : List (Responder σ)) (snapshot : Dict) :
    Paired Eq SameExecution SameDecision
      (initiateCnp env (some (withAnswer llm answer)) agents snapshot)
      (initiateCnp env (some (withAnswer llm answer')) agents snapshot) := by
  unfold initiateCnp
  refine Paired.bind_same ?_ SameExecution.refl
  intro opened
  cases opened with
  | none =>
    intro s t hst
    subst hst
    exact ⟨trivial,.refl s⟩
  | some round =>
    refine Paired.bind
      (paired_ofExcept (settleRound_related llm answer answer' env round snapshot)) ?_ ?_
    · intro d e hde
      refine Paired.bind_same ?_ SameExecution.refl
      intro _
      -- from here on the two agents differ, in the strategies they keep
      refine Paired.bind (paired_modify (T := SameExecution) ?_) ?_ ?_
      · intro s t heq
        subst heq
        exact ⟨rfl,rfl,rfl,rfl,rfl⟩
      · intro _ _ _
        exact paired_pure hde
      · intro s t h
        exact h
    · intro s t heq
      subst heq
      exact .refl s

end ManufacturingMas.Proofs.RationaleIndependence
