import Mathlib.Tactic.Linarith
import ManufacturingMas.Agents.QualityAgent
import ManufacturingMas.Lib.Loops

/-! How a cycle of the quality agent moves its inspection mode. -/

namespace ManufacturingMas.Proofs.InspectionLevel
open Py Agents QualityAgent

/-- The level of a mode; a word that names none counts as the lowest. -/
def level (mode : String) : Nat :=
  if mode = "전수" then 2 else if mode = "강화" then 1 else 0

/-- The level of 강화 is passed only by 전수. -/
theorem one_lt_level_iff {mode : String} : 1 < level mode ↔ mode = "전수" := by
  unfold level
  split_ifs with hfull hraised <;> simp [hfull]

theorem level_le_two (mode : String) : level mode ≤ 2 := by
  unfold level
  split_ifs <;> decide

/-! ### The findings -/

/-- Some channel is at risk, or is to be watched and falls. -/
def Critical (obs : QualityObservation) : Prop :=
  ∃ entry ∈ obs.cpkStatus, isCriticalCpk entry.2 = true

/-- The quality of several stations gets worse. -/
def Worsening (obs : QualityObservation) : Prop := obs.defectTrend = "악화"

instance (obs : QualityObservation) : Decidable (Critical obs) :=
  inferInstanceAs (Decidable (∃ entry ∈ obs.cpkStatus, isCriticalCpk entry.2 = true))

instance (obs : QualityObservation) : Decidable (Worsening obs) :=
  inferInstanceAs (Decidable (obs.defectTrend = "악화"))

theorem filter_nil_iff (obs : QualityObservation) :
    (obs.cpkStatus.filter fun entry => isCriticalCpk entry.2) = [] ↔ ¬ Critical obs := by
  rw [List.filter_eq_nil_iff]
  simp [Critical]

/-- The findings set the mode, the worsening last. -/
theorem modeAfter_eq (mode : String) (obs : QualityObservation) : modeAfter mode obs =
    if Worsening obs then "전수" else if Critical obs then "강화" else mode := by
  have hnil := filter_nil_iff obs
  unfold modeAfter
  dsimp only
  by_cases hworsening : Worsening obs
  · rw [if_pos hworsening]
    exact if_pos hworsening
  · rw [if_neg hworsening]
    refine (if_neg hworsening).trans ?_
    by_cases hcritical : Critical obs
    · rw [if_pos hcritical, if_neg]
      exact fun hempty => hnil.mp (List.isEmpty_iff.mp hempty) hcritical
    · rw [if_neg hcritical, if_pos (List.isEmpty_iff.mpr (hnil.mpr hcritical))]

/-! ### The decision -/

/-- The decision has the mode, and alerts if there is a finding. -/
structure Decided (mode : String) (found : Prop) (d : QualityDecision) : Prop where
  mode : d.inspectionMode = mode
  alerts : found → d.alerts ≠ []

variable {mode : String} {found : Prop}

theorem reasonCpk_decided (entries : List (String × CpkInfo)) (r : Reasoning)
    (entry : String × CpkInfo) (h : Decided mode (entries ≠ []) r.1) :
    Decided mode (entries ++ [entry] ≠ []) (reasonCpk r entry).1 :=
  ⟨h.mode,fun _ => List.append_ne_nil_of_right_ne_nil _ (by simp)⟩

theorem reasonViolation_decided (r : Reasoning) (v : SpcViolation) (h : Decided mode found r.1) :
    Decided mode found (reasonViolation r v).1 :=
  ⟨h.mode,fun _ => List.append_ne_nil_of_right_ne_nil _ (by simp)⟩

theorem assessCpk_decided (mode : String) (obs : QualityObservation)
    (base : BaseAgent QualityDecision) :
    Decided (if Critical obs then "강화" else mode) (Critical obs) (assessCpk mode obs base).1 := by
  have hnil := filter_nil_iff obs
  unfold assessCpk
  dsimp only
  generalize (obs.cpkStatus.filter fun entry => isCriticalCpk entry.2) = critical at hnil ⊢
  by_cases hcritical : Critical obs
  · rw [if_neg fun hempty => hnil.mp (List.isEmpty_iff.mp hempty) hcritical, if_pos hcritical]
    have hfold := Folds.foldl_invariant
      (I := fun entries (r : Reasoning) => Decided "강화" (entries ≠ []) r.1) reasonCpk_decided
      (b := (⟨"강화",[],[],"HIGH"⟩, base)) ⟨rfl,fun h => absurd rfl h⟩ critical
    exact ⟨hfold.mode,fun _ => hfold.alerts fun hempty => hnil.mp hempty hcritical⟩
  · rw [if_pos (List.isEmpty_iff.mpr (hnil.mpr hcritical)), if_neg hcritical]
    exact ⟨rfl,fun h => absurd h hcritical⟩

theorem assess_decided (qa : QualityAgent) (obs : QualityObservation) :
    Decided (modeAfter qa.inspectionMode obs) (Critical obs ∨ Worsening obs)
      (qa.assess obs).1 := by
  have hviolations := Folds.foldl_invariant
    (I := fun _ (r : Reasoning) =>
      Decided (if Critical obs then "강화" else qa.inspectionMode) (Critical obs) r.1)
    (fun _ => reasonViolation_decided) (assessCpk_decided qa.inspectionMode obs qa.base)
    obs.spcViolations
  unfold assess assessTrend
  dsimp only
  rw [modeAfter_eq]
  by_cases hworsening : Worsening obs
  · rw [if_pos (show obs.defectTrend = "악화" from hworsening), if_pos hworsening]
    exact ⟨rfl,fun _ => List.append_ne_nil_of_right_ne_nil _ (by simp)⟩
  · rw [if_neg (show ¬ obs.defectTrend = "악화" from hworsening), if_neg hworsening]
    exact ⟨hviolations.mode,fun h => hviolations.alerts (h.resolve_right hworsening)⟩

/-! ### The cycle -/

theorem le_leastOr2_iff {c : ℚ} (hc : c ≤ 2) (cpks : List ℚ) :
    c ≤ leastOr2 cpks ↔ ∀ cpk ∈ cpks, c ≤ cpk := by
  have hfold : ∀ (cpks : List ℚ) (x : ℚ),
      c ≤ cpks.foldl min x ↔ c ≤ x ∧ ∀ cpk ∈ cpks, c ≤ cpk := by
    intro cpks
    induction cpks with
    | nil => simp
    | cons cpk cpks ih =>
      intro x
      rw [List.foldl_cons, ih, le_min_iff, List.forall_mem_cons, and_assoc]
  cases cpks with
  | nil => simpa [leastOr2] using hc
  | cons cpk cpks => exact (hfold cpks cpk).trans List.forall_mem_cons.symm

/-- Every channel is capable. -/
def Capable (obs : QualityObservation) : Prop := ∀ entry ∈ obs.cpkStatus, 133/100 ≤ entry.2.cpk

/-- A cycle decides and takes over the mode of the findings, or there is no finding and it only
resets the mode of capable channels. -/
theorem reason_cases (qa : QualityAgent) (obs : QualityObservation) :
    (∃ d, (qa.reason obs).1 = some d ∧ d.inspectionMode = (qa.reason obs).2.inspectionMode ∧
      (qa.reason obs).2.inspectionMode = modeAfter qa.inspectionMode obs) ∨
    ((qa.reason obs).1 = none ∧ ¬ Critical obs ∧ ¬ Worsening obs ∧
      ((qa.reason obs).2.inspectionMode ≠ qa.inspectionMode → Capable obs)) := by
  obtain ⟨hmode,halerts⟩ := assess_decided qa obs
  unfold reason
  generalize qa.assess obs = r at hmode halerts ⊢
  obtain ⟨d,base⟩ := r
  dsimp only at hmode halerts ⊢
  split
  · rename_i hempty
    right
    have hnone : ¬ (Critical obs ∨ Worsening obs) :=
      fun h => halerts h (List.isEmpty_iff.mp hempty.1)
    obtain ⟨hcritical,hworsening⟩ := not_or.mp hnone
    refine ⟨rfl,hcritical,hworsening,?_⟩
    dsimp only
    rw [modeAfter_eq, if_neg hworsening, if_neg hcritical]
    intro hchanged
    by_contra hcapable
    refine hchanged (if_neg fun h => hcapable ?_)
    exact List.forall_mem_map.mp ((le_leastOr2_iff (by norm_num) _).mp h.2)
  · exact .inl ⟨d,rfl,hmode,rfl⟩

/-- Inspection is lowered only where nothing is decided and every channel is capable, and the mode
of a decision is that of the agent, which it does not lower. -/
structure NotRelaxed (qa : QualityAgent) (obs : QualityObservation) : Prop where
  lowered : level (qa.reason obs).2.inspectionMode < level qa.inspectionMode →
    (qa.reason obs).1 = none ∧ Capable obs
  decided : ∀ d, (qa.reason obs).1 = some d →
    level qa.inspectionMode ≤ level (qa.reason obs).2.inspectionMode ∧
      d.inspectionMode = (qa.reason obs).2.inspectionMode

/-- Inspection is relaxed exactly if it is full, some channel is critical, and the quality does not
get worse. -/
theorem not_relaxed_iff (qa : QualityAgent) (obs : QualityObservation) :
    NotRelaxed qa obs ↔ ¬ (qa.inspectionMode = "전수" ∧ Critical obs ∧ ¬ Worsening obs) := by
  rcases reason_cases qa obs with ⟨d,hsome,hdecided,hmode⟩ | ⟨hnone,hcritical,_,hcapable⟩
  · have hkept : NotRelaxed qa obs ↔
        level qa.inspectionMode ≤ level (qa.reason obs).2.inspectionMode := by
      constructor
      · exact fun h => (h.decided d hsome).1
      · intro hle
        refine ⟨fun hlower => absurd hlower (not_lt.mpr hle),?_⟩
        intro d' hd'
        cases hsome.symm.trans hd'
        exact ⟨hle,hdecided⟩
    rw [hkept, hmode, modeAfter_eq]
    by_cases hworsening : Worsening obs
    · rw [if_pos hworsening]
      exact iff_of_true (level_le_two _) fun h => h.2.2 hworsening
    · rw [if_neg hworsening]
      by_cases hcritical : Critical obs
      · rw [if_pos hcritical, ← not_lt, show level "강화" = 1 from rfl, one_lt_level_iff]
        simp [hcritical, hworsening]
      · rw [if_neg hcritical]
        exact iff_of_true le_rfl fun h => hcritical h.2.1
  · refine iff_of_true ⟨?_,?_⟩ fun h => hcritical h.2.1
    · intro hlower
      refine ⟨hnone,hcapable fun hsame => ?_⟩
      rw [hsame] at hlower
      exact lt_irrefl _ hlower
    · intro d hsome
      rw [hnone] at hsome
      cases hsome

/-- A cycle in which three stations are at risk. -/
def worseningCycle : QualityObservation :=
  { emptyObservation with
    defectTrend := "악화"
    qualityRiskStations := ["WC-01", "WC-02", "WC-03"].map fun sid => ⟨sid,4/5,sid⟩ }

/-- The next one, with the vibration of the press still at risk. -/
def riskyCycle : QualityObservation :=
  { emptyObservation with cpkStatus := [("WC-01.진동", ⟨4/5,"안정","위험"⟩)] }

/-- The first sets the full inspection, and the second takes it back with its decision. -/
theorem full_inspection_relaxed :
    let qa := (QualityAgent.new.reason worseningCycle).2
    qa.inspectionMode = "전수" ∧ (qa.reason riskyCycle).1.isSome = true ∧
      (qa.reason riskyCycle).2.inspectionMode = "강화" ∧ ¬ NotRelaxed qa riskyCycle := by
  intro qa
  have hfull : qa.inspectionMode = "전수" := by decide +kernel
  have hraised : (qa.reason riskyCycle).2.inspectionMode = "강화" := by decide +kernel
  have hsome : (qa.reason riskyCycle).1.isSome = true := by decide +kernel
  refine ⟨hfull,hsome,hraised,?_⟩
  intro h
  obtain ⟨d,hd⟩ := Option.isSome_iff_exists.mp hsome
  have hkept := (h.decided d hd).1
  rw [hfull, hraised] at hkept
  exact absurd hkept (by decide)

end ManufacturingMas.Proofs.InspectionLevel
