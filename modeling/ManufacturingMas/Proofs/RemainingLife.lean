import Mathlib.Tactic.Linarith
import Mathlib.Tactic.NormNum
import ManufacturingMas.Agents.EquipmentAgent

/-! How the estimated remaining life moves with the health of a station and with
its mean time between failures. -/

namespace ManufacturingMas.Proofs.RemainingLife
open Agents

variable {stationType : String} {a b health health' m m' : ℚ} {mtbf : Option ℚ}

/-- The hours of the default model, for a station that has never failed. -/
def defaultHours : ℚ := 100

/-- The hours left by a finite mean time between failures, in seconds. -/
def finiteHours (health m : ℚ) : ℚ := m / 3600 * (health / 100)

/-- A finite mean time is positive. -/
def PositiveMtbf (mtbf : Option ℚ) : Prop := ∀ m ∈ mtbf, 0 < m

/-- The order of two mean times, of which `none` is infinite. -/
def MtbfLe : Option ℚ → Option ℚ → Prop
  | some m, some m' => m ≤ m'
  | _, none => True
  | none, some _ => False

/-- What holds of the estimate for every station type: the order from a finite to an
infinite mean time is kept while the finite one leaves no more than the default. -/
structure LifeOrder (stationType : String) : Prop where
  health : ∀ mtbf, PositiveMtbf mtbf → ∀ health health', health ≤ health' →
    estimateRulHours health mtbf stationType ≤ estimateRulHours health' mtbf stationType
  finite : ∀ health, 0 ≤ health → health ≤ 100 → ∀ m m', 0 < m → m ≤ m' →
    estimateRulHours health (some m) stationType ≤ estimateRulHours health (some m') stationType
  infinite : ∀ health, 0 ≤ health → health ≤ 100 → ∀ m, 0 < m →
    (estimateRulHours health (some m) stationType ≤ estimateRulHours health none stationType ↔
      finiteHours health m ≤ defaultHours)
  default : ∀ health, estimateRulHours health none stationType =
    defaultHours * (profileForStationType stationType).rulScale
  atLeast : ∀ health mtbf, 1/2 ≤ estimateRulHours health mtbf stationType

/-- No profile shortens or lengthens a life by more than a tenth. -/
theorem rulScale_bounds (stationType : String) :
    9/10 ≤ (profileForStationType stationType).rulScale ∧
      (profileForStationType stationType).rulScale ≤ 11/10 := by
  have hpress : 9/10 ≤ pressProfile.rulScale ∧ pressProfile.rulScale ≤ 11/10 := by
    norm_num [pressProfile]
  have hothers : ∀ p ∈ equipmentPmModels, 9/10 ≤ p.2.rulScale ∧ p.2.rulScale ≤ 11/10 := by
    simp only [equipmentPmModels, List.forall_mem_cons, List.not_mem_nil, false_imp_iff,
      implies_true, and_true]
    norm_num
  unfold profileForStationType
  cases hget : Assoc.get equipmentPmModels (Py.upper stationType) with
  | none => exact hpress
  | some p => exact hothers _ (Assoc.mem_of_get hget)

theorem rulScale_pos (stationType : String) : 0 < (profileForStationType stationType).rulScale :=
  lt_of_lt_of_le (by norm_num) (rulScale_bounds stationType).1

theorem scaleRulHours_mono (h : a ≤ b) : scaleRulHours stationType a ≤ scaleRulHours stationType b :=
  max_le_max_left _ (mul_le_mul_of_nonneg_right h (rulScale_pos stationType).le)

/-- The default of 100 hours is above the floor of half an hour for every type. -/
theorem scaleRulHours_default : scaleRulHours stationType defaultHours =
    defaultHours * (profileForStationType stationType).rulScale := by
  have hscale := (rulScale_bounds stationType).1
  unfold scaleRulHours
  apply max_eq_right
  unfold defaultHours
  linarith

theorem scaleRulHours_le_default_iff :
    scaleRulHours stationType a ≤ scaleRulHours stationType defaultHours ↔ a ≤ defaultHours := by
  have hscale := (rulScale_bounds stationType).1
  rw [scaleRulHours_default]
  unfold scaleRulHours
  rw [max_le_iff, mul_le_mul_iff_left₀ (rulScale_pos stationType)]
  refine and_iff_right ?_
  unfold defaultHours
  linarith

theorem estimate_none : estimateRulHours health none stationType =
    scaleRulHours stationType defaultHours := rfl

theorem estimate_some (hm : 0 < m) : estimateRulHours health (some m) stationType =
    scaleRulHours stationType (finiteHours health m) := by
  unfold estimateRulHours
  dsimp only
  rw [if_neg (not_le.mpr hm)]
  rfl

theorem finiteHours_mono_health (hm : 0 < m) (h : health ≤ health') :
    finiteHours health m ≤ finiteHours health' m := by
  unfold finiteHours
  have hhours : 0 ≤ m / 3600 := by positivity
  have hfactor : health / 100 ≤ health' / 100 := by linarith
  exact mul_le_mul_of_nonneg_left hfactor hhours

theorem finiteHours_mono_mtbf (hhealth : 0 ≤ health) (h : m ≤ m') :
    finiteHours health m ≤ finiteHours health m' := by
  unfold finiteHours
  have hfactor : 0 ≤ health / 100 := by positivity
  have hhours : m / 3600 ≤ m' / 3600 := by linarith
  exact mul_le_mul_of_nonneg_right hhours hfactor

theorem rul_order (stationType : String) : LifeOrder stationType := by
  constructor
  · intro mtbf hmtbf health health' h
    cases mtbf with
    | none => exact le_refl _
    | some m =>
      have hm : 0 < m := hmtbf m rfl
      rw [estimate_some hm, estimate_some hm]
      exact scaleRulHours_mono (finiteHours_mono_health hm h)
  · intro health hlow _ m m' hm h
    rw [estimate_some hm, estimate_some (lt_of_lt_of_le hm h)]
    exact scaleRulHours_mono (finiteHours_mono_mtbf hlow h)
  · intro health _ _ m hm
    rw [estimate_some hm, estimate_none]
    exact scaleRulHours_le_default_iff
  · intro health
    rw [estimate_none]
    exact scaleRulHours_default
  · intro health mtbf
    exact le_max_left _ _

/-- A press in full health loses life by never having failed: its estimate is 100
hours, against 200 with a failure every 200 hours. -/
theorem never_failed_shorter :
    ¬ (∀ health : ℚ, 0 ≤ health → health ≤ 100 → ∀ mtbf mtbf', PositiveMtbf mtbf →
      MtbfLe mtbf mtbf' →
      estimateRulHours health mtbf "PRESS" ≤ estimateRulHours health mtbf' "PRESS") := by
  intro h
  have hle := h 100 (by norm_num) (le_refl _) (some 720000) none
    (fun m hm => by cases hm; norm_num) trivial
  rw [estimate_some (by norm_num), estimate_none, scaleRulHours_le_default_iff] at hle
  norm_num [finiteHours, defaultHours] at hle

end ManufacturingMas.Proofs.RemainingLife
