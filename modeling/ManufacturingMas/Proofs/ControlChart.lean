import Mathlib.Algebra.Order.Group.Unbundled.Basic
import ManufacturingMas.Agents.QualityAgent
import ManufacturingMas.Lib.Logs

/-! What the run rules of a control chart report. -/

namespace ManufacturingMas.Proofs.ControlChart
open Py Agents FactorySnapshot QualityAgent

/-! ### Windows -/

/-- Consecutive elements start somewhere. -/
theorem exists_drop_of_infix {α : Type} {w xs : List α} (h : w <:+: xs) :
    ∃ i ≤ xs.length, w = (xs.drop i).take w.length := by
  obtain ⟨front,back,rfl⟩ := h
  refine ⟨front.length,?_,?_⟩
  · rw [List.append_assoc, List.length_append]
    omega
  · rw [List.append_assoc, List.drop_left, List.take_left]

theorem length_steps (xs : List ℚ) : (steps xs).length = xs.length - 1 := by
  induction xs with
  | nil => rfl
  | cons x xs ih =>
    cases xs with
    | nil => rfl
    | cons y rest =>
      rw [steps, List.length_cons, ih]
      simp

/-- The steps of what is left are what is left of the steps. -/
theorem steps_drop (xs : List ℚ) (k : Nat) : steps (xs.drop k) = (steps xs).drop k := by
  induction k generalizing xs with
  | zero => rfl
  | succ k ih =>
    cases xs with
    | nil => rfl
    | cons x xs =>
      cases xs with
      | nil => simp [steps]
      | cons y rest =>
        rw [List.drop_succ_cons, ih, steps, List.drop_succ_cons]

/-- The last steps are those of one point more. -/
theorem steps_rtake (xs : List ℚ) {n : Nat} (h : n < xs.length) :
    (steps xs).rtake n = steps (xs.rtake (n + 1)) := by
  unfold List.rtake
  rw [steps_drop, length_steps]
  congr 1
  omega

theorem steps_pos_iff (xs : List ℚ) : (∀ d ∈ steps xs, 0 < d) ↔ xs.Pairwise (· < ·) := by
  rw [← List.isChain_iff_pairwise]
  induction xs with
  | nil => simp [steps]
  | cons x xs ih =>
    cases xs with
    | nil => simp [steps]
    | cons y rest =>
      rw [steps, List.forall_mem_cons, ih, List.isChain_cons_cons, sub_pos]

theorem steps_neg_iff (xs : List ℚ) : (∀ d ∈ steps xs, d < 0) ↔ xs.Pairwise (· > ·) := by
  rw [← List.isChain_iff_pairwise]
  induction xs with
  | nil => simp [steps]
  | cons x xs ih =>
    cases xs with
    | nil => simp [steps]
    | cons y rest =>
      rw [steps, List.forall_mem_cons, ih, List.isChain_cons_cons, sub_neg]

/-! ### The rules -/

/-- Strictly on one side of the mean. -/
def OneSided (m : ℚ) (xs : List ℚ) : Prop := (∀ x ∈ xs, m < x) ∨ ∀ x ∈ xs, x < m

/-- Strictly increasing or strictly decreasing. -/
def OneDirection (xs : List ℚ) : Prop := xs.Pairwise (· < ·) ∨ xs.Pairwise (· > ·)

section
variable (root : ℚ → ℚ) (data : List ℚ)

/-- The mean and the standard deviation of the last thirty points. -/
def centre : ℚ := mean (data.rtake 30)

def sigma : ℚ := deviation root (data.rtake 30)

/-- How many of the points are more than two standard deviations off the mean. -/
def outliers (xs : List ℚ) : Nat := xs.countP fun x => 2 * sigma root data < |x - centre data|

/-- Some three consecutive points of the last nine have two outliers. -/
def TwoOfThree : Prop := ∃ w, w <:+: data.rtake 9 ∧ w.length = 3 ∧ 2 ≤ outliers root data w

/-- Each rule is reported exactly where its text says. -/
structure RulesMean : Prop where
  rule2 : "규칙2: 연속 7점 한쪽" ∈ checkRunRules root data ↔ OneSided (centre data) (data.rtake 7)
  rule3 : "규칙3: 연속 6점 증가/감소" ∈ checkRunRules root data ↔ OneDirection (data.rtake 6)
  rule4 : "규칙4: 3점 중 2점 2σ 밖" ∈ checkRunRules root data ↔ TwoOfThree root data

end

section
variable {root : ℚ → ℚ} {data : List ℚ}

theorem checkRunRules_eq (hlen : 9 ≤ data.length) (hstd : 1/10000 ≤ sigma root data) :
    checkRunRules root data =
      (if ((data.rtake 7).all fun x => centre data < x) || (data.rtake 7).all fun x => x < centre data
        then ["규칙2: 연속 7점 한쪽"] else []) ++
      (if ((steps (data.rtake 7)).all fun d => 0 < d) || (steps (data.rtake 7)).all fun d => d < 0
        then ["규칙3: 연속 6점 증가/감소"] else []) ++
      (if 2 ≤ outliers root data (data.rtake 9) then ["규칙4: 3점 중 2점 2σ 밖"] else []) := by
  have hdiffs : (steps (data.rtake 9)).rtake 6 = steps (data.rtake 7) := by
    have hnine : 6 < (data.rtake 9).length := by
      rw [Ring.length_rtake]
      omega
    rw [steps_rtake _ hnine, Ring.rtake_rtake_of_le (by decide)]
  have hlast : (data.rtake 9).rtake 7 = data.rtake 7 := Ring.rtake_rtake_of_le (by decide) data
  have hspread : ¬ deviation root (data.rtake 30) < 1/10000 := not_lt.mpr hstd
  unfold checkRunRules
  rw [if_neg (by omega)]
  dsimp only
  rw [if_neg hspread, hdiffs, hlast]
  rfl

theorem mem_rules {p q r : Prop} [Decidable p] [Decidable q] [Decidable r] {a b c : String}
    (hab : a ≠ b) (hac : a ≠ c) (hbc : b ≠ c) :
    (a ∈ (if p then [a] else []) ++ (if q then [b] else []) ++ (if r then [c] else []) ↔ p) ∧
      (b ∈ (if p then [a] else []) ++ (if q then [b] else []) ++ (if r then [c] else []) ↔ q) ∧
      (c ∈ (if p then [a] else []) ++ (if q then [b] else []) ++ (if r then [c] else []) ↔ r) := by
  split_ifs <;> simp_all [eq_comm]

/-- When each rule is reported: the third on seven points, the fourth on all nine. -/
theorem reported (hlen : 9 ≤ data.length) (hstd : 1/10000 ≤ sigma root data) :
    ("규칙2: 연속 7점 한쪽" ∈ checkRunRules root data ↔ OneSided (centre data) (data.rtake 7)) ∧
      ("규칙3: 연속 6점 증가/감소" ∈ checkRunRules root data ↔ OneDirection (data.rtake 7)) ∧
      ("규칙4: 3점 중 2점 2σ 밖" ∈ checkRunRules root data ↔
        2 ≤ outliers root data (data.rtake 9)) := by
  rw [checkRunRules_eq hlen hstd]
  obtain ⟨h2,h3,h4⟩ := mem_rules
    (p := (((data.rtake 7).all fun x => centre data < x) ||
      (data.rtake 7).all fun x => x < centre data) = true)
    (q := (((steps (data.rtake 7)).all fun d => 0 < d) ||
      (steps (data.rtake 7)).all fun d => d < 0) = true)
    (r := 2 ≤ outliers root data (data.rtake 9))
    (a := "규칙2: 연속 7점 한쪽") (b := "규칙3: 연속 6점 증가/감소") (c := "규칙4: 3점 중 2점 2σ 밖")
    (by decide) (by decide) (by decide)
  refine ⟨h2.trans ?_,h3.trans ?_,h4⟩
  · simp [OneSided]
  · unfold OneDirection
    rw [← steps_pos_iff, ← steps_neg_iff]
    simp

theorem OneDirection.shorter (h : OneDirection (data.rtake 7)) : OneDirection (data.rtake 6) := by
  have hsuffix : data.rtake 6 <:+ data.rtake 7 := by
    rw [← Ring.rtake_rtake_of_le (by decide : 6 ≤ 7)]
    exact Ring.rtake_suffix _ _
  exact h.imp (fun hup => hup.sublist hsuffix.sublist) fun hdown => hdown.sublist hsuffix.sublist

theorem TwoOfThree.outliers (h : TwoOfThree root data) :
    2 ≤ ControlChart.outliers root data (data.rtake 9) := by
  obtain ⟨w,hw,_,htwo⟩ := h
  exact htwo.trans (hw.sublist.countP_le)

/-- The rules mean what they say exactly if no run of six points starts against the step before
it, and no two outliers among the last nine points are too far apart. -/
theorem rules_mean_iff (hlen : 9 ≤ data.length) (hstd : 1/10000 ≤ sigma root data) :
    RulesMean root data ↔ (OneDirection (data.rtake 6) → OneDirection (data.rtake 7)) ∧
      (2 ≤ outliers root data (data.rtake 9) → TwoOfThree root data) := by
  obtain ⟨h2,h3,h4⟩ := reported hlen hstd
  constructor
  · rintro ⟨_,hrule3,hrule4⟩
    rw [h3] at hrule3
    rw [h4] at hrule4
    exact ⟨hrule3.mpr,hrule4.mp⟩
  · rintro ⟨hrun,hpair⟩
    exact ⟨h2,h3.trans ⟨OneDirection.shorter,hrun⟩,h4.trans ⟨hpair,TwoOfThree.outliers⟩⟩

end

/-- A measurement that alternates between 1 and -1, whose deviation is the root of 1. -/
def alternating : List ℚ := [1, -1, 1, -1, 1, -1, 1, -1, 1, -1]

theorem rules_mean_alternating : RulesMean id alternating := by
  have hrun : ¬ OneDirection (alternating.rtake 6) := by
    unfold OneDirection
    decide +kernel
  have hpair : ¬ 2 ≤ outliers id alternating (alternating.rtake 9) := by decide +kernel
  exact (rules_mean_iff (by decide) (by decide +kernel)).mpr
    ⟨fun h => absurd h hrun,fun h => absurd h hpair⟩

/-- Two peaks eight points apart, whose deviation is the root of 1. -/
def twoPeaks : List ℚ := [0, 0, 0, 0, 0, 0, 0, 0, 0, 3, 0, 0, 0, 0, 0, 0, 0, -3]

/-- The fourth rule is reported, and no three consecutive points have both peaks. -/
theorem distant_peaks_reported :
    sigma id twoPeaks = 1 ∧ "규칙4: 3점 중 2점 2σ 밖" ∈ checkRunRules id twoPeaks ∧
      ¬ RulesMean id twoPeaks := by
  have hreported : "규칙4: 3점 중 2점 2σ 밖" ∈ checkRunRules id twoPeaks := by decide +kernel
  have hwindows : ∀ i ≤ (twoPeaks.rtake 9).length,
      outliers id twoPeaks (((twoPeaks.rtake 9).drop i).take 3) < 2 := by decide +kernel
  have hnone : ¬ TwoOfThree id twoPeaks := by
    rintro ⟨w,hw,hlen,htwo⟩
    obtain ⟨i,hi,hwindow⟩ := exists_drop_of_infix hw
    rw [hwindow, hlen] at htwo
    exact absurd htwo (not_le.mpr (hwindows i hi))
  exact ⟨by decide +kernel,hreported,fun h => hnone (h.rule4.mp hreported)⟩

end ManufacturingMas.Proofs.ControlChart
