import Mathlib.Tactic.Positivity
import ManufacturingMas.Py.Format

/-! How the arithmetic of floats keeps their order, with infinities and nan. -/

namespace Py

theorem roundHalfEven_lt_one {q : ℚ} (h : q < 1/2) : roundHalfEven q < 1 := by
  have hround := (abs_le.mp (abs_roundHalfEven_sub_le q)).2
  have hlt : (roundHalfEven q : ℚ) < 1 := by linarith
  exact_mod_cast hlt

theorem roundHalfEven_pos {q : ℚ} (h : 1/2 < q) : 0 < roundHalfEven q := by
  have hround := (abs_le.mp (abs_roundHalfEven_sub_le q)).1
  have hlt : (0 : ℚ) < roundHalfEven q := by linarith
  exact_mod_cast hlt

theorem roundTo_mono (digits : Nat) {p q : ℚ} (h : p ≤ q) : roundTo digits p ≤ roundTo digits q := by
  have hscaled : p * 10 ^ digits ≤ q * 10 ^ digits := mul_le_mul_of_nonneg_right h (by positivity)
  have hround : (roundHalfEven (p * 10 ^ digits) : ℚ) ≤ roundHalfEven (q * 10 ^ digits) := by
    exact_mod_cast roundHalfEven_mono hscaled
  unfold roundTo
  exact div_le_div_of_nonneg_right hround (by positivity)

/-- What has been rounded stays where it is. -/
theorem roundTo_roundTo (digits : Nat) (q : ℚ) :
    roundTo digits (roundTo digits q) = roundTo digits q := by
  have hpos : (0 : ℚ) < 10 ^ digits := by positivity
  unfold roundTo
  rw [div_mul_cancel₀ _ hpos.ne', roundHalfEven_intCast]

namespace PyFloat

/-- `not x < y`; a nan is not below anything, and nothing below it. -/
def NotBelow (x y : PyFloat) : Prop := x.lt y = false

/-- `x <= y`, which no nan meets. -/
def Le (x y : PyFloat) : Prop := x.le y = true

variable {x y : PyFloat}

@[simp] theorem notBelow_fin (p q : ℚ) : NotBelow (.fin p) (.fin q) ↔ q ≤ p := by
  simp [NotBelow, lt]

@[simp] theorem le_fin (p q : ℚ) : Le (.fin p) (.fin q) ↔ p ≤ q := by
  simp [Le, le, lt, eq, le_iff_lt_or_eq]

@[simp] theorem notBelow_nan (x : PyFloat) : NotBelow x .nan := by cases x <;> rfl
@[simp] theorem nan_notBelow (y : PyFloat) : NotBelow .nan y := by cases y <;> rfl
@[simp] theorem posInf_notBelow (y : PyFloat) : NotBelow .posInf y := by cases y <;> rfl
@[simp] theorem notBelow_negInf (x : PyFloat) : NotBelow x .negInf := by cases x <;> rfl
@[simp] theorem not_fin_notBelow (q : ℚ) : ¬ NotBelow (.fin q) .posInf := by simp [NotBelow, lt]
@[simp] theorem not_negInf_notBelow (q : ℚ) : ¬ NotBelow .negInf (.fin q) := by
  simp [NotBelow, lt]
@[simp] theorem not_negInf_notBelow_posInf : ¬ NotBelow .negInf .posInf := by simp [NotBelow, lt]

theorem notBelow_self (x : PyFloat) : NotBelow x x := by
  cases x <;> simp

theorem Le.notBelow (h : Le x y) : NotBelow y x := by
  unfold Le le at h
  cases x <;> cases y <;> simp_all [NotBelow, lt, eq]
  rcases h with hlt | heq
  · exact hlt.le
  · exact heq.le

theorem notBelow_ofRat {p q : ℚ} (h : q ≤ p) : NotBelow (ofRat p) (ofRat q) := by
  have hlimit := limit_pos
  unfold ofRat
  split_ifs <;> simp <;> linarith

/-- A number of ordinary size is a float. -/
theorem ofRat_of_small {q : ℚ} (h : |q| ≤ 2 ^ 53) : ofRat q = .fin q :=
  ofRat_of_lt (h.trans_lt two_pow_lt_limit)

theorem NotBelow.add_left (h : NotBelow x y) (b : PyFloat) : NotBelow (b.add x) (b.add y) := by
  cases b with
  | fin b =>
    cases x <;> cases y <;> simp_all [add]
    exact notBelow_ofRat (by linarith)
  | _ => cases x <;> cases y <;> simp_all [add]

theorem add_comm (x y : PyFloat) : x.add y = y.add x := by
  cases x <;> cases y <;> simp [add, Rat.add_comm]

theorem mul_comm (x y : PyFloat) : x.mul y = y.mul x := by
  cases x <;> cases y <;> simp [mul, Rat.mul_comm]

theorem NotBelow.add_right (h : NotBelow x y) (b : PyFloat) : NotBelow (x.add b) (y.add b) := by
  rw [add_comm x b, add_comm y b]
  exact h.add_left b

theorem NotBelow.neg (h : NotBelow x y) : NotBelow y.neg x.neg := by
  cases x <;> cases y <;> simp_all [PyFloat.neg]

theorem NotBelow.sub_right (h : NotBelow x y) (b : PyFloat) : NotBelow (x.sub b) (y.sub b) :=
  h.add_right b.neg

theorem NotBelow.sub_left (h : NotBelow x y) (b : PyFloat) : NotBelow (b.sub y) (b.sub x) :=
  h.neg.add_left b

theorem scaleInf_pos {q : ℚ} (h : 0 < q) : scaleInf true q = .posInf := by
  simp [scaleInf, h, h.ne']

theorem scaleInf_neg {q : ℚ} (h : q < 0) : scaleInf true q = .negInf := by
  simp [scaleInf, h.ne, h.not_gt]

/-- A factor that is not negative keeps the order. -/
theorem NotBelow.mul_left {c : PyFloat} (h : NotBelow x y) (hc : Le (.fin 0) c) :
    NotBelow (c.mul x) (c.mul y) := by
  cases c with
  | fin c =>
    have hc : 0 ≤ c := (le_fin 0 c).mp hc
    have hfin : ∀ p q, q ≤ p → NotBelow (ofRat (c * p)) (ofRat (c * q)) := fun p q hpq =>
      notBelow_ofRat (mul_le_mul_of_nonneg_left hpq hc)
    rcases hc.eq_or_lt with rfl | hpos
    · cases x <;> cases y <;> simp_all [mul, scaleInf, notBelow_self]
    · have hne : c ≠ 0 := hpos.ne'
      cases x <;> cases y <;> simp_all [mul, scaleInf]
  | posInf =>
    cases x with
    | fin p =>
      cases y with
      | fin q =>
        have hle : q ≤ p := (notBelow_fin p q).mp h
        change NotBelow (scaleInf true p) (scaleInf true q)
        rcases lt_trichotomy p 0 with hp | rfl | hp
        · rw [scaleInf_neg (hle.trans_lt hp)]
          exact notBelow_negInf _
        · simp [scaleInf]
        · rw [scaleInf_pos hp]
          exact posInf_notBelow _
      | posInf => exact absurd h (not_fin_notBelow p)
      | negInf => exact notBelow_negInf _
      | nan => exact notBelow_nan _
    | posInf => exact posInf_notBelow _
    | negInf =>
      cases y with
      | fin q => exact absurd h (not_negInf_notBelow q)
      | posInf => exact absurd h not_negInf_notBelow_posInf
      | negInf => exact notBelow_negInf _
      | nan => exact notBelow_nan _
    | nan => exact nan_notBelow _
  | negInf | nan => simp [Le, le, lt, eq] at hc

theorem NotBelow.mul_right {c : PyFloat} (h : NotBelow x y) (hc : Le (.fin 0) c) :
    NotBelow (x.mul c) (y.mul c) := by
  rw [mul_comm x c, mul_comm y c]
  exact h.mul_left hc

theorem NotBelow.round (h : NotBelow x y) (digits : Nat) :
    NotBelow (x.round digits) (y.round digits) := by
  cases x <;> cases y <;> simp_all [PyFloat.round]
  exact notBelow_ofRat (roundTo_mono digits h)

theorem min_fin {a b : ℚ} (h : b ≤ a) : PyFloat.min (.fin a) (.fin b) = .fin b := by
  change (if decide (b < a) = true then PyFloat.fin b else .fin a) = .fin b
  rcases h.lt_or_eq with hlt | rfl
  · rw [if_pos (decide_eq_true hlt)]
  · exact ite_self _

/-- `min` with a number keeps the order, except that it drops a nan. -/
theorem NotBelow.min {a : ℚ} (h : NotBelow x y) (hy : y ≠ .nan) :
    NotBelow (PyFloat.min (.fin a) x) (PyFloat.min (.fin a) y) := by
  have hself := notBelow_self (.fin a)
  unfold PyFloat.min
  by_cases hx : x.lt (.fin a) = true
  · have hylt : y.lt (.fin a) = true := by
      cases x <;> cases y <;> simp_all [lt]
      exact lt_of_le_of_lt h hx
    rw [if_pos hx, if_pos hylt]
    exact h
  · rw [if_neg hx]
    by_cases hylt : y.lt (.fin a) = true
    · rw [if_pos hylt]
      cases y <;> simp_all [lt]
      exact hylt.le
    · rw [if_neg hylt]
      exact hself

theorem ne_nan_of_le (h : Le x y) : x ≠ .nan := by
  rintro rfl
  simp [Le, le, lt, eq] at h

theorem ofRat_ne_nan (q : ℚ) : ofRat q ≠ .nan := by
  unfold ofRat
  split_ifs <;> simp

theorem NotBelow.trans {z : PyFloat} (h : NotBelow x y) (h' : NotBelow y z) (hy : y ≠ .nan) :
    NotBelow x z := by
  cases x <;> cases y <;> cases z <;> simp_all [NotBelow, lt]
  exact h'.trans h

theorem Le.trans {z : PyFloat} (h : Le x y) (h' : Le y z) : Le x z := by
  cases x <;> cases y <;> cases z <;> simp_all [Le, le, lt, eq, ← le_iff_lt_or_eq]
  exact h.trans h'

/-- A multiple of a number, added to a number, is no nan. -/
theorem add_mul_ne_nan (hx : x ≠ .nan) (b : ℚ) {k : ℚ} (hk : 0 < k) :
    (PyFloat.fin b).add (x.mul (.fin k)) ≠ .nan := by
  cases x with
  | fin q =>
    change (PyFloat.fin b).add (ofRat (q * k)) ≠ .nan
    have hq := ofRat_ne_nan (q * k)
    cases hr : ofRat (q * k) <;> simp_all [add, ofRat_ne_nan]
  | posInf | negInf => simp [mul, scaleInf, hk, hk.ne', add]
  | nan => exact absurd rfl hx

end PyFloat
end Py
