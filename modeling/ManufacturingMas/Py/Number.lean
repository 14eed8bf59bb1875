import Mathlib.Data.Rat.Floor
import Mathlib.Tactic.NormNum
import Mathlib.Tactic.Linarith

/-! Python's numbers in exact arithmetic: `round` and the outcomes of the
`random` module. -/

namespace Py

/-- `round(q)`: to the nearest integer, a tie to the even one. -/
def roundHalfEven (q : ℚ) : ℤ :=
  let f := ⌊q⌋
  if q - f < 1/2 then f
  else if 1/2 < q - f then f + 1
  else if f % 2 = 0 then f else f + 1

/-- `round(q, digits)`. -/
def roundTo (digits : Nat) (q : ℚ) : ℚ :=
  roundHalfEven (q * 10 ^ digits) / 10 ^ digits

/-- `int(q)` truncates toward zero. -/
def truncate (q : ℚ) : ℤ := if 0 ≤ q then ⌊q⌋ else ⌈q⌉

theorem truncate_intCast (n : ℤ) : truncate (n : ℚ) = n := by
  unfold truncate
  split <;> simp

theorem abs_truncate_le (q : ℚ) : |(truncate q : ℚ)| ≤ |q| := by
  unfold truncate
  split
  · rename_i h
    have hfloor : (0 : ℚ) ≤ ⌊q⌋ := by exact_mod_cast Int.floor_nonneg.mpr h
    rw [abs_of_nonneg hfloor, abs_of_nonneg h]
    exact Int.floor_le q
  · rename_i h
    have hneg := not_le.mp h
    have hceil : ((⌈q⌉ : ℤ) : ℚ) ≤ 0 := by exact_mod_cast Int.ceil_le.mpr (by simpa using hneg.le)
    rw [abs_of_nonpos hceil, abs_of_neg hneg]
    exact neg_le_neg (Int.le_ceil q)

theorem abs_roundHalfEven_sub_le (q : ℚ) : |(roundHalfEven q : ℚ) - q| ≤ 1/2 := by
  have hlow := Int.floor_le q
  have hhigh := Int.lt_floor_add_one q
  unfold roundHalfEven
  dsimp only
  rw [abs_le]
  split_ifs with hbelow habove heven
  · constructor <;> linarith
  · push_cast
    constructor <;> linarith
  · constructor <;> linarith
  · push_cast
    constructor <;> linarith

theorem roundHalfEven_le {q : ℚ} {n : ℤ} (h : q ≤ n) : roundHalfEven q ≤ n := by
  have hround := (abs_le.mp (abs_roundHalfEven_sub_le q)).2
  have hlt : (roundHalfEven q : ℚ) < n + 1 := by linarith
  exact Int.lt_add_one_iff.mp (by exact_mod_cast hlt)

theorem le_roundHalfEven {q : ℚ} {n : ℤ} (h : (n : ℚ) ≤ q) : n ≤ roundHalfEven q := by
  have hround := (abs_le.mp (abs_roundHalfEven_sub_le q)).1
  have hlt : (n : ℚ) < roundHalfEven q + 1 := by linarith
  exact Int.lt_add_one_iff.mp (by exact_mod_cast hlt)

@[simp] theorem roundHalfEven_intCast (n : ℤ) : roundHalfEven (n : ℚ) = n :=
  le_antisymm (roundHalfEven_le (le_refl _)) (le_roundHalfEven (le_refl _))

theorem roundHalfEven_mono {p q : ℚ} (h : p ≤ q) : roundHalfEven p ≤ roundHalfEven q := by
  have hfloor : ⌊p⌋ ≤ ⌊q⌋ := Int.floor_mono h
  have hp := Int.floor_le p
  have hq := Int.lt_floor_add_one q
  rcases hfloor.lt_or_eq with hlt | heq
  · have hle : roundHalfEven p ≤ ⌊p⌋ + 1 := by
      apply roundHalfEven_le
      push_cast
      exact (Int.lt_floor_add_one p).le
    have hge : ⌊q⌋ ≤ roundHalfEven q := le_roundHalfEven (Int.floor_le q)
    omega
  · unfold roundHalfEven
    dsimp only
    rw [heq] at hp ⊢
    split_ifs <;> first | omega | (exfalso; linarith)

/-- Rounding is symmetric: a tie has an even number on one side only. -/
theorem roundHalfEven_neg (q : ℚ) : roundHalfEven (-q) = -roundHalfEven q := by
  by_cases hint : (⌊q⌋ : ℚ) = q
  · rw [← hint, ← Int.cast_neg, roundHalfEven_intCast, roundHalfEven_intCast]
  · have hlow : (⌊q⌋ : ℚ) < q := lt_of_le_of_ne (Int.floor_le q) hint
    have hhigh := Int.lt_floor_add_one q
    have hfloor : ⌊-q⌋ = -⌊q⌋ - 1 := by
      rw [Int.floor_eq_iff]
      push_cast
      constructor <;> linarith
    unfold roundHalfEven
    dsimp only
    rw [hfloor]
    push_cast
    split_ifs <;> first | omega | (exfalso; linarith)

/-- A tie goes down to an even number. -/
theorem lt_roundHalfEven_iff {q : ℚ} {n : ℤ} (heven : n % 2 = 0) :
    n < roundHalfEven q ↔ (n : ℚ) + 1/2 < q := by
  have hlow := Int.floor_le q
  have hhigh := Int.lt_floor_add_one q
  have hcast : ∀ m : ℤ, n < m ↔ (n : ℚ) + 1 ≤ m := fun m => by exact_mod_cast Int.lt_iff_add_one_le
  have hfloored : (n : ℚ) + 1/2 < q → (n : ℚ) ≤ ⌊q⌋ := by
    intro h
    have hlt : (n : ℚ) < ⌊q⌋ + 1 := by linarith
    exact_mod_cast Int.lt_add_one_iff.mp (by exact_mod_cast hlt)
  unfold roundHalfEven
  dsimp only
  rw [hcast]
  split_ifs with hbelow habove hfloor
  · constructor
    · intro h
      linarith
    · intro h
      have hlt : (n : ℚ) < ⌊q⌋ := by linarith
      exact (hcast _).mp (by exact_mod_cast hlt)
  · push_cast
    constructor
    · intro h
      linarith
    · intro h
      have hle := hfloored h
      linarith
  · constructor
    · intro h
      linarith
    · intro h
      have hlt : (n : ℚ) < ⌊q⌋ := by linarith
      exact (hcast _).mp (by exact_mod_cast hlt)
  · push_cast
    constructor
    · intro h
      -- the tie is at an odd floor, which is not the even number below it
      have hne : n ≠ ⌊q⌋ := fun heq => hfloor (heq ▸ heven)
      have hle : n ≤ ⌊q⌋ := by exact_mod_cast (by linarith : (n : ℚ) ≤ ⌊q⌋)
      have hlt : (n : ℚ) + 1 ≤ ⌊q⌋ := (hcast _).mp (lt_of_le_of_ne hle hne)
      linarith
    · intro h
      have hle := hfloored h
      linarith

/-- A tie goes up to an even number. -/
theorem roundHalfEven_lt_iff {q : ℚ} {n : ℤ} (heven : n % 2 = 0) :
    roundHalfEven q < n ↔ q < n - 1/2 := by
  have hflip := lt_roundHalfEven_iff (q := -q) (n := -n) (by omega)
  rw [roundHalfEven_neg, neg_lt_neg_iff] at hflip
  rw [hflip]
  push_cast
  constructor <;> intro h <;> linarith

theorem abs_roundTo_sub_le (digits : Nat) (q : ℚ) :
    |roundTo digits q - q| ≤ 1 / 2 / 10 ^ digits := by
  have hpos : (0 : ℚ) < 10 ^ digits := by positivity
  have hround := abs_roundHalfEven_sub_le (q * 10 ^ digits)
  have hscaled : roundTo digits q - q =
      (roundHalfEven (q * 10 ^ digits) - q * 10 ^ digits) / 10 ^ digits := by
    unfold roundTo
    field_simp
  rw [hscaled, abs_div, abs_of_pos hpos]
  exact div_le_div_of_nonneg_right hround hpos.le

/-- An error of half a place moves a rounded number by one place at most. -/
theorem abs_roundTo_sub_roundTo_le {p q : ℚ} {digits : Nat} (h : |p - q| ≤ 1 / 2 / 10 ^ digits) :
    |roundTo digits p - roundTo digits q| ≤ 1 / 10 ^ digits := by
  have hpos : (0 : ℚ) < 10 ^ digits := by positivity
  have hscaled : |p * 10 ^ digits - q * 10 ^ digits| ≤ 1/2 := by
    rw [← sub_mul, abs_mul, abs_of_pos hpos]
    exact (le_div_iff₀ hpos).mp h
  have hp := abs_le.mp (abs_roundHalfEven_sub_le (p * 10 ^ digits))
  have hq := abs_le.mp (abs_roundHalfEven_sub_le (q * 10 ^ digits))
  have hnear := abs_le.mp hscaled
  -- whole numbers less than two apart
  have hlow : (roundHalfEven (q * 10 ^ digits) : ℚ) < roundHalfEven (p * 10 ^ digits) + 2 := by
    linarith
  have hhigh : (roundHalfEven (p * 10 ^ digits) : ℚ) < roundHalfEven (q * 10 ^ digits) + 2 := by
    linarith
  have hwhole : |roundHalfEven (p * 10 ^ digits) - roundHalfEven (q * 10 ^ digits)| ≤ 1 := by
    have hlow' : roundHalfEven (q * 10 ^ digits) < roundHalfEven (p * 10 ^ digits) + 2 := by
      exact_mod_cast hlow
    have hhigh' : roundHalfEven (p * 10 ^ digits) < roundHalfEven (q * 10 ^ digits) + 2 := by
      exact_mod_cast hhigh
    rw [abs_le]
    omega
  unfold roundTo
  rw [← sub_div, abs_div, abs_of_pos hpos]
  exact div_le_div_of_nonneg_right (by exact_mod_cast hwhole) hpos.le

theorem roundTo_nonneg {q : ℚ} (digits : Nat) (h : 0 ≤ q) : 0 ≤ roundTo digits q := by
  have hround : 0 ≤ roundHalfEven (q * 10 ^ digits) :=
    le_roundHalfEven (by rw [Int.cast_zero]; positivity)
  unfold roundTo
  have hcast : (0 : ℚ) ≤ roundHalfEven (q * 10 ^ digits) := by exact_mod_cast hround
  positivity

theorem roundTo_le_one {q : ℚ} (digits : Nat) (h : q ≤ 1) : roundTo digits q ≤ 1 := by
  have hpos : (0 : ℚ) < 10 ^ digits := by positivity
  have hround : roundHalfEven (q * 10 ^ digits) ≤ 10 ^ digits := by
    apply roundHalfEven_le
    push_cast
    exact mul_le_of_le_one_left hpos.le h
  unfold roundTo
  rw [div_le_one hpos]
  exact_mod_cast hround

/-- An outcome of `random.random()`. -/
structure Unit01 where
  val : ℚ
  nonneg : 0 ≤ val
  lt_one : val < 1

/-- An outcome of `random.randint(lo, hi)`. -/
structure RandInt (lo hi : ℤ) where
  val : ℤ
  lo_le : lo ≤ val
  le_hi : val ≤ hi

/-- An outcome of `random.uniform(lo, hi)`. -/
structure Uniform (lo hi : ℚ) where
  val : ℚ
  lo_le : lo ≤ val
  le_hi : val ≤ hi

end Py
