import Mathlib.Data.Int.Log
import ManufacturingMas.Py.Number

/-! The doubles among the exact numbers. -/

namespace Py

/-- The exponent of the last bit of the doubles around a number. -/
def lastBit (q : ℚ) : ℤ := max (Int.log 2 |q| - 52) (-1074)

/-- The nearest double, a tie to the even one; how large a double can be is left open. -/
def nearestDouble (q : ℚ) : ℚ := roundHalfEven (q / 2 ^ lastBit q) * 2 ^ lastBit q

/-- A number of 53 bits, of which the last is not too small. -/
def IsDouble (q : ℚ) : Prop := ∃ m e : ℤ, |m| ≤ 2 ^ 53 ∧ -1074 ≤ e ∧ q = m * 2 ^ e

section
variable {p q : ℚ}

theorem two_zpow_pos (e : ℤ) : (0 : ℚ) < 2 ^ e := zpow_pos (by norm_num) e

/-- A power of two is a whole number of any smaller one. -/
theorem two_zpow_split {d e : ℤ} (h : d ≤ e) :
    (2 : ℚ) ^ e = ((2 ^ (e - d).toNat : ℤ) : ℚ) * 2 ^ d := by
  push_cast
  rw [← zpow_natCast, ← zpow_add₀ (by norm_num)]
  congr 1
  omega

theorem lastBit_neg (q : ℚ) : lastBit (-q) = lastBit q := by
  unfold lastBit
  rw [abs_neg]

theorem nearestDouble_neg (q : ℚ) : nearestDouble (-q) = -nearestDouble q := by
  unfold nearestDouble
  rw [lastBit_neg, neg_div, roundHalfEven_neg]
  push_cast
  ring

theorem le_lastBit (q : ℚ) : -1074 ≤ lastBit q := le_max_right _ _

/-- No more than 53 bits stand before the end of the last one. -/
theorem abs_lt_of_lastBit (q : ℚ) : |q| < 2 ^ (lastBit q + 53) := by
  have hlog : |q| < 2 ^ (Int.log 2 |q| + 1) := by
    exact_mod_cast Int.lt_zpow_succ_log_self (b := 2) (by norm_num) |q|
  refine hlog.trans_le (zpow_le_zpow_right₀ (by norm_num) ?_)
  unfold lastBit
  omega

theorem lastBit_le {e : ℤ} (he : -1074 ≤ e) (h : |q| < 2 ^ (e + 53)) : lastBit q ≤ e ∨ q = 0 := by
  by_cases hzero : q = 0
  · exact .inr hzero
  · have hlog : Int.log 2 |q| < e + 53 :=
      (Int.lt_zpow_iff_log_lt (b := 2) (by norm_num) (abs_pos.mpr hzero)).mp (by exact_mod_cast h)
    unfold lastBit
    omega

/-- A whole number of last bits is left as it is. -/
theorem nearestDouble_of_whole {n : ℤ} (h : q = n * 2 ^ lastBit q) : nearestDouble q = q := by
  have hdiv : q / 2 ^ lastBit q = n := by
    rw [div_eq_iff (two_zpow_pos _).ne']
    exact h
  unfold nearestDouble
  rw [hdiv, roundHalfEven_intCast]
  exact h.symm

@[simp] theorem nearestDouble_zero : nearestDouble 0 = 0 :=
  nearestDouble_of_whole (n := 0) (by simp)

theorem nearestDouble_of_lt {m e : ℤ} (hm : |m| < 2 ^ 53) (he : -1074 ≤ e) :
    nearestDouble (m * 2 ^ e) = m * 2 ^ e := by
  have hsize : |(m * 2 ^ e : ℚ)| < 2 ^ (e + 53) := by
    have hcast : |(m : ℚ)| < 2 ^ 53 := by exact_mod_cast hm
    have hsplit : (2 : ℚ) ^ (e + 53) = 2 ^ 53 * 2 ^ e := by
      rw [zpow_add₀ (by norm_num), mul_comm]
      rfl
    rw [abs_mul, abs_of_pos (two_zpow_pos e), hsplit]
    exact mul_lt_mul_of_pos_right hcast (two_zpow_pos e)
  rcases lastBit_le he hsize with hle | hzero
  · have hpow := two_zpow_split hle
    refine nearestDouble_of_whole (n := m * 2 ^ (e - lastBit (m * 2 ^ e)).toNat) ?_
    push_cast at hpow ⊢
    rw [mul_assoc, ← hpow]
  · rw [hzero, nearestDouble_zero]

theorem IsDouble.nearest (h : IsDouble q) : nearestDouble q = q := by
  obtain ⟨m,e,hm,he,rfl⟩ := h
  rcases hm.lt_or_eq with hlt | heq
  · exact nearestDouble_of_lt hlt he
  · -- the one number of 54 bits is a shorter one of the next exponent
    obtain ⟨k,hk,hshort⟩ : ∃ k : ℤ, m = 2 * k ∧ |k| < 2 ^ 53 := by
      rcases (abs_eq (by norm_num)).mp heq with rfl | rfl
      · exact ⟨2 ^ 52,by norm_num,by norm_num⟩
      · exact ⟨-2 ^ 52,by norm_num,by norm_num⟩
    have hnext : (m * 2 ^ e : ℚ) = k * 2 ^ (e + 1) := by
      rw [hk, zpow_add_one₀ (by norm_num)]
      push_cast
      ring
    rw [hnext]
    exact nearestDouble_of_lt hshort (by omega)

theorem isDouble_nearest (q : ℚ) : IsDouble (nearestDouble q) := by
  refine ⟨roundHalfEven (q / 2 ^ lastBit q),lastBit q,?_,le_lastBit q,rfl⟩
  have hpos := two_zpow_pos (lastBit q)
  have hsize : |q / 2 ^ lastBit q| ≤ ((2 ^ 53 : ℤ) : ℚ) := by
    have hlt := abs_lt_of_lastBit q
    rw [zpow_add₀ (by norm_num)] at hlt
    rw [abs_div, abs_of_pos hpos, div_le_iff₀ hpos]
    push_cast
    rw [mul_comm]
    exact hlt.le
  obtain ⟨hlow,hhigh⟩ := abs_le.mp hsize
  rw [abs_le]
  exact ⟨le_roundHalfEven (by push_cast at hlow ⊢; exact hlow),roundHalfEven_le hhigh⟩

@[simp] theorem nearestDouble_nearestDouble (q : ℚ) :
    nearestDouble (nearestDouble q) = nearestDouble q := (isDouble_nearest q).nearest

/-- An integer of 53 bits is a double. -/
theorem isDouble_int {n : ℤ} (h : |n| ≤ 2 ^ 53) : IsDouble n :=
  ⟨n,0,h,by norm_num,by simp⟩

theorem isDouble_two_zpow {e : ℤ} (h : -1074 ≤ e) : IsDouble (2 ^ e) :=
  ⟨1,e,by norm_num,h,by simp⟩

theorem nearestDouble_nonneg (h : 0 ≤ q) : 0 ≤ nearestDouble q := by
  have hdiv : ((0 : ℤ) : ℚ) ≤ q / 2 ^ lastBit q := by
    rw [Int.cast_zero]
    exact div_nonneg h (two_zpow_pos _).le
  have hround : (0 : ℚ) ≤ roundHalfEven (q / 2 ^ lastBit q) := by
    exact_mod_cast le_roundHalfEven hdiv
  exact mul_nonneg hround (two_zpow_pos _).le

theorem nearestDouble_nonpos (h : q ≤ 0) : nearestDouble q ≤ 0 := by
  have hneg := nearestDouble_nonneg (neg_nonneg.mpr h)
  rw [nearestDouble_neg] at hneg
  linarith

/-- The last bit of a positive number is not after that of a larger one. -/
theorem lastBit_mono (hp : 0 < p) (h : p ≤ q) : lastBit p ≤ lastBit q := by
  have hlog : Int.log 2 |p| ≤ Int.log 2 |q| := by
    rw [abs_of_pos hp, abs_of_pos (hp.trans_le h)]
    exact Int.log_mono_right hp h
  unfold lastBit
  omega

theorem nearestDouble_mono_of_pos (hp : 0 < p) (h : p ≤ q) : nearestDouble p ≤ nearestDouble q := by
  rcases (lastBit_mono hp h).lt_or_eq with hlt | heq
  · -- a power of two lies between the two numbers, and neither is rounded beyond it
    have hbit : lastBit p ≤ lastBit q + 52 := by omega
    have hbelow : p ≤ 2 ^ (lastBit q + 52) := by
      have hsize := abs_lt_of_lastBit p
      rw [abs_of_pos hp] at hsize
      exact hsize.le.trans (zpow_le_zpow_right₀ (by norm_num) (by omega))
    have habove : (2 : ℚ) ^ (lastBit q + 52) ≤ q := by
      have hlog : lastBit q + 52 ≤ Int.log 2 |q| := by
        have hlow := le_lastBit p
        unfold lastBit at hlt hlow ⊢
        omega
      have hself := Int.zpow_log_le_self (b := 2) (by norm_num) (hp.trans_le h)
      rw [abs_of_pos (hp.trans_le h)] at hlog
      exact (zpow_le_zpow_right₀ (by norm_num) hlog).trans (by exact_mod_cast hself)
    have hleft : nearestDouble p ≤ 2 ^ (lastBit q + 52) := by
      have hsplit := two_zpow_split hbit
      have hround : roundHalfEven (p / 2 ^ lastBit p) ≤ 2 ^ (lastBit q + 52 - lastBit p).toNat := by
        apply roundHalfEven_le
        rw [div_le_iff₀ (two_zpow_pos _), ← hsplit]
        exact hbelow
      rw [hsplit]
      exact mul_le_mul_of_nonneg_right (by exact_mod_cast hround) (two_zpow_pos _).le
    have hright : (2 : ℚ) ^ (lastBit q + 52) ≤ nearestDouble q := by
      have hsplit := two_zpow_split (show lastBit q ≤ lastBit q + 52 by omega)
      have hround : 2 ^ (lastBit q + 52 - lastBit q).toNat ≤ roundHalfEven (q / 2 ^ lastBit q) := by
        apply le_roundHalfEven
        rw [le_div_iff₀ (two_zpow_pos _), ← hsplit]
        exact habove
      rw [hsplit]
      exact mul_le_mul_of_nonneg_right (by exact_mod_cast hround) (two_zpow_pos _).le
    exact hleft.trans hright
  · unfold nearestDouble
    rw [heq]
    have hround := roundHalfEven_mono (div_le_div_of_nonneg_right h (two_zpow_pos (lastBit q)).le)
    exact mul_le_mul_of_nonneg_right (by exact_mod_cast hround) (two_zpow_pos _).le

theorem nearestDouble_mono (h : p ≤ q) : nearestDouble p ≤ nearestDouble q := by
  rcases lt_or_ge 0 p with hp | hp
  · exact nearestDouble_mono_of_pos hp h
  · rcases lt_or_ge q 0 with hq | hq
    · have hneg := nearestDouble_mono_of_pos (neg_pos.mpr hq) (neg_le_neg h)
      rw [nearestDouble_neg, nearestDouble_neg] at hneg
      exact neg_le_neg_iff.mp hneg
    · exact (nearestDouble_nonpos hp).trans (nearestDouble_nonneg hq)

/-- No double lies between a number and the nearest one. -/
theorem nearestDouble_le (hq : IsDouble q) (h : p ≤ q) : nearestDouble p ≤ q :=
  (nearestDouble_mono h).trans_eq hq.nearest

theorem le_nearestDouble (hp : IsDouble p) (h : p ≤ q) : p ≤ nearestDouble q :=
  hp.nearest.symm.trans_le (nearestDouble_mono h)

/-- `int(float(n))`, for an integer that is no float too large. -/
def nearestInt (n : ℤ) : ℤ := truncate (nearestDouble n)

theorem nearestInt_of_isDouble {n : ℤ} (h : IsDouble n) : nearestInt n = n := by
  unfold nearestInt
  rw [h.nearest, truncate_intCast]

theorem nearestInt_of_small {n : ℤ} (h : |n| ≤ 2 ^ 53) : nearestInt n = n :=
  nearestInt_of_isDouble (isDouble_int h)

/-- What is left of a double without its fraction is a double. -/
theorem isDouble_truncate {q : ℚ} (h : IsDouble q) : IsDouble (truncate q) := by
  obtain ⟨m,e,hm,he,rfl⟩ := h
  rcases le_or_gt 0 e with hwhole | hbits
  · have hint : (m * 2 ^ e : ℚ) = ((m * 2 ^ e.toNat : ℤ) : ℚ) := by
      have hpow := two_zpow_split hwhole
      push_cast at hpow ⊢
      rw [hpow]
      simp
    rw [hint, truncate_intCast, ← hint]
    exact ⟨m,e,hm,he,rfl⟩
  · refine isDouble_int ?_
    have hone : (2 : ℚ) ^ e ≤ 1 := zpow_le_one_of_nonpos₀ (by norm_num) hbits.le
    have hsize : |(m * 2 ^ e : ℚ)| ≤ 2 ^ 53 := by
      have hcast : |(m : ℚ)| ≤ 2 ^ 53 := by exact_mod_cast hm
      rw [abs_mul, abs_of_pos (two_zpow_pos e)]
      calc |(m : ℚ)| * 2 ^ e ≤ |(m : ℚ)| * 1 := mul_le_mul_of_nonneg_left hone (abs_nonneg _)
        _ ≤ 2 ^ 53 := by rw [mul_one]; exact hcast
    exact_mod_cast (abs_truncate_le _).trans hsize

/-- An integer is moved only where it has more than 53 bits, and stays that large. -/
theorem nearestDouble_int_cases (n : ℤ) : nearestDouble n = n ∨
    ((2 ^ 53 : ℚ) ≤ n ∧ 2 ^ 53 ≤ nearestDouble n) ∨ (n : ℚ) ≤ -2 ^ 53 ∧ nearestDouble n ≤ -2 ^ 53 := by
  have hpos : IsDouble (2 ^ 53) := ⟨2 ^ 53,0,by norm_num,by norm_num,by norm_num⟩
  have hneg : IsDouble (-2 ^ 53) := ⟨-2 ^ 53,0,by norm_num,by norm_num,by norm_num⟩
  rcases le_or_gt |n| (2 ^ 53) with hsmall | hlarge
  · exact .inl (isDouble_int hsmall).nearest
  · right
    rcases lt_abs.mp hlarge with h | h
    · have hn : (2 ^ 53 : ℚ) ≤ n := by exact_mod_cast h.le
      exact .inl ⟨hn,le_nearestDouble hpos hn⟩
    · have hn : (n : ℚ) ≤ -2 ^ 53 := by exact_mod_cast (lt_neg.mp h).le
      exact .inr ⟨hn,nearestDouble_le hneg hn⟩

end

example : nearestDouble (2 ^ 53 + 1) = 2 ^ 53 := by decide +kernel

end Py
