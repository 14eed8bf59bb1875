import Mathlib.Algebra.Order.Field.Rat
import ManufacturingMas.Py.Double

/-! Python's exceptions and floats. -/

namespace Py

/-- The exceptions the code tells apart. -/
inductive PyErr where
  | typeError | valueError | overflowError | attributeError
  | other (name : String)
deriving DecidableEq, Repr

/-- A float as an exact number. The sign of zero is not kept. -/
inductive PyFloat where
  | fin (q : ℚ)
  | posInf | negInf | nan
deriving DecidableEq, Repr

namespace PyFloat

/-- From this magnitude on a double is infinite. -/
def limit : ℚ := 2 ^ 1024 - 2 ^ 970

def ofRat (q : ℚ) : PyFloat :=
  if limit ≤ q then .posInf else if q ≤ -limit then .negInf else .fin q

def truthy : PyFloat → Bool
  | .fin q => q ≠ 0
  | _ => true

def Finite : PyFloat → Prop
  | .fin _ => True
  | _ => False

def neg : PyFloat → PyFloat
  | .fin q => .fin (-q)
  | .posInf => .negInf
  | .negInf => .posInf
  | .nan => .nan

def add : PyFloat → PyFloat → PyFloat
  | .fin p, .fin q => ofRat (p + q)
  | .nan, _ | _, .nan | .posInf, .negInf | .negInf, .posInf => .nan
  | .posInf, _ | _, .posInf => .posInf
  | .negInf, _ | _, .negInf => .negInf

def sub (x y : PyFloat) : PyFloat := x.add y.neg

/-- An infinity times a finite number. -/
def scaleInf (positive : Bool) (q : ℚ) : PyFloat :=
  if q = 0 then .nan else if (0 < q) = positive then .posInf else .negInf

def mul : PyFloat → PyFloat → PyFloat
  | .fin p, .fin q => ofRat (p * q)
  | .nan, _ | _, .nan => .nan
  | .posInf, .fin q | .fin q, .posInf => scaleInf true q
  | .negInf, .fin q | .fin q, .negInf => scaleInf false q
  | .posInf, .posInf | .negInf, .negInf => .posInf
  | .posInf, .negInf | .negInf, .posInf => .negInf

/-- `x / y`, for a divisor that is not zero. -/
def div : PyFloat → PyFloat → PyFloat
  | .fin p, .fin q => ofRat (p / q)
  | .fin _, .posInf | .fin _, .negInf => .fin 0
  | .posInf, .fin q => scaleInf true q
  | .negInf, .fin q => scaleInf false q
  | _, _ => .nan

/-- `<`; every comparison with a nan is false. -/
def lt : PyFloat → PyFloat → Bool
  | .fin p, .fin q => p < q
  | .nan, _ | _, .nan => false
  | .negInf, .negInf | .posInf, _ | _, .negInf => false
  | .negInf, _ | _, .posInf => true

/-- `==`. -/
def eq : PyFloat → PyFloat → Bool
  | .nan, _ | _, .nan => false
  | x, y => x = y

/-- `<=`. -/
def le (x y : PyFloat) : Bool := x.lt y || x.eq y

/-- `min(x, y)` keeps its first argument unless the second is smaller. -/
def min (x y : PyFloat) : PyFloat := if y.lt x then y else x

def round (digits : Nat) : PyFloat → PyFloat
  | .fin q => ofRat (roundTo digits q)
  | x => x

/-- `int(x)`. -/
def toInt : PyFloat → Except PyErr ℤ
  | .fin q => .ok (truncate q)
  | .nan => .error .valueError
  | _ => .error .overflowError

/-- The nearest double, which is infinite from the limit on. -/
def nearest (q : ℚ) : PyFloat := ofRat (nearestDouble q)

/-- The result of an operation as a double. -/
def rounded : PyFloat → PyFloat
  | .fin q => nearest q
  | x => x

/-- `x ** 2`, which raises where the square of a finite number is infinite. -/
def square : PyFloat → Except PyErr PyFloat
  | .fin q =>
    match nearest (q * q) with
    | .fin r => .ok (.fin r)
    | _ => .error .overflowError
  | .nan => .ok .nan
  | _ => .ok .posInf

/-- `float(n)`. -/
def ofInt (n : ℤ) : Except PyErr PyFloat :=
  match nearest n with
  | .fin q => .ok (.fin q)
  | _ => .error .overflowError

/-- `m / n` of two integers, for a divisor that is not zero. -/
def ofQuotient (m n : ℤ) : Except PyErr PyFloat :=
  match nearest (m / n) with
  | .fin q => .ok (.fin q)
  | _ => .error .overflowError

/-! ### The limit -/

/-- The limit in terms of half the last bit of the largest doubles. -/
theorem limit_eq : limit = (2 ^ 54 - 1) * 2 ^ 970 := by
  have hsplit : (2 : ℚ) ^ 1024 = 2 ^ 970 * 2 ^ 54 := by rw [← pow_add]
  unfold limit
  rw [hsplit]
  ring

theorem two_pow_lt_limit : (2 ^ 53 : ℚ) < limit := by
  have hone : (1 : ℚ) ≤ 2 ^ 970 := one_le_pow₀ (by norm_num)
  rw [limit_eq]
  generalize (2 : ℚ) ^ 970 = x at hone
  linarith

theorem limit_pos : 0 < limit := lt_trans (by positivity) two_pow_lt_limit

theorem lastBit_of_large {q : ℚ} (hlow : 2 ^ 1023 ≤ q) (hhigh : q < 2 ^ 1024) :
    lastBit q = 971 := by
  have hpos : 0 < q := lt_of_lt_of_le (by positivity) hlow
  have hle : 1023 ≤ Int.log 2 |q| := by
    rw [abs_of_pos hpos]
    exact (Int.zpow_le_iff_le_log (b := 2) (by norm_num) hpos).mp (by exact_mod_cast hlow)
  have hlt : Int.log 2 |q| < 1024 := by
    rw [abs_of_pos hpos]
    exact (Int.lt_zpow_iff_log_lt (b := 2) (by norm_num) hpos).mp (by exact_mod_cast hhigh)
  unfold lastBit
  omega

/-- Among the largest numbers the tie at the limit is rounded up. -/
theorem nearestDouble_lt_of_large {q : ℚ} (hlow : 2 ^ 1023 ≤ q) (hhigh : q < 2 ^ 1024) :
    nearestDouble q < limit ↔ q < limit := by
  have hbit : (2 : ℚ) ^ (971 : ℤ) = 2 * 2 ^ 970 := (pow_succ' (2 : ℚ) 970)
  have hround := roundHalfEven_lt_iff (q := q / 2 ^ (971 : ℤ)) (n := 2 ^ 53) (by norm_num)
  have hpos : (0 : ℚ) < 2 ^ 970 := by positivity
  unfold nearestDouble
  rw [lastBit_of_large hlow hhigh, limit_eq]
  rw [hbit] at hround ⊢
  rw [div_lt_iff₀ (by positivity)] at hround
  generalize (2 : ℚ) ^ 970 = x at hpos hround ⊢
  generalize roundHalfEven (q / (2 * x)) = r at hround ⊢
  push_cast at hround
  constructor
  · intro h
    have hlt : (r : ℚ) < 2 ^ 53 := by
      by_contra hge
      have hscaled := mul_le_mul_of_nonneg_right (not_lt.mp hge) hpos.le
      linarith
    have hq := hround.mp (by exact_mod_cast hlt)
    linarith
  · intro h
    have hr : r < 2 ^ 53 := hround.mpr (by linarith)
    have hle : (r : ℚ) ≤ 2 ^ 53 - 1 := by exact_mod_cast Int.le_sub_one_of_lt hr
    calc (r : ℚ) * (2 * x) = 2 * (r * x) := by ring
      _ ≤ 2 * ((2 ^ 53 - 1) * x) := by gcongr
      _ = (2 ^ 54 - 1) * x - x := by ring
      _ < (2 ^ 54 - 1) * x := sub_lt_self _ hpos

theorem nearestDouble_lt_limit_iff {q : ℚ} : nearestDouble q < limit ↔ q < limit := by
  have hpos : (0 : ℚ) < 2 ^ 970 := by positivity
  have hdown : (2 : ℚ) ^ 1023 < limit := by
    have hsplit : (2 : ℚ) ^ 1023 = 2 ^ 53 * 2 ^ 970 := by rw [← pow_add]
    rw [limit_eq, hsplit]
    generalize (2 : ℚ) ^ 970 = x at hpos
    linarith
  have hup : limit < (2 : ℚ) ^ 1024 := by
    exact sub_lt_self _ hpos
  rcases lt_or_ge q (2 ^ 1023) with hsmall | hlow
  · have hround : nearestDouble q ≤ 2 ^ 1023 :=
      nearestDouble_le (by exact_mod_cast isDouble_two_zpow (e := 1023) (by norm_num)) hsmall.le
    exact ⟨fun _ => hsmall.trans hdown,fun _ => hround.trans_lt hdown⟩
  · rcases lt_or_ge q (2 ^ 1024) with hhigh | hlarge
    · exact nearestDouble_lt_of_large hlow hhigh
    · have hround : 2 ^ 1024 ≤ nearestDouble q :=
        le_nearestDouble (by exact_mod_cast isDouble_two_zpow (e := 1024) (by norm_num)) hlarge
      exact ⟨fun h => absurd (hup.trans_le hround) h.not_gt,
        fun h => absurd (hup.trans_le hlarge) h.not_gt⟩

/-- Rounding takes no number across the limit. -/
theorem abs_nearestDouble_lt_iff {q : ℚ} : |nearestDouble q| < limit ↔ |q| < limit := by
  have hneg := nearestDouble_lt_limit_iff (q := -q)
  rw [nearestDouble_neg] at hneg
  rw [abs_lt, abs_lt, neg_lt, hneg, nearestDouble_lt_limit_iff, neg_lt]

/-- A finite float that a number is rounded to is a double. -/
theorem double_of_nearest {q r : ℚ} (h : nearest r = .fin q) : IsDouble q ∧ |q| < limit := by
  unfold nearest ofRat at h
  split at h
  · cases h
  · rename_i hhigh
    split at h
    · cases h
    · rename_i hlow
      cases h
      exact ⟨isDouble_nearest r,abs_lt.mpr ⟨not_le.mp hlow,not_le.mp hhigh⟩⟩

theorem ofRat_of_lt {q : ℚ} (h : |q| < limit) : ofRat q = .fin q := by
  obtain ⟨hlow,hhigh⟩ := abs_lt.mp h
  simp [ofRat, not_le.mpr hhigh, not_le.mpr hlow]

theorem nearest_of_limit_le {q : ℚ} (h : limit ≤ q) : nearest q = .posInf :=
  if_pos (not_lt.mp (mt nearestDouble_lt_limit_iff.mp h.not_gt))

/-- Whether a result is infinite does not depend on its rounding. -/
@[simp] theorem rounded_ofRat (q : ℚ) : (ofRat q).rounded = nearest q := by
  have hneg := nearestDouble_lt_limit_iff (q := -q)
  rw [nearestDouble_neg, neg_lt (a := nearestDouble q), neg_lt (a := q)] at hneg
  unfold ofRat
  by_cases hhigh : limit ≤ q
  · rw [if_pos hhigh, nearest_of_limit_le hhigh]
    rfl
  · rw [if_neg hhigh]
    split
    · rename_i hlow
      have hsmall : ¬ limit ≤ nearestDouble q :=
        not_le.mpr (nearestDouble_lt_limit_iff.mpr (not_le.mp hhigh))
      have hround : nearestDouble q ≤ -limit := not_lt.mp (mt hneg.mp hlow.not_gt)
      unfold nearest ofRat
      rw [if_neg hsmall, if_pos hround]
      rfl
    · rfl

theorem nearest_of_lt {q : ℚ} (h : |q| < limit) : nearest q = .fin (nearestDouble q) :=
  ofRat_of_lt (abs_nearestDouble_lt_iff.mpr h)

theorem nearest_fin_iff {q : ℚ} : (∃ r, nearest q = .fin r) ↔ |q| < limit := by
  constructor
  · rintro ⟨r,h⟩
    have hround := (double_of_nearest h).2
    unfold nearest ofRat at h
    split_ifs at h
    cases h
    exact abs_nearestDouble_lt_iff.mp hround
  · exact fun h => ⟨_,nearest_of_lt h⟩

theorem zero_lt_nearest_iff {q : ℚ} : (fin 0).lt (nearest q) = true ↔ 0 < nearestDouble q := by
  have hlimit := limit_pos
  unfold nearest ofRat
  split
  · rename_i hhigh
    exact iff_of_true rfl (hlimit.trans_le hhigh)
  · split
    · rename_i hlow
      refine iff_of_false Bool.false_ne_true ?_
      linarith
    · exact decide_eq_true_iff

/-! ### Integers -/

/-- An integer within the range of the doubles is rounded to one. -/
theorem ofInt_of_lt {n : ℤ} (h : |(n : ℚ)| < limit) : ofInt n = .ok (.fin (nearestDouble n)) := by
  unfold ofInt
  rw [nearest_of_lt h]

theorem ofInt_of_not_lt {n : ℤ} (h : ¬ |(n : ℚ)| < limit) : ofInt n = .error .overflowError := by
  rw [← abs_nearestDouble_lt_iff, abs_lt, not_and_or, not_lt, not_lt] at h
  unfold ofInt nearest ofRat
  by_cases hhigh : limit ≤ nearestDouble n
  · rw [if_pos hhigh]
  · rw [if_neg hhigh, if_pos (h.resolve_right hhigh)]

theorem lt_limit_of_small {n : ℤ} (h : |n| ≤ 2 ^ 53) : |(n : ℚ)| < limit := by
  have hcast : |(n : ℚ)| ≤ 2 ^ 53 := by exact_mod_cast h
  exact hcast.trans_lt two_pow_lt_limit

/-- An integer that a double holds exactly. -/
theorem ofInt_of_small {n : ℤ} (h : |n| ≤ 2 ^ 53) : ofInt n = .ok (.fin n) := by
  rw [ofInt_of_lt (lt_limit_of_small h), (isDouble_int h).nearest]

end PyFloat

end Py
