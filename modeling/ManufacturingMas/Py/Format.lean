import ManufacturingMas.Py.Value

/-! How numbers are written in texts, and the comparisons of values with constants. -/

namespace Py

/-- `f"{q:.<digits>f}"` of an exact number. -/
def fixedText (digits : Nat) (q : ℚ) : String :=
  let scaled := (roundHalfEven (|q| * 10 ^ digits)).toNat
  let sign := if q < 0 then "-" else ""
  let whole := scaled / 10 ^ digits
  let fraction := Nat.repr (scaled % 10 ^ digits)
  let zeros := String.ofList (List.replicate (digits - fraction.length) '0')
  if digits = 0 then s!"{sign}{whole}" else s!"{sign}{whole}.{zeros}{fraction}"

/-- `f"{n:0<width>d}"` of a number that is not negative. -/
def zeroPadded (width n : Nat) : String :=
  String.ofList (List.replicate (width - (Nat.repr n).length) '0') ++ Nat.repr n

/-- `f"{q:.<digits>%}"`. -/
def percentText (digits : Nat) (q : ℚ) : String := fixedText digits (100 * q) ++ "%"

def PyFloat.fixedText (digits : Nat) : PyFloat → String
  | .fin q => Py.fixedText digits q
  | .posInf => "inf"
  | .negInf => "-inf"
  | .nan => "nan"

namespace Val

/-- `f"{v:.<digits>f}"`; no other value than a number has this format. -/
def formatFixed (digits : Nat) : Val → Except PyErr String
  | .str _ => .error .valueError
  | v => v.number.map (PyFloat.fixedText digits)

/-- `v >= q`. -/
def atLeast (q : ℚ) (v : Val) : Except PyErr Bool := v.compared.map (PyFloat.le (.fin q))

/-- `v < q`. -/
def lessThan (q : ℚ) (v : Val) : Except PyErr Bool := v.compared.map (PyFloat.lt · (.fin q))

theorem formatFixed_of_number {v : Val} {x : PyFloat} (h : v.number = .ok x) (digits : Nat) :
    v.formatFixed digits = .ok (x.fixedText digits) := by
  unfold formatFixed
  split
  · cases h
  · rw [h]
    rfl

theorem atLeast_of_number {v : Val} {x : PyFloat} (h : v.number = .ok x) {q : ℚ}
    (hq : |q| < 2 ^ 53) : v.atLeast q = .ok (PyFloat.le (.fin q) x) := by
  obtain ⟨y,hy,hsame⟩ := compared_of_number h
  unfold atLeast PyFloat.le
  rw [hy, ← (hsame q hq).2.1, ← (hsame q hq).2.2]
  rfl

theorem lessThan_of_number {v : Val} {x : PyFloat} (h : v.number = .ok x) {q : ℚ}
    (hq : |q| < 2 ^ 53) : v.lessThan q = .ok (x.lt (.fin q)) := by
  obtain ⟨y,hy,hsame⟩ := compared_of_number h
  unfold lessThan
  rw [hy, ← (hsame q hq).1]
  rfl

end Val

/-- `c.upper()` among ASCII letters; two other letters have a capital there. -/
def upperChar (c : Char) : Char := if c = 'ı' then 'I' else if c = 'ſ' then 'S' else c.toUpper

/-- `s.upper()`, as far as a comparison with an ASCII text sees it. -/
def upper (s : String) : String := s.map upperChar

example : fixedText 1 (11/2) = "5.5" := by decide +kernel
example : fixedText 2 (-3/40) = "-0.08" := by decide +kernel

end Py
