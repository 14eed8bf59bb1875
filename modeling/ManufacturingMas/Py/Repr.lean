import ManufacturingMas.Lib.Traverse
import ManufacturingMas.Py.Value

/-! The texts of values: `repr` and `str`. -/

namespace Py

/-- What the text of a value depends on besides the value: which characters the Unicode
database calls printable, how many digits an int may have, how deep calls may nest. -/
structure Interpreter where
  printable : Char → Bool
  intDigits : Nat
  depth : Nat

/-! ### Floats -/

/-- The first `n + 1` decimal digits of a positive number, and the exponent of the last. -/
def significant (n : Nat) (q : ℚ) : Nat × ℤ :=
  let e := Int.log 10 q - n
  ((roundHalfEven (q / 10 ^ e)).toNat, e)

/-- As few digits as tell the double from every other; 17 always do. -/
def shortest (q : ℚ) : Nat × ℤ :=
  let tells (n : Nat) : Bool :=
    let (d, e) := significant n q
    nearestDouble (d * 10 ^ e) = nearestDouble q
  significant (((List.range 16).find? tells).getD 16) q

def zeros (n : Nat) : String := String.ofList (List.replicate n '0')

/-- The digits of a positive number with the decimal point after `point` of them. -/
def positional (digits : List Char) (point : ℤ) : String :=
  if point ≤ 0 then "0." ++ zeros (-point).toNat ++ String.ofList digits
  else if digits.length ≤ point then
    String.ofList digits ++ zeros (point - digits.length).toNat ++ ".0"
  else String.ofList (digits.take point.toNat) ++ "." ++ String.ofList (digits.drop point.toNat)

def scientific (digits : List Char) (exponent : ℤ) : String :=
  let mantissa := String.ofList (digits.take 1) ++
    (if digits.length ≤ 1 then "" else "." ++ String.ofList (digits.drop 1))
  let sign := if exponent < 0 then "-" else "+"
  let shown := Nat.repr exponent.natAbs
  mantissa ++ "e" ++ sign ++ zeros (2 - shown.length) ++ shown

/-- `repr(x)` of a positive float. -/
def positiveRepr (q : ℚ) : String :=
  let (d, e) := shortest q
  let shown := (Nat.repr d).toList
  -- rounding up may have left zeros at the end
  let digits := (shown.reverse.dropWhile (· = '0')).reverse
  let point := e + shown.length
  if -4 < point ∧ point ≤ 16 then positional digits point else scientific digits (point - 1)

def PyFloat.repr : PyFloat → String
  | .fin q => if q = 0 then "0.0" else (if q < 0 then "-" else "") ++ positiveRepr |q|
  | .posInf => "inf"
  | .negInf => "-inf"
  | .nan => "nan"

/-! ### Other values -/

def hex (width n : Nat) : String :=
  let shown := Nat.toDigits 16 n
  zeros (width - shown.length) ++ String.ofList shown

def singleQuote : Char := Char.ofNat 39
def doubleQuote : Char := Char.ofNat 34

/-- A character in a quoted text. -/
def escape (py : Interpreter) (quote c : Char) : String :=
  if c = quote ∨ c = '\\' then String.ofList ['\\', c]
  else if c = '\t' then "\\t"
  else if c = '\n' then "\\n"
  else if c = '\r' then "\\r"
  else if py.printable c then String.singleton c
  else if c.toNat < 256 then "\\x" ++ hex 2 c.toNat
  else if c.toNat < 65536 then "\\u" ++ hex 4 c.toNat
  else "\\U" ++ hex 8 c.toNat

/-- Single quotes, unless the text has these and no double ones. -/
def quoted (py : Interpreter) (s : String) : String :=
  let cs := s.toList
  let quote := if singleQuote ∈ cs ∧ doubleQuote ∉ cs then doubleQuote else singleQuote
  String.singleton quote ++ String.join (cs.map (escape py quote)) ++ String.singleton quote

/-- `str(n)`, which an int with too many digits does not have. -/
def intRepr (py : Interpreter) (n : ℤ) : Except PyErr String :=
  if py.intDigits < (Nat.repr n.natAbs).length then .error .valueError
  else .ok ((if n < 0 then "-" else "") ++ Nat.repr n.natAbs)

/-- `repr(x)`, where `element` is `repr` of what x contains. -/
def reprWith (py : Interpreter) (element : Val → Except PyErr String) : Val → Except PyErr String
  | .none => .ok "None"
  | .bool b => .ok (if b then "True" else "False")
  | .int n => intRepr py n
  | .float x => .ok x.repr
  | .str s => .ok (quoted py s)
  | .list xs => do
    let parts ← xs.mapM element
    pure ("[" ++ ", ".intercalate parts ++ "]")
  | .dict d => do
    let parts ← d.mapM fun p => do
      let shown ← element p.2
      pure (quoted py p.1 ++ ": " ++ shown)
    pure ("\x7b" ++ ", ".intercalate parts ++ "\x7d")

/-- `repr(x)` with a number of calls left. -/
def reprOf (py : Interpreter) : Nat → Val → Except PyErr String
  | 0 => reprWith py fun _ => .error (.other "RecursionError")
  | depth + 1 => reprWith py (reprOf py depth)

/-- `str(x)`. -/
def strOf (py : Interpreter) : Val → Except PyErr String
  | .str s => .ok s
  | x => reprOf py py.depth x

/-- `int(x)`, where a text may not have too many digits either. -/
def intOf (py : Interpreter) (x : Val) : Except PyErr ℤ :=
  match x with
  | .str s =>
    if py.intDigits < (numberText s).countP Char.isDigit then .error .valueError else parseInt s
  | x => x.toInt

/-! ### No text is empty but the empty one -/

theorem positional_ne_empty (digits : List Char) (point : ℤ) : positional digits point ≠ "" := by
  unfold positional
  split
  · simp
  · split <;> simp

theorem scientific_ne_empty (digits : List Char) (exponent : ℤ) :
    scientific digits exponent ≠ "" := by
  simp [scientific]

theorem PyFloat.repr_ne_empty (x : PyFloat) : x.repr ≠ "" := by
  cases x with
  | fin q =>
    have hpositive : positiveRepr |q| ≠ "" := by
      unfold positiveRepr
      dsimp only
      split
      · exact positional_ne_empty _ _
      · exact scientific_ne_empty _ _
    unfold PyFloat.repr
    dsimp only
    split <;> simp [hpositive]
  | posInf => decide
  | negInf => decide
  | nan => decide

theorem reprWith_ne_empty {py : Interpreter} {element : Val → Except PyErr String} {x : Val}
    {s : String} (h : reprWith py element x = .ok s) : s ≠ "" := by
  cases x with
  | none =>
    cases h
    decide
  | bool b =>
    cases h
    cases b <;> decide
  | int n =>
    change intRepr py n = .ok s at h
    unfold intRepr at h
    split at h
    · cases h
    · cases h
      simp [Nat.repr_ne_empty]
  | float x =>
    cases h
    exact x.repr_ne_empty
  | str s =>
    cases h
    simp [quoted]
  | list xs =>
    obtain ⟨parts,-,hs⟩ := Traverse.bind_ok_iff.mp h
    cases hs
    simp
  | dict d =>
    obtain ⟨parts,-,hs⟩ := Traverse.bind_ok_iff.mp h
    cases hs
    simp

/-- The text of a value that counts as true is not empty. -/
theorem strOf_ne_empty {py : Interpreter} {x : Val} {s : String} (htruthy : x.truthy = true)
    (h : strOf py x = .ok s) : s ≠ "" := by
  have hrepr : ∀ n, reprOf py n x = .ok s → s ≠ "" := by
    intro n hn
    cases n with
    | zero => exact reprWith_ne_empty hn
    | succ n => exact reprWith_ne_empty hn
  cases x with
  | str t =>
    cases h
    simpa [Val.truthy] using htruthy
  | _ => exact hrepr _ h

example : (PyFloat.fin (1/10)).repr = "0.1" := by decide +kernel
example : (PyFloat.fin (-3/2000000)).repr = "-1.5e-06" := by decide +kernel
example : (PyFloat.fin (10 ^ 16)).repr = "1e+16" := by decide +kernel

end Py
