import ManufacturingMas.Lib.Assoc
import ManufacturingMas.Py.Parse

/-! Python values of the kinds that JSON has, and what the built-ins do on them. -/

namespace Py

inductive Val where
  | none
  | bool (b : Bool)
  | int (n : ℤ)
  | float (x : PyFloat)
  | str (s : String)
  | list (xs : List Val)
  | dict (d : List (String × Val))
deriving Repr

abbrev Dict := List (String × Val)

/-- `d.get(key, default)`. -/
def getD (d : Dict) (key : String) (default : Val) : Val := (Assoc.get d key).getD default

section
variable {d e : Dict} {key other : String} {v : Val}

theorem getD_of_some (h : Assoc.get d key = some v) (default : Val) : getD d key default = v := by
  rw [getD, h, Option.getD_some]

theorem getD_of_none (h : Assoc.get d key = none) (default : Val) :
    getD d key default = default := by
  rw [getD, h, Option.getD_none]

theorem getD_congr (h : Assoc.get d key = Assoc.get e key) (default : Val) :
    getD d key default = getD e key default := by
  rw [getD, getD, h]

theorem getD_set_self (d : Dict) (key : String) (v default : Val) :
    getD (Assoc.set d key v) key default = v := getD_of_some Assoc.get_set_self default

theorem getD_set_of_ne (h : other ≠ key) (v default : Val) :
    getD (Assoc.set d key v) other default = getD d other default :=
  getD_congr (Assoc.get_set_of_ne h) default

end

namespace Val

def truthy : Val → Bool
  | .none => false
  | .bool b => b
  | .int n => n ≠ 0
  | .float x => x.truthy
  | .str s => s ≠ ""
  | .list xs => !xs.isEmpty
  | .dict d => !d.isEmpty

/-- `x or y`. -/
def orElse (x y : Val) : Val := if x.truthy then x else y

def isDict : Val → Bool
  | .dict _ => true
  | _ => false

/-- `float(x)`. -/
def toFloat : Val → Except PyErr PyFloat
  | .bool b => .ok (.fin (if b then 1 else 0))
  | .int n => PyFloat.ofInt n
  | .float x => .ok x
  | .str s => parseFloat s
  | .none | .list _ | .dict _ => .error .typeError

/-- `int(x)`. -/
def toInt : Val → Except PyErr ℤ
  | .bool b => .ok (if b then 1 else 0)
  | .int n => .ok n
  | .float x => x.toInt
  | .str s => parseInt s
  | .none | .list _ | .dict _ => .error .typeError

/-- `list(x)`. -/
def toList : Val → Except PyErr (List Val)
  | .list xs => .ok xs
  | .str s => .ok (s.toList.map fun c => .str (String.singleton c))
  | .dict d => .ok (d.map fun p => .str p.1)
  | _ => .error .typeError

/-- An `int`; a truth value is one. -/
def integer : Val → Option ℤ
  | .bool b => some (if b then 1 else 0)
  | .int n => some n
  | _ => .none

/-- An operand of float arithmetic. -/
def number : Val → Except PyErr PyFloat
  | .float x => .ok x
  | v =>
    match v.integer with
    | some n => PyFloat.ofInt n
    | .none => .error .typeError

/-- An operand of a comparison with a float, which is exact on integers. -/
def compared : Val → Except PyErr PyFloat
  | .float x => .ok x
  | v =>
    match v.integer with
    | some n => .ok (.fin n)
    | .none => .error .typeError

/-- `x - y`, as it is compared afterwards. -/
def minus (x y : Val) : Except PyErr PyFloat :=
  match x.integer, y.integer with
  | some m, some n => .ok (.fin (m - n))
  | _, _ => do
    let a ← x.number
    let b ← y.number
    pure (a.sub b)

/-- Whether a number can be written with the format `.1%`. -/
def formatPercent : Val → Except PyErr Unit
  | .str _ => .error .valueError
  | v => v.number.map fun _ => ()

/-- An integer compares with a number of moderate size as the float does that it is rounded to. -/
theorem compared_of_number {v : Val} {x : PyFloat} (h : v.number = .ok x) :
    ∃ y, v.compared = .ok y ∧ ∀ q : ℚ, |q| < 2 ^ 53 →
      y.lt (.fin q) = x.lt (.fin q) ∧ PyFloat.lt (.fin q) y = PyFloat.lt (.fin q) x ∧
        PyFloat.eq (.fin q) y = PyFloat.eq (.fin q) x := by
  unfold number at h
  unfold compared
  split at h
  · exact ⟨x,h,fun _ _ => ⟨rfl,rfl,rfl⟩⟩
  · split at h
    · rename_i n _
      have hsize : |(n : ℚ)| < PyFloat.limit := by
        by_contra hlarge
        rw [PyFloat.ofInt_of_not_lt hlarge] at h
        cases h
      rw [PyFloat.ofInt_of_lt hsize] at h
      cases h
      refine ⟨_,rfl,fun q hq => ?_⟩
      obtain ⟨hlow,hhigh⟩ := abs_lt.mp hq
      simp only [PyFloat.lt, PyFloat.eq, PyFloat.fin.injEq, decide_eq_decide]
      rcases nearestDouble_int_cases n with heq | ⟨hn,hround⟩ | ⟨hn,hround⟩
      · simp [heq]
      · refine ⟨?_,?_,?_⟩ <;> constructor <;> intro h <;> linarith
      · refine ⟨?_,?_,?_⟩ <;> constructor <;> intro h <;> linarith
    · cases h

theorem formatPercent_of_number {v : Val} {x : PyFloat} (h : v.number = .ok x) :
    v.formatPercent = .ok () := by
  unfold formatPercent
  split
  · cases h
  · rw [h]
    rfl

/-- `x == s` for a text `s`. -/
def isStr (s : String) : Val → Bool
  | .str t => t = s
  | _ => false

/-- The dict a block of a proposal is read as, `{}` when it is none. -/
def asDict : Val → Dict
  | .dict d => d
  | _ => []

end Val

/-- `try: … except (TypeError, ValueError): default`. -/
def orOnBadNumber {α : Type} (x : Except PyErr α) (default : α) : Except PyErr α :=
  match x with
  | .error .typeError | .error .valueError => .ok default
  | r => r

/-- How Python prints values: `str(x)`, and a number with a fixed number of digits. -/
structure Printer where
  str : Val → String
  fixed : Nat → Val → Except PyErr String

/-- Prints every value as nothing. -/
def Printer.blank : Printer := { str := fun _ => "", fixed := fun _ _ => .ok "" }

/-- A field of a dict as it is printed in a text. -/
def Printer.field (printer : Printer) (d : Dict) (key default : String) : String :=
  printer.str (getD d key (.str default))

end Py
