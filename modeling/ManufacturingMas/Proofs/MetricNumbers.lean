import ManufacturingMas.Proofs.ScoreOrder

/-! Which numbers of a proposal its comparison block keeps. -/

namespace ManufacturingMas.Proofs.MetricNumbers
open Py Agents ScoreParts ScoreOrder

/-! ### The axes -/

/-- The numeric axes of the comparison schema: those that are scored, and two others. -/
inductive Axis where
  | scored (m : Metric)
  | delivery | material
deriving DecidableEq, Repr

namespace Axis

def key : Axis → String
  | .scored m => m.key
  | .delivery => "delivery_impact"
  | .material => "material_impact"

def aliases : Axis → List String
  | .scored m => m.aliases
  | .delivery | .material => []

def default : Axis → ℚ
  | .scored m => m.default
  | .delivery => 0
  | .material => nearestDouble (1/5)

end Axis

/-- The finite number that a value is; a truth value is one. -/
def finiteNumber : Val → Option ℚ
  | .float (.fin q) => some q
  | v => v.integer.map fun n => (n : ℚ)

/-- The first number under the canonical key and its aliases. -/
def Axis.number (d : Dict) (axis : Axis) : Option ℚ :=
  (axis.key :: axis.aliases).findSome? fun key => (Assoc.get d key).bind finiteNumber

/-- The value that the axis is read from: the first that is not falsy, or the last. -/
def Axis.read (d : Dict) (axis : Axis) : Val := firstOf d axis.key axis.aliases

/-- The value is converted to `q`, or cannot be while `q` is the default. -/
def ReadsAs (default q : ℚ) : Val → Prop
  | .float x => x = .fin q
  | .int n => nearestDouble n = q ∧ |(n : ℚ)| < PyFloat.limit
  | .bool b => (if b then 1 else 0) = q
  | .str s => parseFloat s = .ok (.fin q) ∨ parseFloat s = .error .valueError ∧ default = q
  | .none | .list _ | .dict _ => default = q

/-- Each number of the proposal is what the block has under the canonical key. -/
def NumbersKept (printer : Printer) (raw : Dict) : Prop :=
  ∀ (axis : Axis) q, axis.number (merged raw) = some q →
    ∃ block, normalizeComparisonMetrics printer raw = .ok block ∧
      Assoc.get block axis.key = some (.float (.fin q))

/-! ### What one axis is read as -/

theorem ofInt_eq_iff (n : ℤ) (q : ℚ) :
    PyFloat.ofInt n = .ok (.fin q) ↔ nearestDouble n = q ∧ |(n : ℚ)| < PyFloat.limit := by
  by_cases hsize : |(n : ℚ)| < PyFloat.limit
  · simp [PyFloat.ofInt_of_lt hsize, hsize]
  · simp [PyFloat.ofInt_of_not_lt hsize, hsize]

theorem ofInt_cases (n : ℤ) :
    (∃ x, PyFloat.ofInt n = .ok x) ∨ PyFloat.ofInt n = .error .overflowError := by
  unfold PyFloat.ofInt
  split
  · exact .inl ⟨_,rfl⟩
  · exact .inr rfl

theorem numberOr_iff (v : Val) (default q : ℚ) :
    numberOr v default = .ok (.fin q) ↔ ReadsAs default q v := by
  have hdefault : (Except.ok (PyFloat.fin default) : Except PyErr PyFloat) = .ok (.fin q) ↔
      default = q := by simp
  cases v with
  | none | list _ | dict _ => exact hdefault
  | bool b => cases b <;> simp [numberOr, Val.toFloat, orOnBadNumber, ReadsAs]
  | int n =>
    refine Iff.trans ?_ (ofInt_eq_iff n q)
    change orOnBadNumber (PyFloat.ofInt n) _ = _ ↔ _
    rcases ofInt_cases n with ⟨x,hx⟩ | hlarge
    · rw [hx]
      rfl
    · rw [hlarge]
      rfl
  | float x => simp [numberOr, Val.toFloat, orOnBadNumber, ReadsAs]
  | str s =>
    change orOnBadNumber (parseFloat s) _ = _ ↔ _
    unfold ReadsAs
    rcases parseFloat_cases s with ⟨x,hx,_⟩ | hbad
    · simp [orOnBadNumber, hx]
    · simp [orOnBadNumber, hbad]

/-- Only a number of a magnitude that no double has is not read at all. -/
theorem numberOr_ok {v : Val} (h : finiteNumber v = none) (default : ℚ) :
    ∃ x, numberOr v default = .ok x := by
  cases v with
  | none | list _ | dict _ => exact ⟨_,rfl⟩
  | bool b | int n => cases h
  | float x => exact ⟨x,rfl⟩
  | str s =>
    change ∃ x, orOnBadNumber (parseFloat s) _ = .ok x
    rcases parseFloat_cases s with ⟨x,hx,_⟩ | hbad
    · rw [hx]
      exact ⟨x,rfl⟩
    · rw [hbad]
      exact ⟨_,rfl⟩

theorem firstOf_mem (d : Dict) (key : String) (keys : List String) :
    ∃ k ∈ key :: keys, firstOf d key keys = getD d k .none := by
  induction keys generalizing key with
  | nil => exact ⟨key,List.mem_cons_self,rfl⟩
  | cons k keys ih =>
    unfold firstOf Val.orElse
    split
    · exact ⟨key,List.mem_cons_self,rfl⟩
    · obtain ⟨j,hj,hread⟩ := ih k
      exact ⟨j,List.mem_cons_of_mem _ hj,hread⟩

theorem read_of_no_number {d : Dict} {axis : Axis} (h : axis.number d = none) :
    finiteNumber (axis.read d) = none := by
  obtain ⟨k,hk,hread⟩ := firstOf_mem d axis.key axis.aliases
  have hnone := List.findSome?_eq_none_iff.mp h k hk
  unfold Axis.read
  rw [hread]
  cases hget : Assoc.get d k with
  | none =>
    rw [getD_of_none hget]
    rfl
  | some v =>
    rw [hget] at hnone
    rw [getD_of_some hget]
    exact hnone

/-! ### The block -/

/-- The entry of the comparison block. -/
def normalizedAxis (raw : Dict) (axis : Axis) : Except PyErr PyFloat :=
  numberOr (axis.read (merged raw)) axis.default

theorem axis_entry {printer : Printer} {raw block : Dict}
    (h : normalizeComparisonMetrics printer raw = .ok block) (axis : Axis) :
    ∃ x, normalizedAxis raw axis = .ok x ∧ Assoc.get block axis.key = some (.float x) := by
  cases axis with
  | scored m => exact normalize_entries h m
  | delivery =>
    unfold normalizeComparisonMetrics at h
    simp only [Traverse.bind_ok_iff] at h
    obtain ⟨_,_,_,_,_,_,delivery,hdelivery,_,_,_,_,_,_,hblock⟩ := h
    cases hblock
    exact ⟨delivery,hdelivery,rfl⟩
  | material =>
    unfold normalizeComparisonMetrics at h
    simp only [Traverse.bind_ok_iff] at h
    obtain ⟨_,_,_,_,_,_,_,_,material,hmaterial,_,_,_,_,hblock⟩ := h
    cases hblock
    exact ⟨material,hmaterial,rfl⟩

theorem normalize_ok (printer : Printer) {raw : Dict}
    (h : ∀ axis, ∃ x, normalizedAxis raw axis = .ok x) :
    ∃ block, normalizeComparisonMetrics printer raw = .ok block := by
  obtain ⟨effect,heffect⟩ := h (.scored .effect)
  obtain ⟨cost,hcost⟩ := h (.scored .cost)
  obtain ⟨quality,hquality⟩ := h (.scored .quality)
  obtain ⟨delivery,hdelivery⟩ := h .delivery
  obtain ⟨material,hmaterial⟩ := h .material
  obtain ⟨violation,hviolation⟩ := h (.scored .violation)
  obtain ⟨confidence,hconfidence⟩ := h (.scored .confidence)
  unfold normalizeComparisonMetrics
  simp only [Traverse.bind_ok_iff]
  have hcosts := (congrArg (numberOr · _) (orElse_assoc _ _ _)).trans hcost
  exact ⟨_,effect,heffect,cost,hcosts,quality,hquality,delivery,hdelivery,material,hmaterial,
    violation,hviolation,confidence,hconfidence,rfl⟩

/-- The numbers are kept exactly if each axis that has one is read as it. -/
theorem numbers_kept_iff (printer : Printer) (raw : Dict) :
    NumbersKept printer raw ↔ ∀ (axis : Axis) q, axis.number (merged raw) = some q →
      ReadsAs axis.default q (axis.read (merged raw)) := by
  constructor
  · intro h axis q hq
    obtain ⟨block,hblock,hentry⟩ := h axis q hq
    obtain ⟨x,hx,hfound⟩ := axis_entry hblock axis
    rw [hfound] at hentry
    cases hentry
    exact (numberOr_iff _ _ _).mp hx
  · intro h axis q hq
    have hread : ∀ axis, ∃ x, normalizedAxis raw axis = .ok x := by
      intro axis
      cases hnumber : axis.number (merged raw) with
      | none => exact numberOr_ok (read_of_no_number hnumber) axis.default
      | some q => exact ⟨.fin q,(numberOr_iff _ _ _).mpr (h axis q hnumber)⟩
    obtain ⟨block,hblock⟩ := normalize_ok printer hread
    obtain ⟨x,hx,hentry⟩ := axis_entry hblock axis
    rw [normalizedAxis, (numberOr_iff _ _ _).mpr (h axis q hq)] at hx
    cases hx
    exact ⟨block,hblock,hentry⟩

/-- A proposal that is expected to have no effect. -/
def noEffect : Dict := [("proposal_metrics", .dict [("expected_effect", .int 0)])]

theorem no_effect_lost : ¬ NumbersKept textPrinter noEffect := by
  intro h
  have hzero : (Axis.scored .effect).number (merged noEffect) = some 0 := by decide +kernel
  have hdefault : normalizedAxis noEffect (.scored .effect) = .ok (.fin (1/2)) := by
    decide +kernel
  obtain ⟨block,hblock,hentry⟩ := h (.scored .effect) 0 hzero
  obtain ⟨x,hx,hfound⟩ := axis_entry hblock (.scored .effect)
  rw [hdefault] at hx
  cases hx
  rw [hfound] at hentry
  simp at hentry

end ManufacturingMas.Proofs.MetricNumbers
