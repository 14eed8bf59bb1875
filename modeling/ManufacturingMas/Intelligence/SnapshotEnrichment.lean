import ManufacturingMas.Agents.PlanningSub
import ManufacturingMas.Py.Format

/-! The flat fields that the decision router reads, taken from a snapshot. -/

namespace ManufacturingMas.Intelligence
open Py Agents

/-- `_num(d, "value")` of a sensor's dict; an overflow of the conversion is not caught. -/
def sensorValue (d : Dict) : Except PyErr PyFloat :=
  match getD d "value" (getD d "value" (getD d "ma" .none)) with
  | .none => .ok (.fin 0)
  | v => orOnBadNumber v.toFloat (.fin 0)

/-- A reading of the sensors of WC-01, a dict or a bare number. -/
def readingOf : Val → Except PyErr PyFloat
  | .dict d => sensorValue d
  | v => (v.orElse (.int 0)).toFloat

/-- The least supply in hours; a material without a number of days is passed over. -/
def minSupplyHours : List Val → PyFloat → Except PyErr PyFloat
  | [], least => pure least
  | m :: ms, least =>
    match getD m.asDict "days_supply" .none with
    | .none => minSupplyHours ms least
    | days => do
      let days ← orOnBadNumber (days.toFloat.map some) none
      match days with
      | some days => minSupplyHours ms (least.min (days.mul (.fin 24)))
      | none => minSupplyHours ms least

/-- `x.values()`. -/
def valuesOf : Val → Except PyErr (List Val)
  | .dict d => .ok (d.map Prod.snd)
  | _ => .error .attributeError

def enrichSnapshotForRouter (snapshot : Dict) : Except PyErr Dict := do
  let field (d : Val) (key : String) := do
    let v ← fieldOf d key .none
    pure (v.orElse (.dict []))
  let stations := (getD snapshot "stations" .none).orElse (.dict [])
  let wc01 ← field stations "WC-01"
  let sensors ← field wc01 "sensors"
  let vib ← fieldOf sensors "vibration" .none
  let vibration ← readingOf vib
  let oil ← fieldOf sensors "oil_temp" .none
  let oilTemp ← readingOf oil
  let mats ← valuesOf ((getD snapshot "materials" .none).orElse (.dict []))
  let least ← minSupplyHours mats (.fin 999)
  let out := Assoc.set snapshot "vibration" (.float vibration)
  let out := Assoc.set out "oil_temp" (.float oilTemp)
  pure (Assoc.set out "material_buffer_hours"
    (.float (if least.lt (.fin 999) then least else .fin 99)))

/-- The fields of a snapshot that the rules of the router compare, where there are any,
are numbers. -/
def NumericFields (snapshot : Dict) : Prop :=
  ∀ key ∈ ["vibration", "oil_temp", "material_buffer_hours"], ∀ v,
    Assoc.get snapshot key = some v → ∃ x, v.number = .ok x

/-- Whatever the snapshot held under these keys, they are numbers afterwards. -/
theorem enriched_numeric {snapshot enriched : Dict}
    (h : enrichSnapshotForRouter snapshot = .ok enriched) : NumericFields enriched := by
  unfold enrichSnapshotForRouter at h
  simp only [Traverse.bind_ok_iff] at h
  obtain ⟨_,_,_,_,_,_,vibration,_,_,_,oilTemp,_,_,_,least,_,h⟩ := h
  cases h
  intro key hkey v hv
  simp only [List.mem_cons, List.not_mem_nil, or_false] at hkey
  rcases hkey with rfl | rfl | rfl
  · rw [Assoc.get_set_of_ne (by decide), Assoc.get_set_of_ne (by decide),
      Assoc.get_set_self] at hv
    cases hv
    exact ⟨vibration,rfl⟩
  · rw [Assoc.get_set_of_ne (by decide), Assoc.get_set_self] at hv
    cases hv
    exact ⟨oilTemp,rfl⟩
  · rw [Assoc.get_set_self] at hv
    cases hv
    exact ⟨_,rfl⟩

end ManufacturingMas.Intelligence
