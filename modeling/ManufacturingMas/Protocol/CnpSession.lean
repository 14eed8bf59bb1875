import ManufacturingMas.Py.Value

/-! One contract-net round: its limits, its state, and the clamp of its strategy. -/

namespace ManufacturingMas.Protocol
open Py

inductive CNPState where
  | idle | cfpOpen | collecting | evaluating | completed | timeout | cancelled
deriving DecidableEq, Repr

def protocolVersion : String := "cnp/1"

structure CNPConstraints where
  speedMinPct : ℤ
  speedMaxPct : ℤ
  deadlineSec : ℚ
deriving DecidableEq, Repr

def CNPConstraints.default : CNPConstraints := ⟨40,100,45⟩

/-- The start time is left to the one who says when a round has expired. -/
structure CNPSession where
  constraints : CNPConstraints
  state : CNPState
  conversationId : String
deriving DecidableEq, Repr

/-- `int(float(x))`. -/
def intOf (x : Val) : Except PyErr ℤ := do
  let f ← x.toFloat
  f.toInt

theorem intOf_int {n : ℤ} (h : |(n : ℚ)| < PyFloat.limit) :
    intOf (.int n) = .ok (nearestInt n) := by
  change (PyFloat.ofInt n >>= PyFloat.toInt) = _
  rw [PyFloat.ofInt_of_lt h]
  rfl

theorem intOf_small {n : ℤ} (h : |n| ≤ 2 ^ 53) : intOf (.int n) = .ok n := by
  rw [intOf_int (PyFloat.lt_limit_of_small h), nearestInt_of_small h]

theorem intOf_large {n : ℤ} (h : ¬ |(n : ℚ)| < PyFloat.limit) :
    intOf (.int n) = .error .overflowError := by
  change (PyFloat.ofInt n >>= PyFloat.toInt) = _
  rw [PyFloat.ofInt_of_not_lt h]
  rfl

/-- The limits as the dict that agents and scorers read. -/
def CNPConstraints.toDict (c : CNPConstraints) : Dict :=
  [("speed_min_pct", .int c.speedMinPct), ("speed_max_pct", .int c.speedMaxPct),
    ("deadline_sec", .float (.fin c.deadlineSec))]

/-- The labels of a full inspection. `str` of a value that is no text is never one of them. -/
def isFullInspection : Val → Bool
  | .str s => lower s ∈ ["all".toList, "full".toList, "전수".toList]
  | _ => false

namespace CNPSession

def new (c : CNPConstraints) : CNPSession :=
  { constraints := c, state := .idle, conversationId := "" }

def begin (s : CNPSession) (conversationId : String) : CNPSession :=
  { s with conversationId := conversationId, state := .cfpOpen }

def clampSpeed (s : CNPSession) (speed : ℤ) : ℤ :=
  max s.constraints.speedMinPct (min s.constraints.speedMaxPct speed)

theorem clampSpeed_within {s : CNPSession}
    (hle : s.constraints.speedMinPct ≤ s.constraints.speedMaxPct) (n : ℤ) :
    s.constraints.speedMinPct ≤ s.clampSpeed n ∧ s.clampSpeed n ≤ s.constraints.speedMaxPct := by
  unfold clampSpeed
  omega

def validateProposal (s : CNPSession) (proposal : Dict) : Except PyErr Bool :=
  let speed := getD proposal "speed_recommendation" (getD proposal "target_speed_pct" (.int 100))
  match intOf speed with
  | .ok sp => .ok (s.constraints.speedMinPct ≤ sp && sp ≤ s.constraints.speedMaxPct)
  | .error .typeError | .error .valueError => .ok false
  | .error e => .error e

/-- The speed `clamp_strategy` sets; an overflow of the conversion is not caught. -/
def strategySpeed (s : CNPSession) (strategy : Dict) : Except PyErr ℤ := do
  let sp ← orOnBadNumber (intOf (getD strategy "target_speed_pct" (.int 100))) 100
  pure (s.clampSpeed sp)

def clampStrategy (s : CNPSession) (strategy : Dict) : Except PyErr Dict := do
  let sp ← s.strategySpeed strategy
  let strategy := Assoc.set strategy "target_speed_pct" (.int sp)
  let strategy := Assoc.set strategy "constraints_applied" (.bool true)
  let strategy := Assoc.set strategy "protocol_version" (.str protocolVersion)
  let strategy := Assoc.set strategy "conversation_id" (.str s.conversationId)
  pure (Assoc.set strategy "approval_required"
    (.bool (sp < 70 || isFullInspection (getD strategy "inspection_mode" (.str "")))))

/-- `clamp_strategy` on dict objects: all assignments go to a copy, which is returned. -/
def clampStrategyAt (s : CNPSession) (heap : List Dict) (strategy : Nat) :
    Except PyErr (List Dict × Nat) := do
  let sp ← s.strategySpeed (heap.getD strategy [])
  let copy := heap.length
  let heap := heap ++ [heap.getD strategy []]
  let heap := heap.modify copy fun d => Assoc.set d "target_speed_pct" (.int sp)
  let heap := heap.modify copy fun d => Assoc.set d "constraints_applied" (.bool true)
  let heap := heap.modify copy fun d => Assoc.set d "protocol_version" (.str protocolVersion)
  let heap := heap.modify copy fun d => Assoc.set d "conversation_id" (.str s.conversationId)
  let heap := heap.modify copy fun d => Assoc.set d "approval_required"
    (.bool (sp < 70 || isFullInspection (getD d "inspection_mode" (.str ""))))
  pure (heap, copy)

theorem modify_copy (heap : List Dict) (d : Dict) (f : Dict → Dict) :
    (heap ++ [d]).modify heap.length f = heap ++ [f d] := by
  induction heap with
  | nil => rfl
  | cons e heap ih =>
    rw [List.cons_append, List.length_cons, List.modify_succ_cons, ih, List.cons_append]

/-- The objects that were there stay as they are. -/
theorem clampStrategyAt_eq (s : CNPSession) (heap : List Dict) (strategy : Nat) :
    s.clampStrategyAt heap strategy =
      (s.clampStrategy (heap.getD strategy [])).map fun out => (heap ++ [out], heap.length) := by
  unfold clampStrategyAt clampStrategy
  cases s.strategySpeed (heap.getD strategy []) with
  | error e => rfl
  | ok sp =>
    dsimp only [bind, Except.bind, pure, Except.pure]
    simp only [modify_copy]
    rfl

def toCfpBody (s : CNPSession) (situationSummary : String) : Dict :=
  [("protocol_version", .str protocolVersion), ("conversation_id", .str s.conversationId),
    ("constraints", .dict s.constraints.toDict), ("situation", .str situationSummary),
    ("summary", .str "CNP 입찰 요청 (CFP)")]

end CNPSession
end ManufacturingMas.Protocol
