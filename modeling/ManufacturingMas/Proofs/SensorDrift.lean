import Mathlib.Data.Sign.Basic
import ManufacturingMas.Domain.Machines
import ManufacturingMas.Lib.Runs

/-! The drift of a sensor under shocks, reads and recoveries. -/

namespace ManufacturingMas.Proofs.SensorDrift
open Machines

inductive SensorOp where
  | read (innovation toolWearRate shiftFactor ambientTemp : ℚ) (isWarmup : Bool)
  | injectShock (magnitude : ℚ)
  | recover (amount : ℚ≥0)

namespace SensorOp

def apply (s : RealisticSensor) : SensorOp → RealisticSensor
  | read innovation wear shift ambient isWarmup => (s.read innovation wear shift ambient isWarmup).1
  | injectShock magnitude => s.injectShock magnitude
  | recover amount => s.recover amount

/-- What the operation adds to the drift by itself. -/
def push (s : RealisticSensor) : SensorOp → ℚ
  | read .. => s.driftPerCycle
  | injectShock magnitude => magnitude
  | recover _ => 0

end SensorOp

/-- `d'` is `d` brought nearer to the baseline by `amount`, and not past it. -/
structure Nearer (amount d d' : ℚ) : Prop where
  magnitude : |d'| = max 0 (|d| - amount)
  side : d' = 0 ∨ SignType.sign d' = SignType.sign d

/-- The operation, if it is a recovery, brings the drift nearer to the baseline. -/
def Recovers (s : RealisticSensor) : SensorOp → Prop
  | .recover amount => Nearer amount s.drift (s.recover amount).drift
  | _ => True

/-- The operation, if it is a recovery, starts above the baseline or is enough to reach it. -/
def Recoverable (s : RealisticSensor) : SensorOp → Prop
  | .recover amount => 0 ≤ s.drift ∨ |s.drift| ≤ amount
  | _ => True

variable {s : RealisticSensor} {amount : ℚ≥0}

theorem recover_above (hdrift : 0 ≤ s.drift) :
    Nearer amount s.drift (s.recover amount).drift := by
  have hrecover : (s.recover amount).drift = max 0 (s.drift - amount) := rfl
  rw [hrecover]
  constructor
  · rw [abs_of_nonneg hdrift]
    exact abs_of_nonneg (le_max_left _ _)
  · rcases le_or_gt (s.drift - amount) 0 with hspent | hleft
    · exact Or.inl (max_eq_left hspent)
    · have hpos : 0 < s.drift := hleft.trans_le (sub_le_self _ amount.2)
      right
      rw [max_eq_right hleft.le, sign_pos hleft, sign_pos hpos]

/-- Below the baseline every recovery, however small, ends on the baseline. -/
theorem recover_below (hdrift : s.drift < 0) : (s.recover amount).drift = 0 := by
  have hamount : (0 : ℚ) ≤ amount := amount.2
  exact max_eq_left (by linarith)

theorem recover_below_iff (hdrift : s.drift < 0) :
    Nearer amount s.drift (s.recover amount).drift ↔ |s.drift| ≤ amount := by
  rw [recover_below hdrift]
  constructor
  · intro h
    have hmagnitude := h.magnitude
    rw [abs_zero] at hmagnitude
    exact sub_nonpos.mp (le_of_le_of_eq (le_max_right _ _) hmagnitude.symm)
  · intro hreach
    constructor
    · rw [abs_zero]
      exact (max_eq_left (sub_nonpos.mpr hreach)).symm
    · exact Or.inl rfl

theorem recovers_iff_recoverable (s : RealisticSensor) (e : SensorOp) :
    Recovers s e ↔ Recoverable s e := by
  cases e with
  | recover amount =>
    rcases le_or_gt 0 s.drift with habove | hbelow
    · exact iff_of_true (recover_above habove) (Or.inl habove)
    · have hnot : ¬ 0 ≤ s.drift := not_le.mpr hbelow
      exact (recover_below_iff hbelow).trans (or_iff_right hnot).symm
  | read => exact Iff.rfl
  | injectShock => exact Iff.rfl

/-- Every recovery of a run moves the drift toward the baseline by its amount and
not past it, exactly when each starts above the baseline or is enough to reach it. -/
theorem recoveries_iff (s : RealisticSensor) (es : List SensorOp) :
    Runs.Along SensorOp.apply Recovers s es ↔ Runs.Along SensorOp.apply Recoverable s es :=
  Runs.along_congr (fun _ => True) (fun _ _ _ => trivial)
    (fun s e _ => recovers_iff_recoverable s e) trivial

/-- A sensor that nothing pushes below its baseline stays above it. -/
theorem recoverable_of_upward (hdrift : 0 ≤ s.drift) {es : List SensorOp}
    (hup : Runs.Along SensorOp.apply (fun s e => 0 ≤ e.push s) s es) :
    Runs.Along SensorOp.apply Recoverable s es := by
  induction es generalizing s with
  | nil => trivial
  | cons e es ih =>
    obtain ⟨hpush,hrest⟩ := hup
    cases e with
    | recover amount => exact ⟨Or.inl hdrift,ih (le_max_left _ _) hrest⟩
    | read => exact ⟨trivial,ih (add_nonneg hdrift hpush) hrest⟩
    | injectShock => exact ⟨trivial,ih (add_nonneg hdrift hpush) hrest⟩

/-! ### The electrode of the spot welder, whose nugget shrinks as it wears -/

def quietRead : SensorOp := .read 0 0 1 22 false

theorem quietReads_drift (s : RealisticSensor) (n : Nat) :
    (Runs.run SensorOp.apply s (List.replicate n quietRead)).drift =
      s.drift + n * s.driftPerCycle := by
  induction n generalizing s with
  | zero => simp
  | succ n ih =>
    have hfirst : (quietRead.apply s).drift = s.drift + s.driftPerCycle := rfl
    have hsame : (quietRead.apply s).driftPerCycle = s.driftPerCycle := rfl
    rw [List.replicate_succ, Runs.run_cons, ih, hfirst, hsame]
    push_cast
    ring

def nuggetDia : RealisticSensor :=
  .new "너겟직경" (11/2) (3/20) "mm" (9/2) 4 (41/50) (-1/1000)

/-- Eleven reads take the nugget 11/1000 below its baseline; a recovery of 10/1000
then leaves nothing of it. -/
theorem nugget_recovery_overshoots :
    ("nugget_dia", nuggetDia) ∈ (createSpotWelder "WC-02").sensors ∧
    ¬ Runs.Along SensorOp.apply Recovers nuggetDia
      (List.replicate 11 quietRead ++ [.recover (1/100)]) := by
  have hdrift : (Runs.run SensorOp.apply nuggetDia (List.replicate 11 quietRead)).drift =
      -11/1000 := by
    rw [quietReads_drift]
    norm_num [nuggetDia, RealisticSensor.new]
  refine ⟨.tail _ (.tail _ (.head _)),fun h => ?_⟩
  obtain ⟨_,hrecovers,_⟩ := (Runs.along_append _ _).mp h
  have hbelow : (Runs.run SensorOp.apply nuggetDia (List.replicate 11 quietRead)).drift < 0 := by
    rw [hdrift]
    norm_num
  have hreach := (recover_below_iff hbelow).mp hrecovers
  rw [hdrift] at hreach
  norm_num at hreach

end ManufacturingMas.Proofs.SensorDrift
