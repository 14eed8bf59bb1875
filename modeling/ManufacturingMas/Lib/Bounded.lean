import Mathlib.Data.List.Basic
import ManufacturingMas.Lib.Runs

/-! Bounded queues that refuse what arrives while they are full. -/

namespace Bounded

variable {α : Type*}

/-- An arrival at a queue for `size` entries. -/
def offer (size : Nat) (q : List α) (x : α) : List α := if q.length < size then q ++ [x] else q

theorem length_offer_le {size : Nat} {q : List α} (h : q.length ≤ size) (x : α) :
    (offer size q x).length ≤ size := by
  unfold offer
  split
  · rw [List.length_append, List.length_singleton]
    omega
  · exact h

/-- What is refused lies past the first `size` entries. -/
theorem offer_take (size : Nat) (xs : List α) (x : α) :
    offer size (xs.take size) x = (xs ++ [x]).take size := by
  unfold offer
  rw [List.length_take, List.take_append]
  by_cases h : xs.length < size
  · have hone : ([x] : List α).take (size - xs.length) = [x] :=
      List.take_of_length_le (by rw [List.length_singleton]; omega)
    rw [if_pos (by omega), hone]
  · rw [if_neg (by omega), show size - xs.length = 0 by omega, List.take_zero, List.append_nil]

/-- Without departures the queue holds the first that arrived. -/
theorem foldl_offer (size : Nat) (xs ys : List α) :
    ys.foldl (offer size) (xs.take size) = (xs ++ ys).take size := by
  induction ys generalizing xs with
  | nil => rw [List.foldl_nil, List.append_nil]
  | cons y ys ih => rw [List.foldl_cons, offer_take, ih, List.append_assoc, List.singleton_append]

/-- Refusing early what is refused in the end changes nothing. -/
theorem take_append_take (size : Nat) (xs ys : List α) :
    (xs.take size ++ ys).take size = (xs ++ ys).take size := by
  have htaken := foldl_offer size (xs.take size) ys
  rw [List.take_take, Nat.min_self, foldl_offer] at htaken
  exact htaken.symm

/-! ### Queues that are also emptied -/

inductive Op (α : Type*) where
  | arrive (x : α)
  | depart

/-- What has left the queue so far, and what waits in it. -/
structure Channel (α : Type*) where
  departed : List α
  waiting : List α

namespace Channel

def empty : Channel α := { departed := [], waiting := [] }

/-- The oldest entry departs; of an empty queue nothing does. -/
def depart (c : Channel α) : Channel α :=
  match c.waiting with
  | [] => c
  | x :: waiting => { departed := c.departed ++ [x], waiting := waiting }

def step (size : Nat) (c : Channel α) : Op α → Channel α
  | .arrive x => { c with waiting := offer size c.waiting x }
  | .depart => c.depart

/-- Everything the queue has let in. -/
def admitted (c : Channel α) : List α := c.departed ++ c.waiting

/-- What one operation lets in. -/
def admits (size : Nat) (c : Channel α) : Op α → List α
  | .arrive x => if c.waiting.length < size then [x] else []
  | .depart => []

def arrival : Op α → Option α
  | .arrive x => some x
  | .depart => none

/-- An arrival finds room. -/
def Room (size : Nat) (c : Channel α) (op : Op α) : Prop :=
  (arrival op).isSome = true → c.waiting.length < size

variable {size : Nat} {c : Channel α} {ops : List (Op α)}

theorem admitted_depart (c : Channel α) : c.depart.admitted = c.admitted := by
  unfold depart admitted
  split
  · rfl
  · rename_i x waiting hwaiting
    rw [hwaiting, List.append_assoc, List.singleton_append]

theorem step_admitted (size : Nat) (c : Channel α) (op : Op α) :
    (c.step size op).admitted = c.admitted ++ c.admits size op := by
  cases op with
  | depart => exact (admitted_depart c).trans (List.append_nil _).symm
  | arrive x =>
    change c.departed ++ offer size c.waiting x =
      c.departed ++ c.waiting ++ (if c.waiting.length < size then [x] else [])
    unfold offer
    by_cases h : c.waiting.length < size
    · rw [if_pos h, if_pos h, List.append_assoc]
    · rw [if_neg h, if_neg h, List.append_nil]

/-- What a run lets in comes out in order, or still waits. -/
theorem run_admitted (size : Nat) (ops : List (Op α)) (c : Channel α) :
    (Runs.run (step size) c ops).admitted =
      c.admitted ++ Runs.outputs (step size) (admits size) c ops := by
  induction ops generalizing c with
  | nil => exact (List.append_nil _).symm
  | cons op ops ih =>
    rw [Runs.run_cons, ih, step_admitted, List.append_assoc]
    rfl

theorem step_bounded (h : c.waiting.length ≤ size) (op : Op α) :
    (c.step size op).waiting.length ≤ size := by
  cases op with
  | arrive x => exact length_offer_le h x
  | depart =>
    change c.depart.waiting.length ≤ size
    unfold depart
    split
    · exact h
    · rename_i x waiting hwaiting
      rw [hwaiting, List.length_cons] at h
      exact Nat.le_of_succ_le h

theorem run_bounded (h : c.waiting.length ≤ size) :
    (Runs.run (step size) c ops).waiting.length ≤ size := by
  induction ops generalizing c with
  | nil => exact h
  | cons op ops ih => exact ih (step_bounded h op)

theorem admits_sublist (size : Nat) (c : Channel α) (op : Op α) :
    (c.admits size op).Sublist (arrival op).toList := by
  cases op with
  | depart => exact List.Sublist.refl _
  | arrive x =>
    change (if c.waiting.length < size then [x] else []).Sublist [x]
    split
    · exact List.Sublist.refl _
    · exact List.nil_sublist _

theorem filterMap_arrival (op : Op α) (ops : List (Op α)) :
    (op :: ops).filterMap arrival = (arrival op).toList ++ ops.filterMap arrival := by
  cases op <;> rfl

/-- A queue loses arrivals, and neither adds to them nor changes their order. -/
theorem outputs_sublist (size : Nat) (c : Channel α) (ops : List (Op α)) :
    (Runs.outputs (step size) (admits size) c ops).Sublist (ops.filterMap arrival) := by
  induction ops generalizing c with
  | nil => exact List.Sublist.refl _
  | cons op ops ih =>
    rw [filterMap_arrival]
    exact (admits_sublist size c op).append (ih _)

theorem admits_iff_room (size : Nat) (c : Channel α) (op : Op α) :
    c.admits size op = (arrival op).toList ↔ Room size c op := by
  cases op with
  | depart => simp [admits, arrival, Room]
  | arrive x => simp [admits, arrival, Room]

/-- It loses none exactly if each of them finds room. -/
theorem lossless_iff (size : Nat) (c : Channel α) (ops : List (Op α)) :
    Runs.outputs (step size) (admits size) c ops = ops.filterMap arrival ↔
      Runs.Along (step size) (Room size) c ops := by
  induction ops generalizing c with
  | nil => exact iff_of_true rfl trivial
  | cons op ops ih =>
    rw [filterMap_arrival, Runs.along_cons, ← ih, ← admits_iff_room]
    have hhead := (admits_sublist size c op).length_le
    have htail := (outputs_sublist size (c.step size op) ops).length_le
    constructor
    · intro h
      have hlength := congrArg List.length h
      simp only [Runs.outputs, List.length_append] at hlength
      exact List.append_inj h (by omega)
    · rintro ⟨h,hrest⟩
      exact congrArg₂ _ h hrest

end Channel
end Bounded
