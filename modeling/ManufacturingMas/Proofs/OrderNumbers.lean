import Mathlib.Data.List.Nodup
import ManufacturingMas.Lib.Runs
import ManufacturingMas.Proofs.FactoryCycle
import ManufacturingMas.Runtime.FactoryLoop

/-! The numbers of the orders of a factory that runs: every order keeps its own. -/

namespace ManufacturingMas.Proofs.OrderNumbers
open Py Machines Environment ScenarioRuntime FactoryLoop FactoryCycle

/-! ### The text of a number -/

/-- The zeros in front do not hide the number. -/
theorem zeroPadded_injective (width : Nat) : Function.Injective (zeroPadded width) := by
  have hread : ∀ n, Nat.ofDigitChars 10 (zeroPadded width n).toList 0 = n := by
    intro n
    unfold zeroPadded
    rw [String.toList_append, String.toList_ofList, Nat.toList_repr, Nat.ofDigitChars_append,
      Nat.ofDigitChars_replicate_zero, mul_zero, Nat.ofDigitChars_ten_toDigits]
  intro n m h
  rw [← hread n, ← hread m, h]

def newOrderId (counter : Nat) : String := "PO-NEW-" ++ zeroPadded 3 counter

theorem newOrderId_injective : Function.Injective newOrderId :=
  fun _ _ h => zeroPadded_injective 3 ((String.append_right_inj _).mp h)

/-! ### What keeps the orders' ids -/

def ids (orders : List CustomerOrder) : List String := orders.map (·.orderId)

theorem processShipments_ids (draw : Nat → RandInt 1 3) (i : Nat) (orders : List CustomerOrder)
    (fg : Int) : ids (processShipments draw i orders fg).1 = ids orders := by
  induction orders generalizing i fg with
  | nil => rfl
  | cons o orders ih =>
    unfold processShipments
    split
    · exact congrArg (o.orderId :: ·) (ih _ _)
    · split
      · exact congrArg (o.orderId :: ·) (ih _ _)
      · exact congrArg (o.orderId :: ·) (ih _ _)

theorem runCycle_ids (f : Factory) (d : CycleDraws) :
    ids (f.runCycle d).1.orders = ids f.orders := by
  rw [runCycle_of_finish (fun f => ids f.orders) (fun _ _ _ _ => rfl) (fun _ _ _ => rfl) f d]
  unfold Factory.finish
  split
  · exact processShipments_ids _ _ _ _
  · rfl

theorem atStation_orders (s : LoopState) (i : Nat) (happens : WorkCenter → Bool)
    (change : WorkCenter → WorkCenter) :
    (s.atStation i happens change).factory.orders = s.factory.orders ∧
      (s.atStation i happens change).orderCounter = s.orderCounter := by
  unfold LoopState.atStation
  split <;> exact ⟨rfl,rfl⟩

/-- Only a new order changes the ids, and it comes after the others. -/
theorem apply_ids (s : LoopState) (e : LoopEvent) :
    (ids (e.apply s).factory.orders = ids s.factory.orders ∧
      (e.apply s).orderCounter = s.orderCounter) ∨
    (ids (e.apply s).factory.orders =
        ids s.factory.orders ++ [newOrderId (s.orderCounter + 1)] ∧
      (e.apply s).orderCounter = s.orderCounter + 1) := by
  have hstation : ∀ i happens change,
      ids (s.atStation i happens change).factory.orders = ids s.factory.orders ∧
        (s.atStation i happens change).orderCounter = s.orderCounter := by
    intro i happens change
    obtain ⟨horders,hcounter⟩ := atStation_orders s i happens change
    exact ⟨congrArg ids horders,hcounter⟩
  cases e with
  | tick d => exact .inl ⟨runCycle_ids s.factory d.cycle,rfl⟩
  | newOrder o => exact .inr ⟨List.map_append,rfl⟩
  | breakdown i repair => exact .inl (hstation _ _ _)
  | toolWearSpike i spike => exact .inl (hstation _ _ _)
  | qualityDrift i sensor drift => exact .inl (hstation _ _ _)
  | speedRecovery i amount => exact .inl (hstation _ _ _)
  | _ => exact .inl ⟨rfl,rfl⟩

/-! ### Any number of events -/

/-- The ids that a counter has given, after those of the four first orders. -/
def numbered (counter : Nat) : List String :=
  ["PO-HMC-2026-001","PO-KIA-2026-002","PO-GMK-2026-003","PO-RNK-2026-004"] ++
    (List.range' 5 (counter - 4)).map newOrderId

structure Numbered (s : LoopState) : Prop where
  ids : ids s.factory.orders = numbered s.orderCounter
  counter : 4 ≤ s.orderCounter

theorem numbered_succ {counter : Nat} (h : 4 ≤ counter) :
    numbered (counter + 1) = numbered counter ++ [newOrderId (counter + 1)] := by
  have hcount : counter + 1 - 4 = (counter - 4) + 1 := by omega
  have hnext : 5 + (counter - 4) = counter + 1 := by omega
  unfold numbered
  rw [hcount, List.range'_concat, List.map_append, one_mul, hnext, List.append_assoc]
  rfl

theorem apply_numbered (s : LoopState) (e : LoopEvent) (h : Numbered s) :
    Numbered (e.apply s) := by
  have hcounter := h.counter
  rcases apply_ids s e with ⟨hids,hsame⟩ | ⟨hids,hnext⟩
  · exact ⟨hids.trans (hsame ▸ h.ids),hsame ▸ hcounter⟩
  · refine ⟨?_,by omega⟩
    rw [hids, hnext, numbered_succ hcounter, h.ids]

/-- None of the first four ids is one of the counter's, which are different from each other. -/
theorem numbered_nodup (counter : Nat) : (numbered counter).Nodup := by
  have hfirst : ∀ n, newOrderId n ∉
      ["PO-HMC-2026-001","PO-KIA-2026-002","PO-GMK-2026-003","PO-RNK-2026-004"] := by
    intro n hmem
    have hfourth : (newOrderId n).toList[3]? = some 'N' ∧ (newOrderId n).toList[4]? = some 'E' := by
      unfold newOrderId
      rw [String.toList_append]
      exact ⟨rfl,rfl⟩
    revert hfourth
    simp only [List.mem_cons, List.not_mem_nil, or_false] at hmem
    rcases hmem with h | h | h | h <;> rw [h] <;> decide
  unfold numbered
  rw [List.nodup_append]
  refine ⟨by decide,(List.nodup_map_iff newOrderId_injective).mpr (List.nodup_range' 1),?_⟩
  rintro a ha b hb rfl
  obtain ⟨n,_,rfl⟩ := List.mem_map.mp hb
  exact hfirst n ha

/-- All along a run the orders have different ids and are as many as the counter says, and no
event takes an order away or gives it another id or place. -/
theorem orders_numbered (d : InitDraws) (es : List LoopEvent) :
    Runs.Always LoopEvent.apply (fun s => (ids s.factory.orders).Nodup ∧
      s.factory.orders.length = s.orderCounter) (.new d) es ∧
    Runs.Along LoopEvent.apply (fun s e =>
      ids s.factory.orders <+: ids (e.apply s).factory.orders) (.new d) es := by
  have hstart : Numbered (.new d) := ⟨rfl,le_refl 4⟩
  have halways : Runs.Always LoopEvent.apply Numbered (LoopState.new d) es :=
    Runs.always_invariant apply_numbered hstart
  constructor
  · refine Runs.always_imp apply_numbered (fun s h _ => ?_) hstart halways
    have hlength := congrArg List.length h.ids
    have hcounter := h.counter
    unfold numbered ids at hlength
    simp only [List.length_map, List.length_append, List.length_range', List.length_cons,
      List.length_nil] at hlength
    exact ⟨h.ids ▸ numbered_nodup _,by omega⟩
  · refine Runs.along_of_always (fun s e _ => ?_) halways
    rcases apply_ids s e with ⟨hids,_⟩ | ⟨hids,_⟩
    · exact hids.symm ▸ List.prefix_refl _
    · exact hids.symm ▸ List.prefix_append _ _

end ManufacturingMas.Proofs.OrderNumbers
