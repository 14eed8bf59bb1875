import Mathlib.Data.List.Basic
import Mathlib.Data.List.Induction
import Mathlib.Data.List.Nodup
import ManufacturingMas.Lib.Assoc

/-! Tables that count the occurrences of keys, in the order in which the keys are first met. -/

namespace Tally

variable {κ : Type*} [BEq κ] [LawfulBEq κ] {ks : List κ} {k : κ}

theorem eraseDups_of_mem (h : k ∈ ks) : (ks ++ [k]).eraseDups = ks.eraseDups := by
  simp [List.eraseDups_append, List.removeAll, h]

theorem eraseDups_of_not_mem (h : k ∉ ks) : (ks ++ [k]).eraseDups = ks.eraseDups ++ [k] := by
  simp [List.eraseDups_append, List.removeAll, h, List.eraseDups_cons]

/-- The keys of the table stand in the order in which they are first met. -/
theorem pairwise_idxOf (ks : List κ) :
    ks.eraseDups.Pairwise fun a b => ks.idxOf a < ks.idxOf b := by
  induction ks using List.reverseRecOn with
  | nil => simp
  | append_singleton ks k ih =>
    have hold : ks.eraseDups.Pairwise fun a b => (ks ++ [k]).idxOf a < (ks ++ [k]).idxOf b := by
      refine ih.imp_of_mem fun {a b} ha hb hlt => ?_
      rw [List.idxOf_append_of_mem (List.mem_eraseDups.mp ha),
        List.idxOf_append_of_mem (List.mem_eraseDups.mp hb)]
      exact hlt
    by_cases hk : k ∈ ks
    · rw [eraseDups_of_mem hk]
      exact hold
    · rw [eraseDups_of_not_mem hk, List.pairwise_append]
      refine ⟨hold,List.pairwise_singleton _ _,?_⟩
      intro a ha b hb
      rw [List.mem_singleton.mp hb, List.idxOf_append_of_mem (List.mem_eraseDups.mp ha),
        List.idxOf_append_of_notMem hk]
      have hbefore : ks.idxOf a < ks.length :=
        List.idxOf_lt_length_of_mem (List.mem_eraseDups.mp ha)
      omega

theorem nodup_eraseDups (ks : List κ) : ks.eraseDups.Nodup := by
  refine (pairwise_idxOf ks).imp fun {a b} hlt => ?_
  rintro rfl
  exact Nat.lt_irrefl _ hlt

variable [DecidableEq κ]

/-- One more occurrence of a key. -/
def add (d : List (κ × Nat)) (k : κ) : List (κ × Nat) :=
  Assoc.set d k ((Assoc.get d k).getD 0 + 1)

theorem count_snoc (ks : List κ) (k j : κ) :
    (ks ++ [k]).count j = if j = k then ks.count j + 1 else ks.count j := by
  rw [List.count_append, List.count_singleton]
  by_cases hjk : j = k
  · simp [hjk]
  · simp [hjk, Ne.symm hjk]

/-- The table of a list: each key with the number of its occurrences. -/
theorem foldl_add (ks : List κ) :
    ks.foldl add [] = ks.eraseDups.map fun k => (k, ks.count k) := by
  induction ks using List.reverseRecOn with
  | nil => simp
  | append_singleton ks k ih =>
    rw [List.foldl_append, List.foldl_cons, List.foldl_nil, ih, add]
    by_cases hk : k ∈ ks
    · have hmem := List.mem_eraseDups.mpr hk
      rw [Assoc.get_table, if_pos hmem, Assoc.set_table_of_mem _ (nodup_eraseDups ks) hmem,
        eraseDups_of_mem hk]
      refine List.map_congr_left fun j _ => ?_
      rw [count_snoc]
      split
      · rename_i heq
        rw [heq]
        rfl
      · rfl
    · have hmem : k ∉ ks.eraseDups := fun h => hk (List.mem_eraseDups.mp h)
      rw [Assoc.get_table, if_neg hmem, Assoc.set_table_of_not_mem _ hmem, eraseDups_of_not_mem hk,
        List.map_append, List.map_singleton, count_snoc, if_pos rfl, List.count_eq_zero.mpr hk]
      congr 1
      refine List.map_congr_left fun j hj => ?_
      have hjk : j ≠ k := fun heq => hmem (heq ▸ hj)
      rw [count_snoc, if_neg hjk]

end Tally
