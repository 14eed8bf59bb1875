import Mathlib.Data.List.DropRight
import Mathlib.Data.List.Induction
import ManufacturingMas.Lib.Assoc

/-! Logs: ring buffers and logs that are cut, of which the last few entries are kept; such logs
under keys; and every `n`-th entry of a log. -/

namespace Ring

variable {α : Type*}

/-- An append that drops the oldest entry of a full buffer. -/
def push (size : Nat) (q : List α) (x : α) : List α := (q ++ [x]).rtake size

theorem getLast?_push {size : Nat} (hsize : 0 < size) (q : List α) (x : α) :
    (push size q x).getLast? = some x := by
  unfold push List.rtake
  rw [List.getLast?_drop, List.length_append, List.length_singleton,
    if_neg (show ¬ q.length + 1 ≤ q.length + 1 - size by omega), List.getLast?_concat]

/-- Dropping early what is dropped in the end changes nothing. -/
theorem rtake_append_rtake (size : Nat) (xs ys : List α) :
    (xs.rtake size ++ ys).rtake size = (xs ++ ys).rtake size := by
  simp only [List.rtake_eq_reverse_take_reverse, List.reverse_append, List.reverse_reverse,
    List.take_append, List.take_take]
  congr 3
  omega

/-- A buffer that holds the last of `xs` holds the last of `xs ++ ys` after `ys` is pushed. -/
theorem foldl_push (size : Nat) (xs ys : List α) :
    ys.foldl (push size) (xs.rtake size) = (xs ++ ys).rtake size := by
  induction ys generalizing xs with
  | nil => simp
  | cons y ys ih =>
    have hpush : push size (xs.rtake size) y = (xs ++ [y]).rtake size :=
      rtake_append_rtake size xs [y]
    rw [List.foldl_cons, hpush, ih]
    simp

theorem rtake_min_length (size : Nat) (xs : List α) :
    xs.rtake (min size xs.length) = xs.rtake size := by
  unfold List.rtake
  congr 1
  omega

theorem rtake_rtake (n size : Nat) (xs : List α) :
    (xs.rtake size).rtake n = xs.rtake (min n size) := by
  simp only [List.rtake_eq_reverse_take_reverse, List.reverse_reverse, List.take_take]

theorem rtake_rtake_of_le {m n : Nat} (h : m ≤ n) (xs : List α) :
    (xs.rtake n).rtake m = xs.rtake m := by
  rw [rtake_rtake, min_eq_left h]

theorem length_rtake (n : Nat) (xs : List α) : (xs.rtake n).length = min n xs.length := by
  unfold List.rtake
  rw [List.length_drop]
  omega

theorem length_push_le (size : Nat) (q : List α) (x : α) : (push size q x).length ≤ size := by
  rw [push, length_rtake]
  exact min_le_left _ _

theorem rtake_suffix (n : Nat) (xs : List α) : xs.rtake n <:+ xs := List.drop_suffix _ _

theorem rtake_eq_nil {size : Nat} (hsize : 0 < size) {xs : List α} :
    xs.rtake size = [] ↔ xs = [] := by
  unfold List.rtake
  rw [List.drop_eq_nil_iff]
  constructor
  · intro h
    exact List.eq_nil_of_length_eq_zero (by omega)
  · rintro rfl
    exact Nat.zero_le _

/-! ### Logs that are cut when they grow too long -/

/-- An append that cuts a log of more than `size` entries down to its last `keep`. -/
def pushCut (size keep : Nat) (log : List α) (x : α) : List α :=
  let log := log ++ [x]
  if size < log.length then log.rtake keep else log

variable {size keep n : Nat} {log history xs ys : List α}

theorem pushCut_suffix (h : log <:+ history) (x : α) :
    pushCut size keep log x <:+ history ++ [x] := by
  have happend : log ++ [x] <:+ history ++ [x] := List.suffix_append_self_iff.mpr h
  unfold pushCut
  dsimp only
  split
  · exact (rtake_suffix _ _).trans happend
  · exact happend

theorem mem_of_mem_pushCut {x y : α} (h : y ∈ pushCut size keep log x) : y ∈ log ++ [x] :=
  (pushCut_suffix (List.suffix_refl log) x).subset h

/-- A cut that keeps anything keeps the new entry. -/
theorem mem_pushCut (hkeep : 0 < keep) (log : List α) (x : α) : x ∈ pushCut size keep log x := by
  unfold pushCut
  dsimp only
  split
  · obtain ⟨k,rfl⟩ := Nat.exists_eq_add_of_lt hkeep
    rw [List.rtake_concat_succ]
    exact List.mem_append_right _ List.mem_cons_self
  · exact List.mem_append_right _ List.mem_cons_self

theorem length_pushCut_le (hkeep : keep ≤ size) (log : List α) (x : α) :
    (pushCut size keep log x).length ≤ size := by
  unfold pushCut
  dsimp only
  split
  · rw [length_rtake]
    exact (min_le_left _ _).trans hkeep
  · omega

theorem le_length_pushCut (hkeep : keep ≤ size) (h : min n keep ≤ log.length) (x : α) :
    min (n + 1) keep ≤ (pushCut size keep log x).length := by
  unfold pushCut
  dsimp only
  split
  · rw [length_rtake]
    omega
  · rw [List.length_append, List.length_singleton]
    omega

/-- A log with enough entries ends as the whole history does. -/
theorem rtake_of_suffix (h : xs <:+ ys) (hlen : min ys.length n ≤ xs.length) :
    xs.rtake n = ys.rtake n := by
  obtain ⟨zs,rfl⟩ := h
  rw [List.length_append] at hlen
  have hdrop : zs.length + xs.length - n = zs.length + (xs.length - n) := by omega
  unfold List.rtake
  rw [List.length_append, hdrop, List.drop_length_add_append]

end Ring

namespace History

variable {κ α : Type*} [DecidableEq κ]

/-- What has been recorded under a key. -/
def entries (d : List (κ × List α)) (k : κ) : List α := (Assoc.get d k).getD []

def record (size : Nat) (d : List (κ × List α)) (k : κ) (x : α) : List (κ × List α) :=
  Assoc.set d k (Ring.push size (entries d k) x)

theorem entries_record_self (size : Nat) (d : List (κ × List α)) (k : κ) (x : α) :
    entries (record size d k x) k = Ring.push size (entries d k) x := by
  rw [entries, record, Assoc.get_set_self, Option.getD_some]

theorem entries_record_of_ne {j k : κ} (h : j ≠ k) (size : Nat) (d : List (κ × List α)) (x : α) :
    entries (record size d k x) j = entries d j := by
  rw [entries, record, Assoc.get_set_of_ne h, entries]

/-- No history is longer than `size`. -/
def Within (size : Nat) (d : List (κ × List α)) : Prop := ∀ p ∈ d, p.2.length ≤ size

theorem record_within {size : Nat} {d : List (κ × List α)} (h : Within size d) (k : κ) (x : α) :
    Within size (record size d k x) := by
  intro p hp
  rcases Assoc.mem_set hp with hvalue | hold
  · rw [hvalue]
    exact Ring.length_push_le size _ x
  · exact h p hold

end History

namespace Sampling

variable {α : Type*} {n : Nat}

/-- The elements at positions that `n` divides; `i` is how many came before the list. -/
def everyNth (n : Nat) : Nat → List α → List α
  | _, [] => []
  | i, x :: xs =>
    if (i + 1) % n = 0 then x :: everyNth n (i + 1) xs else everyNth n (i + 1) xs

theorem everyNth_snoc (i : Nat) (xs : List α) (x : α) : everyNth n i (xs ++ [x]) =
    if (i + xs.length + 1) % n = 0 then everyNth n i xs ++ [x] else everyNth n i xs := by
  induction xs generalizing i with
  | nil => simp [everyNth]
  | cons y xs ih =>
    have hshift : i + 1 + xs.length + 1 = i + (y :: xs).length + 1 := by simp; omega
    rw [List.cons_append, everyNth, ih, hshift, everyNth]
    split <;> split <;> rfl

theorem length_everyNth (xs : List α) : (everyNth n 0 xs).length = xs.length / n := by
  induction xs using List.reverseRecOn with
  | nil => simp [everyNth]
  | append_singleton xs x ih =>
    rw [everyNth_snoc, List.length_append, List.length_singleton, Nat.succ_div, Nat.zero_add]
    simp only [Nat.dvd_iff_mod_eq_zero]
    split
    · simp [ih]
    · exact ih

end Sampling
