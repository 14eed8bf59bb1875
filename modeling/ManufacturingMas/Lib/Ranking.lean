import Mathlib.Data.List.Sort

/-! Stable sorting from the largest key to the smallest, for comparisons that are
an order on the keys that occur, if not on all. -/

namespace Ranking

variable {α κ ν : Type}

/-- A stable sort from the largest key to the smallest. -/
def sortDescending (lt : κ → κ → Bool) (key : α → κ) (xs : List α) : List α :=
  xs.insertionSort fun x y => lt (key x) (key y) = false

/-- No element has one after it with a larger key. -/
def Ranked (lt : κ → κ → Bool) (key : α → κ) (xs : List α) : Prop :=
  xs.Pairwise fun x y => lt (key x) (key y) = false

theorem sortDescending_perm (lt : κ → κ → Bool) (key : α → κ) (xs : List α) :
    (sortDescending lt key xs).Perm xs := List.perm_insertionSort _ _

/-- Sorting changes nothing where no larger key comes later, whatever the comparison. -/
theorem Ranked.sortDescending_eq {lt : κ → κ → Bool} {key : α → κ} {xs : List α}
    (h : Ranked lt key xs) : sortDescending lt key xs = xs := h.insertionSort_eq

/-- The result is ranked where the comparison is that of a measure in a linear order. -/
theorem ranked_sortDescending [LinearOrder ν] {lt : κ → κ → Bool} {key : α → κ} {xs : List α}
    (measure : α → ν) (h : ∀ x ∈ xs, ∀ y ∈ xs, lt (key x) (key y) = true ↔ measure x < measure y) :
    Ranked lt key (sortDescending lt key xs) := by
  have hmap : (sortDescending lt key xs).map measure = (xs.map measure).insertionSort (· ≥ ·) := by
    refine List.map_insertionSort _ (· ≥ ·) measure xs fun x hx y hy => ?_
    rw [← Bool.not_eq_true, h x hx y hy, not_lt]
  have hsorted : ((sortDescending lt key xs).map measure).Pairwise (· ≥ ·) := by
    rw [hmap]
    exact List.pairwise_insertionSort (· ≥ ·) _
  rw [List.pairwise_map] at hsorted
  refine hsorted.imp_of_mem fun {x y} hx hy hge => ?_
  have hx := (sortDescending_perm lt key xs).mem_iff.mp hx
  have hy := (sortDescending_perm lt key xs).mem_iff.mp hy
  rw [← Bool.not_eq_true, h x hx y hy, not_lt]
  exact hge

/-- Elements that tie only with themselves have one ranking. -/
theorem Ranked.eq_of_perm {lt : κ → κ → Bool} {key : α → κ} {xs ys : List α}
    (hxs : Ranked lt key xs) (hys : Ranked lt key ys) (hperm : xs.Perm ys)
    (htie : ∀ x ∈ xs, ∀ y ∈ xs, lt (key x) (key y) = false → lt (key y) (key x) = false → x = y) :
    xs = ys := by
  refine List.Perm.eq_of_pairwise ?_ hxs hys hperm
  intro x y hx hy hxy hyx
  exact htie x hx y (hperm.mem_iff.mpr hy) hxy hyx

/-- Nothing ranks above the first element. -/
theorem Ranked.first_maximal {lt : κ → κ → Bool} {key : α → κ} {x : α} {xs : List α}
    (h : Ranked lt key (x :: xs)) (hirr : lt (key x) (key x) = false) :
    ∀ y ∈ x :: xs, lt (key x) (key y) = false := by
  intro y hy
  rcases List.mem_cons.mp hy with rfl | hy
  · exact hirr
  · exact (List.pairwise_cons.mp h).1 y hy

/-! ### Positions in a ranking -/

section
variable [LinearOrder ν] {key : α → ν} {met : α → Nat}

/-- `x` goes before `y`: it has the larger key, or the same and was met earlier. -/
def Ahead (key : α → ν) (met : α → Nat) (x y : α) : Prop :=
  key y < key x ∨ key x = key y ∧ met x < met y

instance (key : α → ν) (met : α → Nat) : DecidableRel (Ahead key met) := fun x y =>
  inferInstanceAs (Decidable (key y < key x ∨ key x = key y ∧ met x < met y))

theorem Ahead.asymm {x y : α} (h : Ahead key met x y) : ¬ Ahead key met y x := by
  rintro (hlt | ⟨heq,hlt⟩)
  · rcases h with h | ⟨h,_⟩
    · exact lt_asymm h hlt
    · exact hlt.ne h
  · rcases h with h | ⟨_,h⟩
    · exact h.ne heq
    · exact Nat.lt_asymm h hlt

/-- What goes before the first of two goes before what that goes before. -/
theorem Ahead.of_le {x y z : α} (hkey : key y ≤ key x) (hmet : met x < met z)
    (h : Ahead key met y z) : Ahead key met x z := by
  have hle : key z ≤ key y := by
    rcases h with h | ⟨h,_⟩
    · exact h.le
    · exact h.ge
  rcases (hle.trans hkey).eq_or_lt with heq | hlt
  · exact .inr ⟨heq.symm,hmet⟩
  · exact .inl hlt

theorem orderedInsert_ahead {x : α} {ys : List α} (hmet : ∀ y ∈ ys, met x < met y)
    (h : ys.Pairwise (Ahead key met)) :
    (ys.orderedInsert (fun x y => decide (key x < key y) = false) x).Pairwise
      (Ahead key met) := by
  induction ys with
  | nil => exact List.pairwise_singleton _ _
  | cons y ys ih =>
    obtain ⟨hy,hys⟩ := List.pairwise_cons.mp h
    obtain ⟨hxy,hrest⟩ := List.forall_mem_cons.mp hmet
    rw [List.orderedInsert_cons]
    split
    · rename_i hle
      have hkey : key y ≤ key x := not_lt.mp (of_decide_eq_false hle)
      refine List.pairwise_cons.mpr ⟨?_,h⟩
      refine List.forall_mem_cons.mpr ⟨?_,fun z hz => (hy z hz).of_le hkey (hrest z hz)⟩
      rcases hkey.eq_or_lt with heq | hlt
      · exact .inr ⟨heq.symm,hxy⟩
      · exact .inl hlt
    · rename_i hnot
      have hlt : key x < key y := by
        by_contra hge
        exact hnot (decide_eq_false hge)
      refine List.pairwise_cons.mpr ⟨?_,ih hrest hys⟩
      intro z hz
      rcases (List.mem_orderedInsert _).mp hz with rfl | hz
      · exact .inl hlt
      · exact hy z hz

/-- The stable sort ranks by the key, and then by what was met earlier. -/
theorem sortDescending_ahead {xs : List α} (h : xs.Pairwise fun x y => met x < met y) :
    (sortDescending (fun a b => decide (a < b)) key xs).Pairwise (Ahead key met) := by
  induction xs with
  | nil => exact List.Pairwise.nil
  | cons x xs ih =>
    obtain ⟨hx,hxs⟩ := List.pairwise_cons.mp h
    have hmem : ∀ y ∈ sortDescending (fun a b => decide (a < b)) key xs, met x < met y :=
      fun y hy => hx y ((sortDescending_perm _ _ _).mem_iff.mp hy)
    exact orderedInsert_ahead hmem (ih hxs)

/-- The first `n` of a ranking are those that fewer than `n` go before. -/
theorem mem_take_iff {R : α → α → Prop} [DecidableRel R] (hasymm : ∀ x y, R x y → ¬ R y x)
    {ys : List α} (h : ys.Pairwise R) {x : α} (hx : x ∈ ys) (n : Nat) :
    x ∈ ys.take n ↔ ys.countP (R · x) < n := by
  induction ys generalizing n with
  | nil => cases hx
  | cons y ys ih =>
    obtain ⟨hy,hys⟩ := List.pairwise_cons.mp h
    cases n with
    | zero => simp
    | succ n =>
      rw [List.take_succ_cons, List.mem_cons, List.countP_cons]
      rcases List.mem_cons.mp hx with rfl | hmem
      · have hself : ¬ R x x := fun hxx => hasymm x x hxx hxx
        have hnone : ys.countP (R · x) = 0 :=
          List.countP_eq_zero.mpr fun z hz => by simpa using hasymm x z (hy z hz)
        simp [hself, hnone]
      · have hyx : R y x := hy x hmem
        have hne : x ≠ y := by
          rintro rfl
          exact hasymm x x hyx hyx
        rw [ih hys hmem]
        simp [hyx, hne]

end

end Ranking
