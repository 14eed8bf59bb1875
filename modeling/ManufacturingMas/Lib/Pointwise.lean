import Mathlib.Data.List.Forall2

/-! Changes of a list at its positions, as relations between its elements before and after. -/

namespace Pointwise

variable {α β γ : Type*} {R : α → β → Prop} {S : α → γ → Prop} {T : α → α → Prop}
  {xs : List α} {ys : List β}

theorem forall₂_mapIdx {f : Nat → β → γ} (h : List.Forall₂ R xs ys)
    (hf : ∀ i x y, R x y → S x (f i y)) : List.Forall₂ S xs (ys.mapIdx f) := by
  induction h generalizing f with
  | nil => exact .nil
  | cons hxy _ ih =>
    rw [List.mapIdx_cons]
    exact .cons (hf 0 _ _ hxy) (ih fun i x y => hf (i + 1) x y)

theorem forall₂_map {f : α → α} (hf : ∀ x ∈ xs, T x (f x)) : List.Forall₂ T xs (xs.map f) :=
  List.forall₂_map_right_iff.mpr (List.forall₂_same.mpr hf)

theorem forall₂_modify (hrefl : ∀ x, T x x) {f : α → α} {i : Nat}
    (hf : ∀ x, xs[i]? = some x → T x (f x)) : List.Forall₂ T xs (xs.modify i f) := by
  induction xs generalizing i with
  | nil => simp
  | cons x xs ih =>
    cases i with
    | zero => exact .cons (hf x rfl) (List.forall₂_same.mpr fun y _ => hrefl y)
    | succ i => exact .cons (hrefl x) (ih fun y hy => hf y hy)

theorem getElem?_foldl_modify (f : Nat → α → α) (n i : Nat) (xs : List α) :
    ((List.range n).foldl (fun ys j => ys.modify j (f j)) xs)[i]? =
      if i < n then xs[i]?.map (f i) else xs[i]? := by
  induction n with
  | zero => rfl
  | succ n ih =>
    rw [List.range_succ, List.foldl_append, List.foldl_cons, List.foldl_nil, List.getElem?_modify, ih]
    by_cases hi : n = i
    · subst hi
      simp
    · rcases Nat.lt_or_ge i n with hlt | hge
      · simp [hi, hlt, Nat.lt_succ_of_lt hlt]
      · simp [hi, show ¬ i < n by omega, show ¬ i < n + 1 by omega]

/-- The positions can be changed one after another. -/
theorem mapIdx_eq_foldl (f : Nat → α → α) (xs : List α) :
    xs.mapIdx f = (List.range xs.length).foldl (fun ys j => ys.modify j (f j)) xs := by
  apply List.ext_getElem?
  intro i
  rw [getElem?_foldl_modify, List.getElem?_mapIdx]
  split
  · rfl
  · rename_i hge
    rw [List.getElem?_eq_none (by omega)]
    rfl

theorem modify_congr {f g : α → α} {i : Nat} (h : ∀ x, xs[i]? = some x → f x = g x) :
    xs.modify i f = xs.modify i g := by
  apply List.ext_getElem?
  intro j
  rw [List.getElem?_modify, List.getElem?_modify]
  by_cases hj : i = j
  · subst hj
    cases hx : xs[i]? with
    | none => rfl
    | some x => simp [h x hx]
  · simp [hj]

/-- What each change keeps holds after all of them. -/
theorem forall_of_forall₂ {P : α → Prop} {Q : β → Prop} (h : List.Forall₂ R xs ys)
    (keep : ∀ x y, R x y → P x → Q y) (hP : ∀ x ∈ xs, P x) : ∀ y ∈ ys, Q y := by
  induction h with
  | nil => simp
  | cons hxy _ ih =>
    obtain ⟨hx,hxs⟩ := List.forall_mem_cons.mp hP
    exact List.forall_mem_cons.mpr ⟨keep _ _ hxy hx,ih hxs⟩

/-- What each change leaves of its element, all of them leave of the list. -/
theorem map_of_forall₂ {f : α → γ} {g : β → γ} (h : List.Forall₂ R xs ys)
    (same : ∀ x y, R x y → g y = f x) : ys.map g = xs.map f := by
  induction h with
  | nil => rfl
  | cons hxy _ ih => rw [List.map_cons, List.map_cons, same _ _ hxy, ih]

theorem map_mapIdx_same {f : Nat → α → α} {g : α → γ} (same : ∀ i x, g (f i x) = g x)
    (xs : List α) : (xs.mapIdx f).map g = xs.map g := by
  apply List.ext_getElem?
  intro i
  rw [List.getElem?_map, List.getElem?_mapIdx, List.getElem?_map]
  cases xs[i]? with
  | none => rfl
  | some x => exact congrArg some (same i x)

end Pointwise
