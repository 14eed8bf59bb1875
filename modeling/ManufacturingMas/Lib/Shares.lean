import Mathlib.Algebra.BigOperators.Group.List.Basic
import Mathlib.Algebra.Order.BigOperators.Group.List
import Mathlib.Algebra.Order.Group.MinMax
import Mathlib.Data.Rat.Cast.Order
import Mathlib.Data.Set.Finite.Lemmas
import Mathlib.Data.Set.Finite.List
import Mathlib.Tactic.Abel
import Mathlib.Tactic.FieldSimp
import Mathlib.Tactic.Linarith
import Mathlib.Tactic.Positivity

/-! Figures of several parts: the shares of what is good in them, pooled; the means of their
figures; the first part of the least figure; and what requests receive that are served in order
from one shared stock. -/

namespace Shares
variable {α : Type*} {good total : α → Int} {x : α} {xs : List α} {m : ℚ}

/-- What is good among all there is, and everything if there is nothing. -/
def share (good total : Int) : ℚ := if 0 < total then (good : ℚ) / total else 1

/-- A part with what is good in it. -/
structure Part (good total : Int) : Prop where
  nonneg : 0 ≤ good
  le : good ≤ total

theorem Part.total_nonneg {g t : Int} (h : Part g t) : 0 ≤ t := h.nonneg.trans h.le

theorem Part.share_nonneg {g t : Int} (h : Part g t) : 0 ≤ share g t := by
  unfold share
  split
  · rename_i hpos
    have hg : (0 : ℚ) ≤ g := by exact_mod_cast h.nonneg
    have ht : (0 : ℚ) < t := by exact_mod_cast hpos
    positivity
  · norm_num

theorem Part.share_le_one {g t : Int} (h : Part g t) : share g t ≤ 1 := by
  unfold share
  split
  · rename_i hpos
    have ht : (0 : ℚ) < t := by exact_mod_cast hpos
    exact (div_le_one ht).mpr (by exact_mod_cast h.le)
  · exact le_refl 1

theorem Part.good_eq {g t : Int} (h : Part g t) : (g : ℚ) = share g t * t := by
  unfold share
  split
  · rename_i hpos
    have ht : (t : ℚ) ≠ 0 := by exact_mod_cast hpos.ne'
    field_simp
  · have hle := h.le
    have hnonneg := h.nonneg
    have hg : g = 0 := by omega
    have ht : t = 0 := by omega
    simp [hg, ht]

theorem part_sum (h : ∀ x ∈ xs, Part (good x) (total x)) :
    Part (xs.map good).sum (xs.map total).sum := by
  induction xs with
  | nil => exact ⟨le_refl 0,le_refl 0⟩
  | cons x xs ih =>
    obtain ⟨hx,hxs⟩ := List.forall_mem_cons.mp h
    have hrest := ih hxs
    simp only [List.map_cons, List.sum_cons]
    exact ⟨add_nonneg hx.nonneg hrest.nonneg,add_le_add hx.le hrest.le⟩

theorem good_sum_ge (h : ∀ x ∈ xs, Part (good x) (total x))
    (hm : ∀ x ∈ xs, m ≤ share (good x) (total x)) :
    m * ((xs.map total).sum : Int) ≤ ((xs.map good).sum : Int) := by
  induction xs with
  | nil => simp
  | cons x xs ih =>
    obtain ⟨hx,hxs⟩ := List.forall_mem_cons.mp h
    obtain ⟨hmx,hmxs⟩ := List.forall_mem_cons.mp hm
    have hrest := ih hxs hmxs
    have htotal : (0 : ℚ) ≤ total x := by exact_mod_cast hx.total_nonneg
    have hfirst : m * total x ≤ good x := hx.good_eq ▸ mul_le_mul_of_nonneg_right hmx htotal
    simp only [List.map_cons, List.sum_cons, Int.cast_add]
    linarith

theorem good_sum_le (h : ∀ x ∈ xs, Part (good x) (total x))
    (hm : ∀ x ∈ xs, share (good x) (total x) ≤ m) :
    ((xs.map good).sum : Int) ≤ m * ((xs.map total).sum : Int) := by
  induction xs with
  | nil => simp
  | cons x xs ih =>
    obtain ⟨hx,hxs⟩ := List.forall_mem_cons.mp h
    obtain ⟨hmx,hmxs⟩ := List.forall_mem_cons.mp hm
    have hrest := ih hxs hmxs
    have htotal : (0 : ℚ) ≤ total x := by exact_mod_cast hx.total_nonneg
    have hfirst : (good x : ℚ) ≤ m * total x := hx.good_eq ▸ mul_le_mul_of_nonneg_right hmx htotal
    simp only [List.map_cons, List.sum_cons, Int.cast_add]
    linarith

/-- The pooled share is no less than every part's. -/
theorem le_pooled (hxs : xs ≠ []) (h : ∀ x ∈ xs, Part (good x) (total x))
    (hm : ∀ x ∈ xs, m ≤ share (good x) (total x)) :
    m ≤ share (xs.map good).sum (xs.map total).sum := by
  have hsum := good_sum_ge h hm
  unfold share
  split
  · rename_i hpos
    have ht : (0 : ℚ) < ((xs.map total).sum : Int) := by exact_mod_cast hpos
    exact (le_div_iff₀ ht).mpr hsum
  · obtain ⟨x,hx⟩ := List.exists_mem_of_ne_nil xs hxs
    exact (hm x hx).trans (h x hx).share_le_one

/-- Some part's share is no less than the pooled one. -/
theorem exists_pooled_le (hxs : xs ≠ []) (h : ∀ x ∈ xs, Part (good x) (total x)) :
    ∃ x ∈ xs, share (xs.map good).sum (xs.map total).sum ≤ share (good x) (total x) := by
  obtain ⟨y,hy⟩ := List.exists_mem_of_ne_nil xs hxs
  obtain ⟨x,hx,hmax⟩ := Set.exists_max_image { x | x ∈ xs } (fun x => share (good x) (total x))
    xs.finite_toSet ⟨y,hy⟩
  refine ⟨x,hx,?_⟩
  have hsum := good_sum_le h hmax
  by_cases hpos : 0 < (xs.map total).sum
  · have ht : (0 : ℚ) < ((xs.map total).sum : Int) := by exact_mod_cast hpos
    have hpooled : share (xs.map good).sum (xs.map total).sum =
        ((xs.map good).sum : Int) / ((xs.map total).sum : Int) := if_pos hpos
    rw [hpooled]
    exact (div_le_iff₀ ht).mpr hsum
  · -- without a total the parts have none either, so each of them is whole
    have hnone : ¬ 0 < total x := by
      have hle := List.single_le_sum (l := xs.map total)
        (fun t ht => by
          obtain ⟨z,hz,rfl⟩ := List.mem_map.mp ht
          exact (h z hz).total_nonneg)
        (total x) (List.mem_map_of_mem hx)
      omega
    rw [share, share, if_neg hpos, if_neg hnone]

/-! ### Means -/

theorem le_mean {qs : List ℚ} (hqs : qs ≠ []) (hm : ∀ q ∈ qs, m ≤ q) : m ≤ qs.sum / qs.length := by
  have hpos : (0 : ℚ) < qs.length := by exact_mod_cast List.length_pos_iff.mpr hqs
  have hsum : (qs.length : ℕ) • m ≤ qs.sum := List.card_nsmul_le_sum qs m hm
  rw [nsmul_eq_mul, mul_comm] at hsum
  exact (le_div_iff₀ hpos).mpr hsum

theorem mean_le {qs : List ℚ} (hqs : qs ≠ []) (hm : ∀ q ∈ qs, q ≤ m) : qs.sum / qs.length ≤ m := by
  have hpos : (0 : ℚ) < qs.length := by exact_mod_cast List.length_pos_iff.mpr hqs
  have hsum : qs.sum ≤ (qs.length : ℕ) • m := List.sum_le_card_nsmul qs m hm
  rw [nsmul_eq_mul, mul_comm] at hsum
  exact (div_le_iff₀ hpos).mpr hsum

/-! ### The first of the least figure -/

section
variable {β : Type*} [LinearOrder β] {figure : α → β} {b y : α}

/-- All parts before it have a larger figure, and none after it a smaller one. -/
def FirstLeast (figure : α → β) (xs : List α) (x : α) : Prop :=
  ∃ before after, xs = before ++ x :: after ∧
    (∀ y ∈ before, figure x < figure y) ∧ ∀ y ∈ after, figure x ≤ figure y

theorem FirstLeast.mem (h : FirstLeast figure xs x) : x ∈ xs := by
  obtain ⟨before,after,rfl,_,_⟩ := h
  exact List.mem_append_right before List.mem_cons_self

theorem FirstLeast.le (h : FirstLeast figure xs x) (hy : y ∈ xs) : figure x ≤ figure y := by
  obtain ⟨before,after,rfl,hbefore,hafter⟩ := h
  rcases List.mem_append.mp hy with hy | hy
  · exact (hbefore y hy).le
  · rcases List.mem_cons.mp hy with rfl | hy
    · exact le_refl _
    · exact hafter y hy

theorem FirstLeast.singleton (x : α) : FirstLeast figure [x] x := ⟨[],[],rfl,by simp,by simp⟩

/-- A part above one of the rest comes before the first of the least. -/
theorem FirstLeast.cons (h : FirstLeast figure (y :: xs) x) (hlt : figure y < figure b) :
    FirstLeast figure (b :: y :: xs) x := by
  have hle := h.le (List.mem_cons_self (a := y) (l := xs))
  obtain ⟨before,after,hsplit,hbefore,hafter⟩ := h
  exact ⟨b :: before,after,congrArg (b :: ·) hsplit,
    List.forall_mem_cons.mpr ⟨hle.trans_lt hlt,hbefore⟩,hafter⟩

/-- A part that is not below the first is never the first of the least. -/
theorem FirstLeast.skip (h : FirstLeast figure (b :: xs) x) (hle : figure b ≤ figure y) :
    FirstLeast figure (b :: y :: xs) x := by
  obtain ⟨before,after,hsplit,hbefore,hafter⟩ := h
  cases before with
  | nil =>
    obtain ⟨rfl,rfl⟩ := List.cons.inj hsplit
    exact ⟨[],y :: xs,rfl,hbefore,List.forall_mem_cons.mpr ⟨hle,hafter⟩⟩
  | cons b' before =>
    obtain ⟨rfl,rfl⟩ := List.cons.inj hsplit
    obtain ⟨hb,hrest⟩ := List.forall_mem_cons.mp hbefore
    exact ⟨b :: y :: before,after,rfl,
      List.forall_mem_cons.mpr ⟨hb,List.forall_mem_cons.mpr ⟨hb.trans_le hle,hrest⟩⟩,hafter⟩

end

end Shares

namespace Serve

variable {α : Type*} [AddCommGroup α] [LinearOrder α]

/-- What each request receives. -/
def serve : α → List α → List α
  | _, [] => []
  | stock, q :: qs => min q stock :: serve (stock - min q stock) qs

/-- Total demand of the requests against the stock: what is missing at the end. -/
def shortage (stock : α) (qs : List α) : α := qs.sum - (serve stock qs).sum

variable [IsOrderedAddMonoid α]

/-- Serving in order hands out the whole demand, or the whole stock. -/
theorem sum_serve {stock : α} {qs : List α} (hs : 0 ≤ stock) (hq : ∀ q ∈ qs, 0 ≤ q) :
    (serve stock qs).sum = min qs.sum stock := by
  induction qs generalizing stock with
  | nil => simp [serve, hs]
  | cons q qs ih =>
    have hrest : 0 ≤ qs.sum := List.sum_nonneg fun x hx => hq x (List.mem_cons_of_mem _ hx)
    have hleft : 0 ≤ stock - min q stock := sub_nonneg.mpr (min_le_right q stock)
    have ih' := ih hleft fun x hx => hq x (List.mem_cons_of_mem _ hx)
    simp only [serve, List.sum_cons, ih']
    rcases le_total q stock with h | h
    · rw [min_eq_left h, ← min_add_add_left]
      congr 1
      abel
    · have hle : stock ≤ q + qs.sum := le_trans h (le_add_of_nonneg_right hrest)
      rw [min_eq_right h, sub_self, min_eq_right hrest, min_eq_right hle, add_zero]

theorem sum_serve_le {stock : α} {qs : List α} (hs : 0 ≤ stock) (hq : ∀ q ∈ qs, 0 ≤ q) :
    (serve stock qs).sum ≤ stock := by
  rw [sum_serve hs hq]
  exact min_le_right _ _

/-- Nothing is missing exactly when the stock covers the whole demand. -/
theorem shortage_eq_zero_iff {stock : α} {qs : List α} (hs : 0 ≤ stock)
    (hq : ∀ q ∈ qs, 0 ≤ q) : shortage stock qs = 0 ↔ qs.sum ≤ stock := by
  rw [shortage, sum_serve hs hq, sub_eq_zero, eq_comm, min_eq_left_iff]

end Serve
