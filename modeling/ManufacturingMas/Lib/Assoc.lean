import Mathlib.Tactic.TypeStar
import Mathlib.Logic.Basic

/-! Finite maps as lists of pairs in insertion order. A key's first entry is the
one that counts. -/

namespace Assoc

section
variable {κ α : Type*} [DecidableEq κ]

def get : List (κ × α) → κ → Option α
  | [], _ => none
  | (j,v) :: d, k => if j = k then some v else get d k

/-- Replaces the entry of a key in place, or adds one at the end. -/
def set : List (κ × α) → κ → α → List (κ × α)
  | [], k, v => [(k,v)]
  | (j,w) :: d, k, v => if j = k then (j,v) :: d else (j,w) :: set d k v

def setDefault (d : List (κ × α)) (k : κ) (v : α) : List (κ × α) :=
  match get d k with
  | some _ => d
  | none => set d k v

/-- Sets every entry of the second map, in its order. -/
def update (d : List (κ × α)) : List (κ × α) → List (κ × α)
  | [] => d
  | (k,v) :: e => update (set d k v) e

end

section
variable {κ α : Type*} [DecidableEq κ] {d e : List (κ × α)} {j k : κ} {v : α}

@[simp] theorem get_nil : get ([] : List (κ × α)) k = none := rfl

@[simp] theorem get_cons (w : α) :
    get ((j,w) :: d) k = if j = k then some w else get d k := rfl

@[simp] theorem get_set_self : get (set d k v) k = some v := by
  induction d with
  | nil => simp [set]
  | cons p d ih =>
    obtain ⟨i,w⟩ := p
    unfold set
    split
    · rename_i h; simp [h]
    · rename_i h; simp [h, ih]

theorem get_set_of_ne (h : j ≠ k) : get (set d k v) j = get d j := by
  induction d with
  | nil => simp [set, h.symm]
  | cons p d ih =>
    obtain ⟨i,w⟩ := p
    unfold set
    split
    · rename_i hi
      subst hi
      simp [h.symm]
    · simp [ih]

/-- Setting a key to what it holds changes nothing. -/
theorem set_of_get (h : get d k = some v) : set d k v = d := by
  induction d with
  | nil => cases h
  | cons p d ih =>
    obtain ⟨i,w⟩ := p
    rw [get_cons] at h
    unfold set
    by_cases hi : i = k
    · rw [if_pos hi] at h ⊢
      cases h
      rfl
    · rw [if_neg hi] at h ⊢
      rw [ih h]

@[simp] theorem set_isEmpty : (set d k v).isEmpty = false := by
  cases d with
  | nil => rfl
  | cons p d =>
    obtain ⟨i,w⟩ := p
    unfold set
    split <;> rfl

theorem set_ne_nil : set d k v ≠ [] := by
  intro hnil
  have hempty := set_isEmpty (d := d) (k := k) (v := v)
  rw [hnil] at hempty
  cases hempty

theorem mem_of_get (h : get d k = some v) : (k,v) ∈ d := by
  induction d with
  | nil => cases h
  | cons p d ih =>
    obtain ⟨i,w⟩ := p
    rw [get_cons] at h
    by_cases hi : i = k
    · rw [if_pos hi] at h
      cases h
      rw [hi]
      exact List.mem_cons_self
    · rw [if_neg hi] at h
      exact List.mem_cons_of_mem _ (ih h)

/-- Where the keys are distinct, every entry counts. -/
theorem get_of_mem (hkeys : (d.map Prod.fst).Nodup) (h : (k,v) ∈ d) : get d k = some v := by
  induction d with
  | nil => cases h
  | cons p d ih =>
    obtain ⟨i,w⟩ := p
    obtain ⟨hi,hkeys⟩ := List.nodup_cons.mp hkeys
    rw [get_cons]
    rcases List.mem_cons.mp h with heq | hmem
    · cases heq
      exact if_pos rfl
    · have hik : i ≠ k := by
        rintro rfl
        exact hi (List.mem_map.mpr ⟨_,hmem,rfl⟩)
      rw [if_neg hik]
      exact ih hkeys hmem

/-- What a map holds after a key is set is the new value or was there before. -/
theorem mem_set {p : κ × α} (h : p ∈ set d k v) : p.2 = v ∨ p ∈ d := by
  induction d with
  | nil =>
    unfold set at h
    rw [List.mem_singleton.mp h]
    exact .inl rfl
  | cons q d ih =>
    obtain ⟨i,w⟩ := q
    unfold set at h
    split at h
    · rcases List.mem_cons.mp h with rfl | hold
      · exact .inl rfl
      · exact .inr (List.mem_cons_of_mem _ hold)
    · rcases List.mem_cons.mp h with rfl | hrest
      · exact .inr (List.mem_cons_self)
      · exact (ih hrest).imp_right (List.mem_cons_of_mem _)

/-- What no entry of the update sets stays as it is. -/
theorem get_update_of_not_mem (h : k ∉ e.map Prod.fst) : get (update d e) k = get d k := by
  induction e generalizing d with
  | nil => rfl
  | cons p e ih =>
    obtain ⟨i,w⟩ := p
    rw [List.map_cons, List.mem_cons, not_or] at h
    unfold update
    rw [ih h.2, get_set_of_ne h.1]

/-- An update whose keys are distinct sets each of them. -/
theorem get_update_of_get (hkeys : (e.map Prod.fst).Nodup) (h : get e k = some v) :
    get (update d e) k = some v := by
  induction e generalizing d with
  | nil => cases h
  | cons p e ih =>
    obtain ⟨i,w⟩ := p
    rw [List.map_cons, List.nodup_cons] at hkeys
    unfold update
    rw [get_cons] at h
    by_cases hi : i = k
    · subst hi
      rw [if_pos rfl] at h
      cases h
      rw [get_update_of_not_mem hkeys.1, get_set_self]
    · rw [if_neg hi] at h
      exact ih hkeys.2 h

/-- An update has the last word where it says something. -/
theorem get_update (d e : List (κ × α)) (k : κ) :
    get (update d e) k = (get (update [] e) k).or (get d k) := by
  induction e generalizing d with
  | nil => rfl
  | cons p e ih =>
    obtain ⟨j,v⟩ := p
    unfold update
    rw [ih (set d j v), ih (set [] j v), Option.or_assoc]
    congr 1
    by_cases hjk : k = j
    · subst hjk
      rw [get_set_self, get_set_self, Option.some_or]
    · rw [get_set_of_ne hjk, get_set_of_ne hjk, get_nil, Option.none_or]

/-- The keys of an update are those that it sets and those that were there. -/
theorem get_update_eq_none_iff :
    get (update d e) k = none ↔ k ∉ e.map Prod.fst ∧ get d k = none := by
  induction e generalizing d with
  | nil => simp [update]
  | cons p e ih =>
    obtain ⟨j,v⟩ := p
    unfold update
    rw [ih, List.map_cons, List.mem_cons, not_or]
    by_cases hjk : k = j
    · subst hjk
      simp
    · rw [get_set_of_ne hjk]
      simp [hjk]

/-- A map shows nothing but an update exactly if that sets every key it had. -/
theorem update_fresh_iff : (∀ k, get (update d e) k = get (update [] e) k) ↔
    ∀ k, get d k ≠ none → k ∈ e.map Prod.fst := by
  constructor
  · intro h k hk
    refine Classical.byContradiction fun hkeys => ?_
    have hnone : get (update [] e) k = none := get_update_eq_none_iff.mpr ⟨hkeys,rfl⟩
    have hboth := (h k).trans hnone
    exact hk (get_update_eq_none_iff.mp hboth).2
  · intro h k
    rw [get_update]
    cases hnew : get (update [] e) k with
    | some v => rfl
    | none =>
      have hkeys := (get_update_eq_none_iff.mp hnew).1
      have hold : get d k = none := Classical.byContradiction fun hk => hkeys (h k hk)
      rw [hold]
      rfl

theorem map_set {β : Type*} (f : α → β) (d : List (κ × α)) (k : κ) (v : α) :
    (set d k v).map (fun p => (p.1, f p.2)) = set (d.map fun p => (p.1, f p.2)) k (f v) := by
  induction d with
  | nil => rfl
  | cons p d ih =>
    obtain ⟨j,w⟩ := p
    rw [List.map_cons]
    unfold set
    by_cases hjk : j = k
    · rw [if_pos hjk, if_pos hjk]
      rfl
    · rw [if_neg hjk, if_neg hjk, List.map_cons, ih]

/-- A map of the values, each with its key, is looked up where it was. -/
theorem get_map {β : Type*} (f : κ → α → β) (d : List (κ × α)) (k : κ) :
    get (d.map fun p => (p.1, f p.1 p.2)) k = (get d k).map (f k) := by
  induction d with
  | nil => rfl
  | cons p d ih =>
    obtain ⟨j,w⟩ := p
    rw [List.map_cons, get_cons, get_cons, ih]
    by_cases hjk : j = k
    · subst hjk
      rw [if_pos rfl, if_pos rfl]
      rfl
    · rw [if_neg hjk, if_neg hjk]

/-! A table of a function on distinct keys. -/

theorem get_table (f : κ → α) (ks : List κ) (k : κ) :
    get (ks.map fun j => (j, f j)) k = if k ∈ ks then some (f k) else none := by
  induction ks with
  | nil => rfl
  | cons j ks ih =>
    rw [List.map_cons, get_cons, ih]
    by_cases hjk : j = k
    · subst hjk
      rw [if_pos rfl, if_pos List.mem_cons_self]
    · have hmem : k ∈ j :: ks ↔ k ∈ ks := by
        rw [List.mem_cons]
        exact or_iff_right (Ne.symm hjk)
      simp only [if_neg hjk, hmem]

theorem set_table_of_not_mem (f : κ → α) {ks : List κ} (hk : k ∉ ks) (v : α) :
    set (ks.map fun j => (j, f j)) k v = (ks.map fun j => (j, f j)) ++ [(k,v)] := by
  induction ks with
  | nil => rfl
  | cons j ks ih =>
    have hjk : j ≠ k := fun heq => hk (heq ▸ List.mem_cons_self)
    rw [List.map_cons, set, if_neg hjk, ih fun h => hk (List.mem_cons_of_mem _ h)]
    rfl

theorem set_table_of_mem (f : κ → α) {ks : List κ} (hks : ks.Nodup) (hk : k ∈ ks) (v : α) :
    set (ks.map fun j => (j, f j)) k v = ks.map fun j => (j, if j = k then v else f j) := by
  induction ks with
  | nil => cases hk
  | cons j ks ih =>
    obtain ⟨hj,hks⟩ := List.nodup_cons.mp hks
    rw [List.map_cons, List.map_cons, set]
    by_cases hjk : j = k
    · subst hjk
      have hrest : ∀ i ∈ ks, (i, f i) = (i, if i = j then v else f i) := by
        intro i hi
        have hij : i ≠ j := fun heq => hj (heq ▸ hi)
        rw [if_neg hij]
      rw [if_pos rfl, if_pos rfl, List.map_congr_left hrest]
    · have hk : k ∈ ks := (List.mem_cons.mp hk).resolve_left (Ne.symm hjk)
      rw [if_neg hjk, if_neg hjk, ih hks hk]

theorem get_setDefault_of_ne (h : j ≠ k) : get (setDefault d k v) j = get d j := by
  unfold setDefault
  split
  · rfl
  · exact get_set_of_ne h

/-- Two maps that agree on a set of keys. -/
def AgreeOn (ks : List κ) (d e : List (κ × α)) : Prop := ∀ k ∈ ks, get d k = get e k

theorem AgreeOn.refl (ks : List κ) (d : List (κ × α)) : AgreeOn ks d d := fun _ _ => rfl

theorem AgreeOn.symm {ks : List κ} (h : AgreeOn ks d e) : AgreeOn ks e d :=
  fun k hk => (h k hk).symm

theorem AgreeOn.mono {js ks : List κ} (h : AgreeOn ks d e) (hsub : ∀ k ∈ js, k ∈ ks) :
    AgreeOn js d e := fun k hk => h k (hsub k hk)

/-- Setting one key to the same value makes the maps agree on it too. -/
theorem AgreeOn.set {ks : List κ} (h : AgreeOn ks d e) (k : κ) (v : α) :
    AgreeOn (k :: ks) (Assoc.set d k v) (Assoc.set e k v) := by
  intro j hj
  by_cases hjk : j = k
  · subst hjk
    simp
  · rw [get_set_of_ne hjk, get_set_of_ne hjk]
    exact h j ((List.mem_cons.mp hj).resolve_left hjk)

/-- A key outside the set may be set to anything. -/
theorem AgreeOn.set_right {ks : List κ} (h : AgreeOn ks d e) {k : κ} (hk : k ∉ ks) (v : α) :
    AgreeOn ks d (Assoc.set e k v) := by
  intro j hj
  have hne : j ≠ k := fun hjk => hk (hjk ▸ hj)
  rw [get_set_of_ne hne]
  exact h j hj

theorem AgreeOn.set_other {ks : List κ} (h : AgreeOn ks d e) {k : κ} (hk : k ∉ ks) (v w : α) :
    AgreeOn ks (Assoc.set d k v) (Assoc.set e k w) :=
  ((h.set_right hk w).symm.set_right hk v).symm

end

/-- A map read through a view is written through it. -/
theorem view_writes {κ α β δ : Type*} [DecidableEq κ] {view : δ → List (κ × α)}
    {write : δ → κ × β → δ} {value : κ × β → α}
    (hwrite : ∀ d p, view (write d p) = set (view d) p.1 (value p)) (d : δ) (ws : List (κ × β)) :
    view (ws.foldl write d) = update (view d) (ws.map fun p => (p.1, value p)) := by
  induction ws generalizing d with
  | nil => rfl
  | cons p ws ih =>
    rw [List.foldl_cons, ih, hwrite]
    rfl

end Assoc
