import Mathlib.Data.List.Perm.Basic
import ManufacturingMas.Lib.Assoc

/-! Steps that may raise, one after another and over a list; and a workflow graph without
branches: named nodes, one edge out of each place, and a state to which every node contributes
entries. -/

namespace Traverse

variable {ε α β : Type} {f : α → Except ε β} {xs ys : List α} {as : List β}

/-- A sequence of two steps ends well if both do. -/
theorem bind_ok_iff {x : Except ε α} {b : β} : x >>= f = .ok b ↔ ∃ a, x = .ok a ∧ f a = .ok b := by
  cases x with
  | error e =>
    constructor
    · intro h
      cases h
    · rintro ⟨a,ha,_⟩
      cases ha
  | ok a =>
    constructor
    · intro h
      exact ⟨a,rfl,h⟩
    · rintro ⟨_,ha,h⟩
      cases ha
      exact h

theorem mapM_ok_iff : xs.mapM f = .ok as ↔ List.Forall₂ (fun x a => f x = .ok a) xs as := by
  induction xs generalizing as with
  | nil =>
    rw [List.forall₂_nil_left_iff]
    constructor
    · intro h
      cases h
      rfl
    · intro h
      rw [h]
      rfl
  | cons x xs ih =>
    rw [List.mapM_cons, List.forall₂_cons_left_iff]
    cases hx : f x with
    | error e =>
      constructor
      · intro h
        cases h
      · rintro ⟨a,_,ha,_⟩
        cases ha
    | ok a =>
      cases hxs : xs.mapM f with
      | error e =>
        constructor
        · intro h
          cases h
        · rintro ⟨b,bs,_,hbs,_⟩
          rw [← ih, hxs] at hbs
          cases hbs
      | ok bs =>
        constructor
        · intro h
          cases h
          exact ⟨a,bs,rfl,ih.mp hxs,rfl⟩
        · rintro ⟨b,cs,hb,hcs,rfl⟩
          cases hb
          rw [← ih, hxs] at hcs
          cases hcs
          rfl

/-- Another order of the same elements raises no new error. -/
theorem mapM_perm (h : xs.mapM f = .ok as) (hperm : ys.Perm xs) :
    ∃ bs, ys.mapM f = .ok bs ∧ bs.Perm as := by
  obtain ⟨bs,hbs,hsame⟩ := List.perm_comp_forall₂ hperm (mapM_ok_iff.mp h)
  exact ⟨bs,mapM_ok_iff.mpr hbs,hsame⟩

/-! ### Elements of related lists -/

variable {R : α → β → Prop}

theorem exists_left (h : List.Forall₂ R xs as) {a : β} (ha : a ∈ as) : ∃ x ∈ xs, R x a := by
  induction h with
  | nil => cases ha
  | cons hfirst _ ih =>
    rcases List.mem_cons.mp ha with rfl | ha
    · exact ⟨_,List.mem_cons_self,hfirst⟩
    · obtain ⟨x,hx,hxa⟩ := ih ha
      exact ⟨x,List.mem_cons_of_mem _ hx,hxa⟩

theorem exists_zip (h : List.Forall₂ R xs as) {x : α} (hx : x ∈ xs) :
    ∃ a, (x, a) ∈ xs.zip as ∧ R x a := by
  induction h with
  | nil => cases hx
  | cons hfirst _ ih =>
    rcases List.mem_cons.mp hx with rfl | hx
    · exact ⟨_,List.mem_cons_self,hfirst⟩
    · obtain ⟨a,ha,hxa⟩ := ih hx
      exact ⟨a,List.mem_cons_of_mem _ ha,hxa⟩

end Traverse

universe u

inductive Place (ν : Type u) where
  | start
  | node (n : ν)
  | stop
deriving DecidableEq

/-- A node reads the state and returns the entries it sets. -/
structure StateGraph (ν κ α : Type) (m : Type → Type) where
  nodes : List (ν × (List (κ × α) → m (List (κ × α))))
  edges : List (Place ν × Place ν)

namespace StateGraph

section
variable {ν κ α : Type} {m : Type → Type} [DecidableEq ν] [DecidableEq κ] [Monad m]

/-- The nodes met on the way along the edges. -/
def path (edges : List (Place ν × Place ν)) : Nat → Place ν → List ν
  | 0, _ => []
  | fuel + 1, p =>
    match Assoc.get edges p with
    | some (.node n) => n :: path edges fuel (.node n)
    | _ => []

/-- Runs the nodes once each in the given order and merges what they return. -/
def runNodes (g : StateGraph ν κ α m) : List ν → List (κ × α) → m (List (κ × α))
  | [], state => pure state
  | n :: ns, state =>
    match Assoc.get g.nodes n with
    | some body => do
      let entries ← body state
      runNodes g ns (Assoc.update state entries)
    | none => runNodes g ns state

def invoke (g : StateGraph ν κ α m) (state : List (κ × α)) : m (List (κ × α)) :=
  g.runNodes (path g.edges g.edges.length .start) state

end

end StateGraph
