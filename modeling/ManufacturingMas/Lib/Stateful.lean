import Mathlib.Tactic.TypeStar

/-! Programs with a state and exceptions that keep the state: what one run can
change, whichever way it ends. -/

namespace Stateful

section
variable {ε σ α β τ : Type}

def finalState : EStateM.Result ε σ α → σ
  | .ok _ s => s
  | .error _ s => s

/-- No run of the program, failing or not, changes `π`. -/
def Keeps (π : σ → τ) (x : EStateM ε σ α) : Prop := ∀ s, π (finalState (x s)) = π s

/-- Every run of the program, failing or not, changes `π` by `g`. -/
def Moves (π : σ → τ) (g : τ → τ) (x : EStateM ε σ α) : Prop :=
  ∀ s, π (finalState (x s)) = g (π s)

def ofExcept : Except ε α → EStateM ε σ α
  | .ok a => pure a
  | .error e => throw e

/-- Every run of the program changes `π` by some of `gs`, in order from the
first; a run that returns changes it by all of them. -/
def Stages (π : σ → τ) (gs : List (τ → τ)) (x : EStateM ε σ α) : Prop :=
  ∀ s, ∃ k, π (finalState (x s)) = (gs.take k).foldl (fun t g => g t) (π s) ∧
    ∀ a t, x s = .ok a t → gs.length ≤ k

variable {π : σ → τ} {g : τ → τ} {gs : List (τ → τ)} {x : EStateM ε σ α} {f h : α → EStateM ε σ β}

theorem bind_apply (s : σ) : (x >>= f) s =
    match x s with
    | .ok a t => f a t
    | .error e t => .error e t := rfl

theorem tryCatch_apply (y : ε → EStateM ε σ α) (s : σ) : (tryCatch x y) s =
    match x s with
    | .ok a t => .ok a t
    | .error e t => y e t := by
  change EStateM.tryCatch x y s = _
  unfold EStateM.tryCatch
  dsimp only
  cases x s <;> rfl

theorem ofExcept_bind (r : Except ε α) (s : σ) : (ofExcept r >>= f) s =
    match r with
    | .ok a => f a s
    | .error e => .error e s := by
  cases r <;> rfl

theorem modifyGet_bind (g : σ → α × σ) (s : σ) :
    ((modifyGet g : EStateM ε σ α) >>= f) s = f (g s).1 (g s).2 := rfl

/-- A sequence of two programs ends well if both do. -/
theorem bind_ok_iff {s t : σ} {b : β} :
    (x >>= f) s = .ok b t ↔ ∃ a u, x s = .ok a u ∧ f a u = .ok b t := by
  rw [bind_apply]
  cases hx : x s with
  | ok a u =>
    constructor
    · intro h
      exact ⟨a,u,rfl,h⟩
    · rintro ⟨_,_,ha,h⟩
      cases ha
      exact h
  | error e u =>
    constructor
    · intro h
      cases h
    · rintro ⟨_,_,ha,_⟩
      cases ha

theorem ofExcept_ok_iff {r : Except ε α} {s t : σ} {a : α} :
    (ofExcept r : EStateM ε σ α) s = .ok a t ↔ r = .ok a ∧ s = t := by
  cases r with
  | ok b =>
    constructor
    · intro h
      cases h
      exact ⟨rfl,rfl⟩
    · rintro ⟨h,rfl⟩
      cases h
      rfl
  | error e =>
    constructor
    · intro h
      cases h
    · rintro ⟨h,_⟩
      cases h

/-- Two continuations that agree on every result `x` can return. -/
theorem bind_congr_ok (hx : ∀ s a t, x s = .ok a t → f a = h a) : x >>= f = x >>= h := by
  funext s
  rw [bind_apply, bind_apply]
  cases hs : x s with
  | ok a t => exact congrFun (hx s a t hs) t
  | error e t => rfl

theorem keeps_pure (a : α) : Keeps π (pure a : EStateM ε σ α) := fun _ => rfl

theorem keeps_throw (e : ε) : Keeps π (throw e : EStateM ε σ α) := fun _ => rfl

theorem keeps_ofExcept (r : Except ε α) : Keeps π (ofExcept r : EStateM ε σ α) := by
  cases r with
  | ok a => exact keeps_pure a
  | error e => exact keeps_throw e

theorem keeps_modifyGet {h : σ → α × σ} (hh : ∀ s, π (h s).2 = π s) :
    Keeps π (modifyGet h : EStateM ε σ α) := hh

theorem moves_modify {h : σ → σ} (hh : ∀ s, π (h s) = g (π s)) :
    Moves π g (modify h : EStateM ε σ PUnit) := hh

theorem Keeps.bind (hx : Keeps π x) (hf : ∀ a, Keeps π (f a)) : Keeps π (x >>= f) := by
  intro s
  have hs := hx s
  rw [bind_apply]
  cases hr : x s with
  | ok a t =>
    rw [hr] at hs
    exact (hf a t).trans hs
  | error e t =>
    rw [hr] at hs
    exact hs

/-- What follows a program without changing the state. -/
theorem finalState_bind (hf : ∀ a, Keeps (fun s => s) (f a)) (s : σ) :
    finalState ((x >>= f) s) = finalState (x s) := by
  rw [bind_apply]
  cases x s with
  | ok a t => exact hf a t
  | error e t => rfl

/-- What is computed from something kept is kept. -/
theorem Keeps.map {υ : Type} (hx : Keeps π x) (k : τ → υ) : Keeps (fun s => k (π s)) x :=
  fun s => congrArg k (hx s)

theorem Keeps.tryCatch {y : ε → EStateM ε σ α} (hx : Keeps π x) (hy : ∀ e, Keeps π (y e)) :
    Keeps π (tryCatch x y) := by
  intro s
  have hs := hx s
  rw [tryCatch_apply]
  cases hr : x s with
  | ok a t =>
    rw [hr] at hs
    exact hs
  | error e t =>
    rw [hr] at hs
    exact (hy e t).trans hs

theorem keeps_forM {γ : Type} {body : γ → EStateM ε σ PUnit} (cs : List γ)
    (hb : ∀ c, Keeps π (body c)) : Keeps π (cs.forM body) := by
  induction cs with
  | nil => exact keeps_pure _
  | cons c cs ih => exact (hb c).bind fun _ => ih

/-- What a program changes stays changed if its continuation keeps it. -/
theorem Moves.bind (hx : Moves π g x) (hf : ∀ a, Keeps π (f a)) : Moves π g (x >>= f) := by
  intro s
  have hs := hx s
  rw [bind_apply]
  cases hr : x s with
  | ok a t =>
    rw [hr] at hs
    exact (hf a t).trans hs
  | error e t =>
    rw [hr] at hs
    exact hs

/-- From a state with `P` the program ends in one with `Q`, or raises in one with `E`. -/
def Triple (P : σ → Prop) (x : EStateM ε σ α) (Q : α → σ → Prop) (E : σ → Prop) : Prop :=
  ∀ s, P s →
    match x s with
    | .ok a t => Q a t
    | .error _ t => E t

section triples
variable {P : σ → Prop} {Q : α → σ → Prop} {R : β → σ → Prop} {E : σ → Prop}

theorem triple_pure (a : α) (h : ∀ s, P s → Q a s) : Triple P (pure a : EStateM ε σ α) Q E := h

theorem Triple.bind (hx : Triple P x Q E) (hf : ∀ a, Triple (Q a) (f a) R E) :
    Triple P (x >>= f) R E := by
  intro s hs
  have hpost := hx s hs
  rw [bind_apply]
  cases hr : x s with
  | ok a t =>
    rw [hr] at hpost
    exact hf a t hpost
  | error e t =>
    rw [hr] at hpost
    exact hpost

theorem Triple.mono {P' : σ → Prop} {Q' : α → σ → Prop} {E' : σ → Prop} (hx : Triple P x Q E)
    (hP : ∀ s, P' s → P s) (hQ : ∀ a s, Q a s → Q' a s) (hE : ∀ s, E s → E' s) :
    Triple P' x Q' E' := by
  intro s hs
  have hpost := hx s (hP s hs)
  cases hr : x s with
  | ok a t =>
    rw [hr] at hpost
    exact hQ a t hpost
  | error e t =>
    rw [hr] at hpost
    exact hE t hpost

theorem Triple.tryCatch {y : ε → EStateM ε σ α} {E' : σ → Prop} (hx : Triple P x Q E')
    (hy : ∀ e, Triple E' (y e) Q E) : Triple P (tryCatch x y) Q E := by
  intro s hs
  have hpost := hx s hs
  rw [tryCatch_apply]
  cases hr : x s with
  | ok a t =>
    rw [hr] at hpost
    exact hpost
  | error e t =>
    rw [hr] at hpost
    exact hy e t hpost

/-- What a program keeps may be assumed of it before and after. -/
theorem Keeps.triple {P : τ → Prop} (hx : Keeps π x) (hE : ∀ s, P (π s) → E s) :
    Triple (fun s => P (π s)) x (fun _ s => P (π s)) E := by
  intro s hs
  have hkept : P (π (finalState (x s))) := by
    rw [hx s]
    exact hs
  cases hr : x s with
  | ok a t =>
    rw [hr] at hkept
    exact hkept
  | error e t =>
    rw [hr] at hkept
    exact hE t hkept

/-- Every run of the program, failing or not, keeps `P`. -/
def Preserves (P : σ → Prop) (x : EStateM ε σ α) : Prop := Triple P x (fun _ s => P s) P

theorem Preserves.final (hx : Preserves P x) {s : σ} (hs : P s) : P (finalState (x s)) := by
  have hpost := hx s hs
  cases hr : x s with
  | ok a t =>
    rw [hr] at hpost
    exact hpost
  | error e t =>
    rw [hr] at hpost
    exact hpost

theorem preserves_pure (a : α) : Preserves P (pure a : EStateM ε σ α) := fun _ hs => hs

theorem preserves_modify {h : σ → σ} (hh : ∀ s, P s → P (h s)) :
    Preserves P (modify h : EStateM ε σ PUnit) := hh

theorem preserves_modifyGet {h : σ → α × σ} (hh : ∀ s, P s → P (h s).2) :
    Preserves P (modifyGet h : EStateM ε σ α) := hh

theorem preserves_ofExcept (r : Except ε α) : Preserves P (ofExcept r : EStateM ε σ α) := by
  cases r with
  | ok a => exact preserves_pure a
  | error e => exact fun _ hs => hs

theorem Preserves.bind (hx : Preserves P x) (hf : ∀ a, Preserves P (f a)) :
    Preserves P (x >>= f) := Triple.bind hx hf

/-- A run from any state returns a value with `A`, or raises, which takes `E`. -/
def Returns (x : EStateM ε σ α) (A : α → Prop) (E : Prop) : Prop :=
  Triple (fun _ => True) x (fun a _ => A a) fun _ => E

section
variable {A A' : α → Prop} {B : β → Prop} {E E' : Prop}

theorem returns_pure {a : α} (h : A a) : Returns (pure a : EStateM ε σ α) A E := fun _ _ => h

theorem returns_modify {h : σ → σ} : Returns (modify h : EStateM ε σ PUnit) (fun _ => True) E :=
  fun _ _ => trivial

theorem returns_ofExcept {r : Except ε α} (hA : ∀ a, r = .ok a → A a)
    (hE : ∀ e, r = .error e → E) : Returns (ofExcept r : EStateM ε σ α) A E := by
  intro s _
  cases r with
  | ok a => exact hA a rfl
  | error e => exact hE e rfl

theorem Returns.bind (hx : Returns x A E) (hf : ∀ a, A a → Returns (f a) B E) :
    Returns (x >>= f) B E :=
  Triple.bind (Q := fun a _ => A a) hx fun a s ha => hf a ha s trivial

theorem Returns.mono (hx : Returns x A E) (hA : ∀ a, A a → A' a) (hE : E → E') :
    Returns x A' E' :=
  Triple.mono hx (fun _ h => h) (fun a _ => hA a) fun _ => hE

end

end triples

/-- From `s` the program returns `a` in `t` if `P`, and raises if not. -/
structure Ends (x : EStateM ε σ α) (s : σ) (P : Prop) (a : α) (t : σ) : Prop where
  returns : P → x s = .ok a t
  raises : ¬ P → ∃ e u, x s = .error e u

section ends
variable {P R : Prop} {s t u : σ} {a : α} {b : β}

theorem ends_pure : Ends (pure a : EStateM ε σ α) s True a s :=
  ⟨fun _ => rfl,fun h => absurd trivial h⟩

theorem ends_modify {h : σ → σ} : Ends (modify h : EStateM ε σ PUnit) s True ⟨⟩ (h s) :=
  ⟨fun _ => rfl,fun h => absurd trivial h⟩

theorem ends_get : Ends (get : EStateM ε σ σ) s True s s :=
  ⟨fun _ => rfl,fun h => absurd trivial h⟩

theorem ends_ofExcept {r : Except ε α} (hreturns : P → r = .ok a)
    (hraises : ¬ P → ∃ e, r = .error e) : Ends (ofExcept r : EStateM ε σ α) s P a s := by
  constructor
  · intro hp
    rw [hreturns hp]
    rfl
  · intro hp
    obtain ⟨e,he⟩ := hraises hp
    rw [he]
    exact ⟨e,s,rfl⟩

theorem Ends.bind (hx : Ends x s P a t) (hf : Ends (f a) t R b u) :
    Ends (x >>= f) s (P ∧ R) b u := by
  constructor
  · rintro ⟨hp,hr⟩
    rw [bind_apply, hx.returns hp]
    exact hf.returns hr
  · intro hnot
    rw [bind_apply]
    by_cases hp : P
    · rw [hx.returns hp]
      exact hf.raises fun hr => hnot ⟨hp,hr⟩
    · obtain ⟨e,v,herror⟩ := hx.raises hp
      rw [herror]
      exact ⟨e,v,rfl⟩

theorem Ends.congr (hx : Ends x s P a t) (h : P ↔ R) : Ends x s R a t :=
  ⟨fun hr => hx.returns (h.mpr hr),fun hnot => hx.raises (mt h.mp hnot)⟩

/-- What follows without raising changes the result alone. -/
theorem Ends.map (hx : Ends x s P a t) (k : α → β) :
    Ends (x >>= fun a => pure (k a)) s P (k a) t :=
  (hx.bind (f := fun a => pure (k a)) ends_pure).congr (and_iff_left trivial)

end ends

theorem Keeps.done (hx : Keeps π x) : Stages π [] x := fun s => ⟨0,hx s,fun _ _ _ => Nat.le_refl 0⟩

/-- The first change is made by every run, whatever follows it. -/
theorem Moves.first (hx : Moves π g x) (hf : ∀ a, Stages π gs (f a)) (s : σ) :
    ∃ k, π (finalState ((x >>= f) s)) = ((g :: gs).take (k + 1)).foldl (fun t g => g t) (π s) ∧
      ∀ b t, (x >>= f) s = .ok b t → gs.length ≤ k := by
  have hs := hx s
  rw [bind_apply]
  cases hr : x s with
  | ok a t =>
    rw [hr] at hs
    obtain ⟨k,hk,hall⟩ := hf a t
    exact ⟨k,hk.trans (by rw [show π t = g (π s) from hs]; rfl),hall⟩
  | error e t =>
    rw [hr] at hs
    exact ⟨0,hs,fun _ _ h => by cases h⟩

theorem Moves.stages (hx : Moves π g x) (hf : ∀ a, Stages π gs (f a)) :
    Stages π (g :: gs) (x >>= f) := by
  intro s
  obtain ⟨k,hk,hall⟩ := hx.first hf s
  exact ⟨k + 1,hk,fun b t h => Nat.succ_le_succ (hall b t h)⟩

theorem Keeps.stages (hx : Keeps π x) (hf : ∀ a, Stages π gs (f a)) :
    Stages π gs (x >>= f) := by
  intro s
  have hs := hx s
  rw [bind_apply]
  cases hr : x s with
  | ok a t =>
    rw [hr] at hs
    obtain ⟨k,hk,hall⟩ := hf a t
    exact ⟨k,hk.trans (by rw [show π t = π s from hs]),hall⟩
  | error e t =>
    rw [hr] at hs
    exact ⟨0,hs,fun _ _ h => by cases h⟩

end

end Stateful
