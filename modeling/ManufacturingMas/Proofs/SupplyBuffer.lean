import ManufacturingMas.Py.FloatOrder
import ManufacturingMas.Proofs.RouterPolicy

/-! The hours of supply that the router reads, against the days of supply of the
materials in a snapshot. -/

namespace ManufacturingMas.Proofs.SupplyBuffer
open Py Intelligence Agents RouterPolicy
open PyFloat (Le NotBelow)

/-! ### The days of supply of a snapshot -/

/-- The days of supply of a material as `float()` reads them, if they are a number. -/
def daysOf (m : Val) : Except PyErr (Option PyFloat) :=
  orOnBadNumber ((getD m.asDict "days_supply" .none).toFloat.map some) none

def numericDays (m : Val) : Option PyFloat :=
  match daysOf m with
  | .ok days => days
  | .error _ => none

def supplyDays (snapshot : Dict) : List PyFloat :=
  match getD snapshot "materials" .none with
  | .dict mats => (mats.map Prod.snd).filterMap numericDays
  | _ => []

def leastDays : List PyFloat → Option PyFloat
  | [] => none
  | d :: ds => some (ds.foldl PyFloat.min d)

/-- What the router reads of an enriched snapshot. -/
def bufferHours (out : Dict) : PyFloat := reading out "material_buffer_hours" 99

/-- The same material, or one with a larger number of days. -/
def Raised (m m' : Val) : Prop :=
  m' = m ∨ ∃ d v x x', m = .dict d ∧ m' = .dict (Assoc.set d "days_supply" v) ∧
    daysOf m = .ok (some x) ∧ daysOf m' = .ok (some x') ∧ Le x x'

/-- The snapshots differ only in that some materials have more days of supply. -/
def MoreSupply (s s' : Dict) : Prop :=
  ∃ mats mats', Assoc.get s "materials" = some (.dict mats) ∧
    s' = Assoc.set s "materials" (.dict mats') ∧
    List.Forall₂ (fun p p' : String × Val => p.1 = p'.1 ∧ Raised p.2 p'.2) mats mats'

/-- More supply is no smaller buffer, the buffer is the least supply, and the rule
that is silent stays so. -/
structure BufferLaw (s s' out out' : Dict) : Prop where
  order : NotBelow (bufferHours out') (bufferHours out)
  least : ∀ d, leastDays (supplyDays s) = some d → bufferHours out = d.mul (.fin 24)
  least' : ∀ d, leastDays (supplyDays s') = some d → bufferHours out' = d.mul (.fin 24)
  rule : saRules out = .ok none → saRules out' = .ok none

/-! ### The fold over the materials -/

def takeHours (least d : PyFloat) : PyFloat := least.min (d.mul (.fin 24))

def hours (ds : List PyFloat) : PyFloat := ds.foldl takeHours (.fin 999)

/-- The replacement of the sentinel. -/
def bufferOf (least : PyFloat) : PyFloat := if least.lt (.fin 999) then least else .fin 99

theorem minSupplyHours_cons (m : Val) (ms : List Val) (least : PyFloat) :
    minSupplyHours (m :: ms) least = daysOf m >>= fun days =>
      match days with
      | some d => minSupplyHours ms (takeHours least d)
      | none => minSupplyHours ms least := by
  unfold daysOf
  cases hdays : getD m.asDict "days_supply" .none with
  | none => simp only [minSupplyHours, hdays]; rfl
  | _ =>
    simp only [minSupplyHours, hdays]
    rfl

/-- The fold goes through unless a number is too large to be converted. -/
theorem minSupplyHours_iff (ms : List Val) (least r : PyFloat) :
    minSupplyHours ms least = .ok r ↔
      (∀ m ∈ ms, ∃ days, daysOf m = .ok days) ∧
        r = (ms.filterMap numericDays).foldl takeHours least := by
  induction ms generalizing least with
  | nil =>
    change Except.ok least = Except.ok r ↔ _
    simp [eq_comm]
  | cons m ms ih =>
    rw [minSupplyHours_cons, Traverse.bind_ok_iff, List.forall_mem_cons]
    constructor
    · intro h
      obtain ⟨days,hdays,hrest⟩ := h
      cases days with
      | none =>
        obtain ⟨hread,hr⟩ := (ih least).mp hrest
        refine ⟨⟨⟨none,hdays⟩,hread⟩,?_⟩
        simpa [numericDays, hdays] using hr
      | some d =>
        obtain ⟨hread,hr⟩ := (ih (takeHours least d)).mp hrest
        refine ⟨⟨⟨some d,hdays⟩,hread⟩,?_⟩
        simpa [numericDays, hdays] using hr
    · intro h
      obtain ⟨⟨⟨days,hdays⟩,hread⟩,hr⟩ := h
      refine ⟨days,hdays,?_⟩
      cases days with
      | none => exact (ih least).mpr ⟨hread,by simpa [numericDays, hdays] using hr⟩
      | some d => exact (ih (takeHours least d)).mpr ⟨hread,by simpa [numericDays, hdays] using hr⟩

/-! ### Both ends of the fold -/

/-- A day's hours are not negative, and not a nan. -/
theorem hours_of_day {d : PyFloat} (h : Le (.fin 0) d) :
    d.mul (.fin 24) = .posInf ∨ ∃ q : ℚ, 0 ≤ q ∧ d.mul (.fin 24) = .fin q := by
  cases d with
  | fin q =>
    have hq : 0 ≤ q := (PyFloat.le_fin 0 q).mp h
    have hlow : ¬ q * 24 ≤ -PyFloat.limit := by
      have hlimit := PyFloat.limit_pos
      have hpos : 0 ≤ q * 24 := by positivity
      linarith
    change PyFloat.ofRat (q * 24) = _ ∨ _
    unfold PyFloat.ofRat
    by_cases hhigh : PyFloat.limit ≤ q * 24
    · exact .inl (if_pos hhigh)
    · exact .inr ⟨q * 24,by positivity,(if_neg hhigh).trans (if_neg hlow)⟩
  | posInf => exact .inl (PyFloat.scaleInf_pos (by norm_num))
  | negInf => simp [Le, PyFloat.le, PyFloat.lt, PyFloat.eq] at h
  | nan => simp [Le, PyFloat.le, PyFloat.lt, PyFloat.eq] at h

/-- The fold's result is its start or the least hours, whichever is smaller. -/
theorem foldl_takeHours {ds : List PyFloat} (hpos : ∀ d ∈ ds, Le (.fin 0) d) (a : ℚ) :
    ∃ h : ℚ, ds.foldl takeHours (.fin a) = .fin h ∧ h ≤ a ∧
      (∀ d ∈ ds, NotBelow (d.mul (.fin 24)) (.fin h)) ∧
      (h = a ∨ ∃ d ∈ ds, d.mul (.fin 24) = .fin h) := by
  induction ds generalizing a with
  | nil => exact ⟨a,rfl,le_refl a,by simp,.inl rfl⟩
  | cons d ds ih =>
    obtain ⟨hd,hpos⟩ := List.forall_mem_cons.mp hpos
    have htake : ∃ b : ℚ, takeHours (.fin a) d = .fin b ∧ b ≤ a ∧
        NotBelow (d.mul (.fin 24)) (.fin b) ∧ (b = a ∨ d.mul (.fin 24) = .fin b) := by
      unfold takeHours PyFloat.min
      rcases hours_of_day hd with hinf | ⟨q,_,hq⟩
      · rw [hinf]
        exact ⟨a,if_neg (by simp [PyFloat.lt]),le_refl a,PyFloat.posInf_notBelow _,.inl rfl⟩
      · rw [hq]
        by_cases hlt : q < a
        · exact ⟨q,if_pos (decide_eq_true hlt),hlt.le,PyFloat.notBelow_self _,.inr rfl⟩
        · refine ⟨a,if_neg (by simp [PyFloat.lt, hlt]),le_refl a,?_,.inl rfl⟩
          rw [PyFloat.notBelow_fin]
          exact not_lt.mp hlt
    obtain ⟨b,hb,hba,hbelow,hsource⟩ := htake
    obtain ⟨h,hfold,hle,hall,hfrom⟩ := ih hpos b
    refine ⟨h,?_,hle.trans hba,?_,?_⟩
    · rw [List.foldl_cons, hb]
      exact hfold
    · refine List.forall_mem_cons.mpr ⟨hbelow.trans ?_ (by simp),hall⟩
      rw [PyFloat.notBelow_fin]
      exact hle
    · rcases hfrom with rfl | ⟨x,hx,hmul⟩
      · rcases hsource with heq | heq
        · exact .inl heq
        · exact .inr ⟨d,List.mem_cons_self,heq⟩
      · exact .inr ⟨x,List.mem_cons_of_mem _ hx,hmul⟩

/-- `min` gives one of its arguments, and neither is below it. -/
theorem min_spec {x y : PyFloat} (hx : x ≠ .nan) (hy : y ≠ .nan) :
    (PyFloat.min x y = x ∨ PyFloat.min x y = y) ∧
      NotBelow x (PyFloat.min x y) ∧ NotBelow y (PyFloat.min x y) := by
  unfold PyFloat.min
  by_cases hlt : y.lt x = true
  · rw [if_pos hlt]
    refine ⟨.inr rfl,?_,PyFloat.notBelow_self y⟩
    cases x <;> cases y <;> simp_all [NotBelow, PyFloat.lt]
    exact hlt.le
  · rw [if_neg hlt]
    exact ⟨.inl rfl,PyFloat.notBelow_self x,by simpa [NotBelow] using hlt⟩

theorem foldl_min_spec {ds : List PyFloat} {first : PyFloat} (hfirst : first ≠ .nan)
    (hds : ∀ d ∈ ds, d ≠ .nan) :
    ds.foldl PyFloat.min first ∈ first :: ds ∧
      ∀ x ∈ first :: ds, NotBelow x (ds.foldl PyFloat.min first) := by
  induction ds generalizing first with
  | nil => exact ⟨List.mem_cons_self,by simp [PyFloat.notBelow_self]⟩
  | cons y ds ih =>
    obtain ⟨hy,hds⟩ := List.forall_mem_cons.mp hds
    obtain ⟨hsource,hbelow,hbelow'⟩ := min_spec hfirst hy
    have hmin : PyFloat.min first y ≠ .nan := by
      rcases hsource with heq | heq
      · rwa [heq]
      · rwa [heq]
    obtain ⟨hmem,hall⟩ := ih hmin hds
    obtain ⟨hstart,hall⟩ := List.forall_mem_cons.mp hall
    rw [List.foldl_cons]
    constructor
    · rcases List.mem_cons.mp hmem with heq | hmem
      · rcases hsource with hs | hs
        · rw [heq, hs]
          exact List.mem_cons_self
        · rw [heq, hs]
          exact List.mem_cons_of_mem _ List.mem_cons_self
      · exact List.mem_cons_of_mem _ (List.mem_cons_of_mem _ hmem)
    · refine List.forall_mem_cons.mpr ⟨hbelow.trans hstart hmin,?_⟩
      exact List.forall_mem_cons.mpr ⟨hbelow'.trans hstart hmin,hall⟩

theorem not_nan_of_nonneg {d : PyFloat} (h : Le (.fin 0) d) : d ≠ .nan := by
  rintro rfl
  simp [Le, PyFloat.le, PyFloat.lt, PyFloat.eq] at h

theorem leastDays_spec {ds : List PyFloat} (hpos : ∀ d ∈ ds, Le (.fin 0) d) {d : PyFloat}
    (h : leastDays ds = some d) : d ∈ ds ∧ ∀ x ∈ ds, NotBelow x d := by
  cases ds with
  | nil => cases h
  | cons first ds =>
    cases h
    obtain ⟨hfirst,hds⟩ := List.forall_mem_cons.mp hpos
    exact foldl_min_spec (not_nan_of_nonneg hfirst) fun d hd => not_nan_of_nonneg (hds d hd)

/-- The fold finds the least hours exactly if they are below its sentinel. -/
theorem hours_least {ds : List PyFloat} (hpos : ∀ d ∈ ds, Le (.fin 0) d) {d : PyFloat}
    (hleast : leastDays ds = some d) {h : ℚ} (hh : hours ds = .fin h) :
    ((d.mul (.fin 24)).lt (.fin 999) = true ↔ h < 999) ∧
      (h < 999 → d.mul (.fin 24) = .fin h) := by
  obtain ⟨hmem,hbelow⟩ := leastDays_spec hpos hleast
  obtain ⟨h',hfold,hle,hall,hfrom⟩ := foldl_takeHours hpos 999
  obtain rfl : h' = h := by
    have heq := hfold.symm.trans hh
    rwa [PyFloat.fin.injEq] at heq
  have hmin : ∀ x ∈ ds, NotBelow (x.mul (.fin 24)) (d.mul (.fin 24)) := fun x hx =>
    (hbelow x hx).mul_right (by simp)
  have hsmall : h' < 999 → d.mul (.fin 24) = .fin h' := by
    intro hlt
    obtain ⟨x,hx,hmul⟩ := hfrom.resolve_left hlt.ne
    have hup := hmin x hx
    rw [hmul] at hup
    have hdown := hall d hmem
    rcases hours_of_day (hpos d hmem) with hinf | ⟨q,_,hq⟩
    · rw [hinf] at hup
      exact absurd hup (PyFloat.not_fin_notBelow h')
    · rw [hq, PyFloat.notBelow_fin] at hup hdown
      rw [hq, le_antisymm hup hdown]
  refine ⟨⟨fun hlt => ?_,fun hlt => ?_⟩,hsmall⟩
  · have hdown := hall d hmem
    rcases hours_of_day (hpos d hmem) with hinf | ⟨q,_,hq⟩
    · rw [hinf] at hlt
      cases hlt
    · rw [hq] at hlt hdown
      rw [PyFloat.notBelow_fin] at hdown
      exact lt_of_le_of_lt hdown (by simpa [PyFloat.lt] using hlt)
  · rw [hsmall hlt]
    exact decide_eq_true hlt

theorem hours_of_none {ds : List PyFloat} (h : leastDays ds = none) : hours ds = .fin 999 := by
  cases ds with
  | nil => rfl
  | cons d ds => cases h

/-- Hours below the sentinel are those of a material. -/
theorem least_of_hours {ds : List PyFloat} {h : ℚ} (hh : hours ds = .fin h) (hlt : h < 999) :
    leastDays ds ≠ none := by
  intro hnone
  have hsentinel := hours_of_none hnone
  rw [hh, PyFloat.fin.injEq] at hsentinel
  exact absurd hlt (not_lt.mpr hsentinel.ge)

theorem bufferOf_fin (h : ℚ) : bufferOf (.fin h) = if h < 999 then .fin h else .fin 99 := by
  unfold bufferOf
  by_cases hlt : h < 999
  · rw [if_pos hlt, if_pos (show (PyFloat.fin h).lt (.fin 999) = true from decide_eq_true hlt)]
  · rw [if_neg hlt, if_neg (by simpa [PyFloat.lt] using hlt)]

theorem exists_left {α β : Type} {R : α → β → Prop} {xs : List α} {ys : List β}
    (h : List.Forall₂ R xs ys) {y : β} (hy : y ∈ ys) : ∃ x ∈ xs, R x y := by
  induction h with
  | nil => cases hy
  | cons hxy _ ih =>
    rcases List.mem_cons.mp hy with rfl | hy
    · exact ⟨_,List.mem_cons_self,hxy⟩
    · obtain ⟨x,hx,hr⟩ := ih hy
      exact ⟨x,List.mem_cons_of_mem _ hx,hr⟩

/-- More days are no fewer hours. -/
theorem hours_mono {ds ds' : List PyFloat} (hmore : List.Forall₂ Le ds ds')
    (hpos : ∀ d ∈ ds, Le (.fin 0) d) (hpos' : ∀ d ∈ ds', Le (.fin 0) d) {h h' : ℚ}
    (hh : hours ds = .fin h) (hh' : hours ds' = .fin h') : h ≤ h' := by
  obtain ⟨a,hfold,hle,hall,_⟩ := foldl_takeHours hpos 999
  obtain ⟨a',hfold',_,_,hfrom'⟩ := foldl_takeHours hpos' 999
  have heq := hfold.symm.trans hh
  have heq' := hfold'.symm.trans hh'
  rw [PyFloat.fin.injEq] at heq heq'
  subst heq
  subst heq'
  rcases hfrom' with rfl | ⟨d',hd',hmul⟩
  · exact hle
  · obtain ⟨d,hd,hdd⟩ := exists_left hmore hd'
    have hup : NotBelow (d'.mul (.fin 24)) (d.mul (.fin 24)) := hdd.notBelow.mul_right (by simp)
    rw [hmul] at hup
    have hdown := hall d hd
    rcases hours_of_day (hpos d hd) with hinf | ⟨q,_,hq⟩
    · rw [hinf] at hup
      exact absurd hup (PyFloat.not_fin_notBelow a')
    · rw [hq, PyFloat.notBelow_fin] at hup hdown
      exact hdown.trans hup

/-! ### The enrichment -/

theorem materials_read {s mats : Dict} (h : Assoc.get s "materials" = some (.dict mats)) :
    (getD s "materials" .none).orElse (.dict []) = .dict mats ∧
      supplyDays s = (mats.map Prod.snd).filterMap numericDays := by
  have hget : getD s "materials" .none = .dict mats := getD_of_some h _
  unfold supplyDays
  rw [hget]
  refine ⟨?_,rfl⟩
  cases mats with
  | nil => rfl
  | cons p mats => rfl

/-- What the router reads of an enriched snapshot, and which materials could be read. -/
theorem enrich_reads {s out mats : Dict} (hmats : Assoc.get s "materials" = some (.dict mats))
    (h : enrichSnapshotForRouter s = .ok out) :
    bufferHours out = bufferOf (hours (supplyDays s)) ∧
      ∀ m ∈ mats.map Prod.snd, ∃ days, daysOf m = .ok days := by
  obtain ⟨hread,hdays⟩ := materials_read hmats
  unfold enrichSnapshotForRouter at h
  simp only [Traverse.bind_ok_iff] at h
  obtain ⟨_,_,_,_,_,_,_,_,_,_,_,_,values,hvalues,least,hleast,h⟩ := h
  rw [hread] at hvalues
  cases hvalues
  cases h
  obtain ⟨hall,hfold⟩ := (minSupplyHours_iff _ _ _).mp hleast
  refine ⟨?_,hall⟩
  unfold bufferHours reading
  rw [getD_set_self, hdays]
  subst hfold
  rfl

/-- The enrichment does not depend on the materials otherwise. -/
theorem enrich_other_materials {s out mats' : Dict} (h : enrichSnapshotForRouter s = .ok out)
    (hread : ∀ m ∈ mats'.map Prod.snd, ∃ days, daysOf m = .ok days) :
    ∃ out', enrichSnapshotForRouter (Assoc.set s "materials" (.dict mats')) = .ok out' := by
  have hset : Assoc.get (Assoc.set s "materials" (.dict mats')) "materials" =
      some (.dict mats') := Assoc.get_set_self
  obtain ⟨hread',_⟩ := materials_read hset
  have hstations : getD (Assoc.set s "materials" (.dict mats')) "stations" .none =
      getD s "stations" .none := getD_set_of_ne (by decide) _ _
  unfold enrichSnapshotForRouter at h ⊢
  simp only [Traverse.bind_ok_iff] at h ⊢
  obtain ⟨wc01,hwc01,sensors,hsensors,vib,hvib,vibration,hvibration,oil,hoil,oilTemp,hoilTemp,_⟩ := h
  rw [hread', hstations]
  exact ⟨_,wc01,hwc01,sensors,hsensors,vib,hvib,vibration,hvibration,oil,hoil,oilTemp,hoilTemp,
    _,rfl,_,(minSupplyHours_iff _ _ _).mpr ⟨hread,rfl⟩,rfl⟩

/-- The silent rule is a buffer of an hour at least. -/
theorem saRules_silent_iff {s out : Dict} (h : enrichSnapshotForRouter s = .ok out) :
    saRules out = .ok none ↔ NotBelow (bufferHours out) (.fin 1) := by
  unfold NotBelow bufferHours
  rcases saRules_finds (enriched_numeric h) with ⟨hno,hnone⟩ | ⟨hyes,result,hsome,_⟩
  · exact iff_of_true hnone (Bool.not_eq_true _ ▸ hno)
  · rw [hsome, hyes]
    simp

theorem le_self {x : PyFloat} (h : Le (.fin 0) x) : Le x x := by
  cases x <;> simp_all [Le, PyFloat.le, PyFloat.lt, PyFloat.eq]

/-- Materials with more days stay readable, and no number of days gets smaller. -/
theorem raised_days {ms ms' : List Val} (h : List.Forall₂ Raised ms ms')
    (hread : ∀ m ∈ ms, ∃ days, daysOf m = .ok days)
    (hpos : ∀ x ∈ ms.filterMap numericDays, Le (.fin 0) x) :
    (∀ m ∈ ms', ∃ days, daysOf m = .ok days) ∧
      List.Forall₂ Le (ms.filterMap numericDays) (ms'.filterMap numericDays) := by
  induction h with
  | nil => exact ⟨by simp,.nil⟩
  | @cons m m' ms ms' hraised _ ih =>
    obtain ⟨⟨days,hdays⟩,hrest⟩ := List.forall_mem_cons.mp hread
    rcases hraised with rfl | ⟨d,v,x,x',_,_,hx,hx',hle⟩
    · cases days with
      | none =>
        have hnone : numericDays m' = none := by simp [numericDays, hdays]
        rw [List.filterMap_cons_none hnone] at hpos
        obtain ⟨hread',hmore⟩ := ih hrest hpos
        refine ⟨List.forall_mem_cons.mpr ⟨⟨_,hdays⟩,hread'⟩,?_⟩
        rw [List.filterMap_cons_none hnone, List.filterMap_cons_none hnone]
        exact hmore
      | some y =>
        have hsome : numericDays m' = some y := by simp [numericDays, hdays]
        rw [List.filterMap_cons_some hsome] at hpos
        obtain ⟨hy,hpos⟩ := List.forall_mem_cons.mp hpos
        obtain ⟨hread',hmore⟩ := ih hrest hpos
        refine ⟨List.forall_mem_cons.mpr ⟨⟨_,hdays⟩,hread'⟩,?_⟩
        rw [List.filterMap_cons_some hsome, List.filterMap_cons_some hsome]
        exact .cons (le_self hy) hmore
    · have hsome : numericDays m = some x := by simp [numericDays, hx]
      have hsome' : numericDays m' = some x' := by simp [numericDays, hx']
      rw [List.filterMap_cons_some hsome] at hpos
      obtain ⟨_,hpos⟩ := List.forall_mem_cons.mp hpos
      obtain ⟨hread',hmore⟩ := ih hrest hpos
      refine ⟨List.forall_mem_cons.mpr ⟨⟨_,hx'⟩,hread'⟩,?_⟩
      rw [List.filterMap_cons_some hsome, List.filterMap_cons_some hsome']
      exact .cons hle hmore

theorem leastDays_none_iff {ds ds' : List PyFloat} (h : List.Forall₂ Le ds ds') :
    leastDays ds = none ↔ leastDays ds' = none := by
  cases h with
  | nil => exact Iff.rfl
  | cons _ _ => simp [leastDays]

/-- The buffer is the least supply exactly where that is below the sentinel. -/
theorem bufferOf_least_iff {ds : List PyFloat} (hpos : ∀ d ∈ ds, Le (.fin 0) d) {h : ℚ}
    (hh : hours ds = .fin h) :
    (∀ d, leastDays ds = some d → bufferOf (.fin h) = d.mul (.fin 24)) ↔
      (h < 999 ∨ leastDays ds = none) := by
  cases hleast : leastDays ds with
  | none => exact iff_of_true (fun d hd => by cases hd) (.inr rfl)
  | some d =>
    obtain ⟨hbelow,hvalue⟩ := hours_least hpos hleast hh
    rw [bufferOf_fin]
    constructor
    · intro heq
      have hd := heq d rfl
      by_contra hnot
      have hlt : ¬ h < 999 := fun hlt => hnot (.inl hlt)
      rw [if_neg hlt] at hd
      rw [← hd] at hbelow
      exact hlt (hbelow.mp (decide_eq_true (by norm_num : (99 : ℚ) < 999)))
    · intro hcases d' hd'
      cases hd'
      have hlt : h < 999 := hcases.resolve_right (by simp)
      rw [if_pos hlt, hvalue hlt]

theorem bufferOf_order_iff {h h' : ℚ} (hle : h ≤ h') :
    NotBelow (bufferOf (.fin h')) (bufferOf (.fin h)) ↔ (99 < h → h < 999 → h' < 999) := by
  rw [bufferOf_fin, bufferOf_fin]
  by_cases hlt : h < 999
  · by_cases hlt' : h' < 999
    · rw [if_pos hlt, if_pos hlt', PyFloat.notBelow_fin]
      exact iff_of_true hle fun _ _ => hlt'
    · rw [if_pos hlt, if_neg hlt', PyFloat.notBelow_fin]
      constructor
      · intro hsmall hlarge
        exact absurd hsmall (not_le.mpr hlarge)
      · intro himp
        by_contra hlarge
        exact hlt' (himp (not_le.mp hlarge) hlt)
  · have hlt' : ¬ h' < 999 := fun hc => hlt (lt_of_le_of_lt hle hc)
    rw [if_neg hlt, if_neg hlt', PyFloat.notBelow_fin]
    exact iff_of_true (le_refl _) fun _ hc => absurd hc hlt

theorem bufferOf_silent {h h' : ℚ} (hle : h ≤ h')
    (hsilent : NotBelow (bufferOf (.fin h)) (.fin 1)) : NotBelow (bufferOf (.fin h')) (.fin 1) := by
  rw [bufferOf_fin] at hsilent ⊢
  by_cases hlt' : h' < 999
  · rw [if_pos (lt_of_le_of_lt hle hlt'), PyFloat.notBelow_fin] at hsilent
    rw [if_pos hlt', PyFloat.notBelow_fin]
    exact hsilent.trans hle
  · rw [if_neg hlt', PyFloat.notBelow_fin]
    norm_num

/-- The least supply is within the sentinel exactly if the fold is, where there is any. -/
theorem least_within_iff {ds : List PyFloat} (hpos : ∀ d ∈ ds, Le (.fin 0) d) {h : ℚ}
    (hh : hours ds = .fin h) :
    (∀ d, leastDays ds = some d → (d.mul (.fin 24)).lt (.fin 999) = true) ↔
      (h < 999 ∨ leastDays ds = none) := by
  cases hleast : leastDays ds with
  | none => exact iff_of_true (fun d hd => by cases hd) (.inr rfl)
  | some d =>
    have hiff := (hours_least hpos hleast hh).1
    constructor
    · exact fun hall => .inl (hiff.mp (hall d rfl))
    · intro hcases d' hd'
      cases hd'
      exact hiff.mpr (hcases.resolve_right (by simp))

theorem least_order_iff {ds ds' : List PyFloat} (hle : List.Forall₂ Le ds ds')
    (hpos : ∀ d ∈ ds, Le (.fin 0) d) (hpos' : ∀ d ∈ ds', Le (.fin 0) d) {h h' : ℚ}
    (hh : hours ds = .fin h) (hh' : hours ds' = .fin h') :
    (99 < h → h < 999 → h' < 999) ↔ ∀ d d', leastDays ds = some d → leastDays ds' = some d' →
      PyFloat.lt (.fin 99) (d.mul (.fin 24)) = true →
        (d.mul (.fin 24)).lt (.fin 999) = true → (d'.mul (.fin 24)).lt (.fin 999) = true := by
  constructor
  · intro himp d d' hd hd' hlarge hbelow
    obtain ⟨hiff,hvalue⟩ := hours_least hpos hd hh
    have hlt := hiff.mp hbelow
    rw [hvalue hlt] at hlarge
    exact (hours_least hpos' hd' hh').1.mpr (himp (by simpa [PyFloat.lt] using hlarge) hlt)
  · intro himp hlarge hlt
    have hsome := least_of_hours hh hlt
    obtain ⟨d,hd⟩ := Option.ne_none_iff_exists'.mp hsome
    obtain ⟨d',hd'⟩ := Option.ne_none_iff_exists'.mp fun hnone =>
      hsome ((leastDays_none_iff hle).mpr hnone)
    obtain ⟨hiff,hvalue⟩ := hours_least hpos hd hh
    refine (hours_least hpos' hd' hh').1.mp (himp d d' hd hd' ?_ (hiff.mpr hlt))
    rw [hvalue hlt]
    exact decide_eq_true hlarge

/-- A snapshot with more supply can be enriched where the other can, and its days of
supply are no fewer. -/
theorem enrich_more {s s' out : Dict} (hmore : MoreSupply s s')
    (hpos : ∀ x ∈ supplyDays s, Le (.fin 0) x) (hout : enrichSnapshotForRouter s = .ok out) :
    ∃ out', enrichSnapshotForRouter s' = .ok out' ∧
      List.Forall₂ Le (supplyDays s) (supplyDays s') ∧
      bufferHours out = bufferOf (hours (supplyDays s)) ∧
      bufferHours out' = bufferOf (hours (supplyDays s')) := by
  obtain ⟨mats,mats',hmats,rfl,hentries⟩ := hmore
  have hmats' := Assoc.get_set_self (d := s) (k := "materials") (v := Val.dict mats')
  obtain ⟨hbuffer,hread⟩ := enrich_reads hmats hout
  have hdays := (materials_read hmats).2
  have hdays' := (materials_read hmats').2
  have hraised : List.Forall₂ Raised (mats.map Prod.snd) (mats'.map Prod.snd) :=
    List.forall₂_map_left_iff.mpr (List.forall₂_map_right_iff.mpr
      (hentries.imp fun _ _ hp => hp.2))
  rw [hdays] at hpos
  obtain ⟨hread',hle⟩ := raised_days hraised hread hpos
  rw [← hdays, ← hdays'] at hle
  obtain ⟨out',hout'⟩ := enrich_other_materials hout hread'
  exact ⟨out',hout',hle,hbuffer,(enrich_reads hmats' hout').1⟩

/-- The law holds of two snapshots exactly if the least supply of the second one, if
there is any, is below the sentinel of 999 hours; the order alone fails only where
the replacement of the sentinel hides a supply of more than 99 hours, and the rule
always stays silent. -/
theorem buffer_law_iff {s s' out : Dict} (hmore : MoreSupply s s')
    (hpos : ∀ x ∈ supplyDays s, Le (.fin 0) x) (hout : enrichSnapshotForRouter s = .ok out) :
    ∃ out', enrichSnapshotForRouter s' = .ok out' ∧
      (BufferLaw s s' out out' ↔ ∀ d', leastDays (supplyDays s') = some d' →
        (d'.mul (.fin 24)).lt (.fin 999) = true) ∧
      (NotBelow (bufferHours out') (bufferHours out) ↔ ∀ d d',
        leastDays (supplyDays s) = some d → leastDays (supplyDays s') = some d' →
        PyFloat.lt (.fin 99) (d.mul (.fin 24)) = true →
        (d.mul (.fin 24)).lt (.fin 999) = true → (d'.mul (.fin 24)).lt (.fin 999) = true) ∧
      (saRules out = .ok none → saRules out' = .ok none) := by
  obtain ⟨out',hout',hle,hbuffer,hbuffer'⟩ := enrich_more hmore hpos hout
  have hpos' : ∀ d ∈ supplyDays s', Le (.fin 0) d := by
    intro d' hd'
    obtain ⟨d,hd,hdd⟩ := exists_left hle hd'
    exact (hpos d hd).trans hdd
  obtain ⟨h,hh,_⟩ := foldl_takeHours hpos 999
  obtain ⟨h',hh',_⟩ := foldl_takeHours hpos' 999
  change hours _ = .fin h at hh
  change hours _ = .fin h' at hh'
  rw [hh] at hbuffer
  rw [hh'] at hbuffer'
  have hmono := hours_mono hle hpos hpos' hh hh'
  have hnone := leastDays_none_iff hle
  have hrule : saRules out = .ok none → saRules out' = .ok none := by
    rw [saRules_silent_iff hout, saRules_silent_iff hout', hbuffer, hbuffer']
    exact bufferOf_silent hmono
  have horder := bufferOf_order_iff hmono
  have hleast := bufferOf_least_iff hpos hh
  have hleast' := bufferOf_least_iff hpos' hh'
  rw [← hbuffer, ← hbuffer'] at horder
  rw [← hbuffer] at hleast
  rw [← hbuffer'] at hleast'
  refine ⟨out',hout',?_,horder.trans (least_order_iff hle hpos hpos' hh hh'),hrule⟩
  rw [least_within_iff hpos' hh']
  constructor
  · exact fun hlaw => hleast'.mp hlaw.least'
  · intro hcases
    refine ⟨horder.mpr ?_,hleast.mpr ?_,hleast'.mpr hcases,hrule⟩
    · intro _ hlt
      exact hcases.resolve_right fun hempty => least_of_hours hh hlt (hnone.mpr hempty)
    · exact hcases.imp (lt_of_le_of_lt hmono) hnone.mpr

/-! ### One material -/

/-- A snapshot with one material, which lasts for `days`. -/
def stocked (days : ℤ) : Dict :=
  [("materials", .dict [("강판", .dict [("days_supply", .int days)])])]

theorem daysOf_stocked {n : ℤ} (h : |n| ≤ 2 ^ 53) :
    daysOf (.dict [("days_supply", .int n)]) = .ok (some (.fin n)) := by
  have hfloat := PyFloat.ofInt_of_small h
  simp [daysOf, getD, Val.asDict, Val.toFloat, hfloat, orOnBadNumber, Except.map]

theorem supplyDays_stocked {n : ℤ} (h : |n| ≤ 2 ^ 53) : supplyDays (stocked n) = [.fin n] := by
  have hdays := daysOf_stocked h
  simp [supplyDays, stocked, getD, numericDays, hdays]

theorem moreSupply_stocked {m n : ℤ} (hm : |m| ≤ 2 ^ 53) (hn : |n| ≤ 2 ^ 53) (h : m ≤ n) :
    MoreSupply (stocked m) (stocked n) := by
  refine ⟨[("강판", .dict [("days_supply", .int m)])],[("강판", .dict [("days_supply", .int n)])],
    by simp [stocked],by simp [stocked, Assoc.set],.cons ⟨rfl,.inr ?_⟩ .nil⟩
  refine ⟨[("days_supply", .int m)],.int n,.fin m,.fin n,rfl,by simp [Assoc.set],
    daysOf_stocked hm,daysOf_stocked hn,?_⟩
  rw [PyFloat.le_fin]
  exact_mod_cast h

theorem enrich_stocked {n : ℤ} (h : |n| ≤ 2 ^ 53) :
    ∃ out, enrichSnapshotForRouter (stocked n) = .ok out := by
  have hdays := daysOf_stocked h
  have hleast := (minSupplyHours_iff [.dict [("days_supply", .int n)]] (.fin 999) _).mpr
    ⟨fun m hm => ⟨_,List.mem_singleton.mp hm ▸ hdays⟩,rfl⟩
  have hstations : (getD (stocked n) "stations" .none).orElse (.dict []) = .dict [] := by
    simp [stocked, getD, Val.orElse, Val.truthy]
  have hmats : Assoc.get (stocked n) "materials" =
      some (.dict [("강판", .dict [("days_supply", .int n)])]) := by simp [stocked]
  have hread := (materials_read hmats).1
  have hzero : readingOf .none = .ok (.fin 0) := by
    change PyFloat.ofInt 0 = _
    rw [PyFloat.ofInt_of_small (by decide), Int.cast_zero]
  unfold enrichSnapshotForRouter
  simp only [Traverse.bind_ok_iff]
  rw [hstations, hread]
  exact ⟨_,.dict [],⟨.none,rfl,rfl⟩,.dict [],⟨.none,rfl,rfl⟩,.none,rfl,.fin 0,hzero,.none,rfl,
    .fin 0,hzero,_,rfl,_,hleast,rfl⟩

theorem buffer_law_five_six : ∃ out out', enrichSnapshotForRouter (stocked 5) = .ok out ∧
    enrichSnapshotForRouter (stocked 6) = .ok out' ∧ BufferLaw (stocked 5) (stocked 6) out out' := by
  obtain ⟨out,hout⟩ := enrich_stocked (show |(5 : ℤ)| ≤ 2 ^ 53 by decide)
  have hpos : ∀ x ∈ supplyDays (stocked 5), Le (.fin 0) x := by
    rw [supplyDays_stocked (by decide)]
    simp
  obtain ⟨out',hout',hiff,_⟩ :=
    buffer_law_iff (moreSupply_stocked (m := 5) (n := 6) (by decide) (by decide) (by decide)) hpos hout
  refine ⟨out,out',hout,hout',hiff.mpr ?_⟩
  rw [supplyDays_stocked (by decide)]
  intro d' hd'
  cases hd'
  decide +kernel

/-- With a day more of supply the buffer goes from 984 hours to 99. -/
theorem forty_second_day_hidden : ∃ out out', enrichSnapshotForRouter (stocked 41) = .ok out ∧
    enrichSnapshotForRouter (stocked 42) = .ok out' ∧ MoreSupply (stocked 41) (stocked 42) ∧
    bufferHours out = .fin 984 ∧ bufferHours out' = .fin 99 ∧
    ¬ BufferLaw (stocked 41) (stocked 42) out out' := by
  obtain ⟨out,hout⟩ := enrich_stocked (show |(41 : ℤ)| ≤ 2 ^ 53 by decide)
  obtain ⟨out',hout'⟩ := enrich_stocked (show |(42 : ℤ)| ≤ 2 ^ 53 by decide)
  have hmats : ∀ n, Assoc.get (stocked n) "materials" =
      some (.dict [("강판", .dict [("days_supply", .int n)])]) := fun n => by simp [stocked]
  have hbuffer : bufferHours out = .fin 984 := by
    rw [(enrich_reads (hmats 41) hout).1, supplyDays_stocked (by decide)]
    decide +kernel
  have hbuffer' : bufferHours out' = .fin 99 := by
    rw [(enrich_reads (hmats 42) hout').1, supplyDays_stocked (by decide)]
    decide +kernel
  refine ⟨out,out',hout,hout',moreSupply_stocked (by decide) (by decide) (by decide),hbuffer,
    hbuffer',fun hlaw => ?_⟩
  have horder := hlaw.order
  rw [hbuffer, hbuffer', PyFloat.notBelow_fin] at horder
  norm_num at horder

end ManufacturingMas.Proofs.SupplyBuffer
