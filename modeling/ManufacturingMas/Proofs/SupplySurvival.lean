import Mathlib.Data.List.Nodup
import ManufacturingMas.Lib.Stateful
import ManufacturingMas.Lib.Traverse
import ManufacturingMas.Py.FloatOrder
import ManufacturingMas.Agents.SupplyAgent
import ManufacturingMas.Proofs.ShipmentLedger

/-! Whether the supply agent gets through a factory's materials without raising, and
what it lists of them. -/

namespace ManufacturingMas.Proofs.SupplySurvival
open Py FactorySnapshot Environment Agents SupplyAgent Stateful

variable {obs : SupplyObservation}

/-- One pass of a snapshot through the agent. -/
def agentPass (printer : Printer) (snapshot : Snapshot) :
    EStateM PyErr SupplyAgent (SupplyObservation × Option SupplyDecision) := do
  let obs ← (agentClass printer).sense snapshot
  let decision ← (agentClass printer).reason obs
  (agentClass printer).act decision
  pure (obs, decision)

/-- One pass of a factory's snapshot through the agent. -/
def supplyPass (printer : Printer) (root : ℚ → ℚ) (f : Factory) :
    EStateM PyErr SupplyAgent (SupplyObservation × Option SupplyDecision) := do
  let snapshot ← Stateful.ofExcept (tryGetSnapshot root f)
  agentPass printer snapshot

/-- The stock is at most half of the safety stock. -/
def HalfStock (m : Material) : Prop := (m.stock : ℚ) ≤ m.safetyStock * (1/2)

/-- The material is a shortage or to be reordered, not both, and a reorder is decided. -/
structure Listed (obs : SupplyObservation) (decision : Option SupplyDecision)
    (p : String × Material) : Prop where
  short : p.1 ∈ obs.shortages.map (·.material) ↔ HalfStock p.2
  reorder : p.1 ∈ obs.reorderNeeded.map (·.material) ↔ ¬ HalfStock p.2
  decided : ∃ d, decision = some d ∧ p.1 ∈ d.reorders.map (·.material)

/-- The pass returns, and every material at or below its safety stock is listed. -/
def Survives (printer : Printer) (root : ℚ → ℚ) (sa : SupplyAgent) (f : Factory) : Prop :=
  ∃ obs decision sa', supplyPass printer root f sa = .ok (obs, decision) sa' ∧
    ∀ p ∈ f.materials, p.2.stock ≤ p.2.safetyStock → Listed obs decision p

/-! ### What a material needs -/

/-- The stock is at most half of the safety stock as a float. -/
def HalfFloat (stock safetyStock : ℤ) : Prop :=
  (stock : ℚ) ≤ nearestDouble (nearestDouble safetyStock * (1/2))

/-- What a day uses, as a float, is more than nothing. -/
def Used (m : Material) : Prop := 0 < nearestDouble (m.consumptionPerUnit * 400)

/-- The stock lasts for a number of days that is a float; an infinite usage leaves it none. -/
def FiniteDays (m : Material) : Prop :=
  PyFloat.limit ≤ m.consumptionPerUnit * 400 ∨
    |nearestDouble m.stock / nearestDouble (m.consumptionPerUnit * 400)| < PyFloat.limit

/-- The stocks that have a float for the snapshot to be made. -/
def Sendable (m : Material) : Prop :=
  (Used m → |(m.stock : ℚ)| < PyFloat.limit) ∧ |(m.safetyStock : ℚ)| < PyFloat.limit

/-- The mean decrease of the stocks that were seen is a float. -/
def Rated (stocks : List Int) : Prop :=
  3 ≤ stocks.length →
    |((decreases stocks).sum : ℚ) / (decreases stocks).length| < PyFloat.limit

/-- What the agent needs of a material to get through it, after the stocks it has seen: numbers
within the floats, a finite number of days unless the material is short, and half of the safety
stock on the same side of the stock as its float. -/
structure Manageable (seen : List Int) (m : Material) : Prop where
  sendable : Sendable m
  rated : Rated (Ring.push 100 seen m.stock)
  days : HalfFloat m.stock m.safetyStock ∨ Used m ∧ FiniteDays m
  half : m.stock ≤ m.safetyStock → (HalfFloat m.stock m.safetyStock ↔ HalfStock m)

/-! ### Sensing -/

/-- What `sense` takes for a shortage. -/
def short (m : MaterialData) : Bool :=
  decide ((m.stock : ℚ) ≤ nearestDouble (nearestDouble m.safetyStock * (1/2)))

/-- What `sense` puts on the reorder list. -/
def reordered (m : MaterialData) : Bool :=
  !short m && (m.needsReorder || decide (m.stock ≤ m.safetyStock))

def itemOf (r : ReorderNeed) : String × Option ℚ := (r.material, r.daysSupply)

def shortNames (ms : List (String × MaterialData)) : List String :=
  (ms.filter fun p => short p.2).map (·.1)

def reorderItems (ms : List (String × MaterialData)) : List (String × Option ℚ) :=
  (ms.filter fun p => reordered p.2).map fun p => (p.1, p.2.daysSupply)

/-- Only a material that is on neither list has its days compared. -/
def Comparable (m : MaterialData) : Prop := short m ∨ reordered m ∨ m.daysSupply ≠ none

/-- What the visit of one material adds to the lists. -/
structure Visited (obs : SupplyObservation) (p : String × MaterialData)
    (obs' : SupplyObservation) : Prop where
  shortages : obs'.shortages.map (·.material) = obs.shortages.map (·.material) ++ shortNames [p]
  reorders : obs'.reorderNeeded.map itemOf = obs.reorderNeeded.map itemOf ++ reorderItems [p]

/-- The rate and the safety stock can be computed, and the days are compared if they must be. -/
structure Judged (stocks : List Int) (m : MaterialData) : Prop where
  rated : Rated stocks
  safetyStock : |(m.safetyStock : ℚ)| < PyFloat.limit
  comparable : Comparable m

theorem rated_iff (stocks : List Int) :
    Rated stocks ↔ ∃ rate, calcConsumptionRate stocks = .ok rate := by
  unfold Rated calcConsumptionRate
  dsimp only
  split
  · rename_i hfew
    exact iff_of_true (fun h => absurd h (by omega)) ⟨_,rfl⟩
  · rename_i hmany
    rw [imp_iff_right (by omega)]
    split
    · rename_i hnone
      rw [List.isEmpty_iff.mp hnone]
      refine iff_of_true ?_ ⟨_,rfl⟩
      simpa using PyFloat.limit_pos
    · unfold PyFloat.ofQuotient
      rw [← PyFloat.nearest_fin_iff]
      push_cast
      constructor
      · rintro ⟨r,hr⟩
        rw [hr]
        exact ⟨_,rfl⟩
      · rintro ⟨rate,hrate⟩
        split at hrate
        · exact ⟨_,by assumption⟩
        · cases hrate

/-- The comparison of a stock with half of a safety stock. -/
theorem le_half_iff (stock safetyStock : ℤ) (h : |(safetyStock : ℚ)| < PyFloat.limit) :
    PyFloat.le (.fin stock)
      ((PyFloat.fin (nearestDouble safetyStock)).mul (.fin (1/2))).rounded = true ↔
        HalfFloat stock safetyStock := by
  have hhalf : |nearestDouble safetyStock * (1/2)| < PyFloat.limit := by
    have hfloat := PyFloat.abs_nearestDouble_lt_iff.mpr h
    rw [abs_mul, abs_of_pos (by norm_num : (0 : ℚ) < 1/2)]
    have hpos := abs_nonneg (nearestDouble (safetyStock : ℚ))
    linarith
  change PyFloat.le (.fin stock) (PyFloat.ofRat (nearestDouble safetyStock * (1/2))).rounded = true
    ↔ _
  rw [PyFloat.rounded_ofRat, PyFloat.nearest_of_lt hhalf]
  exact PyFloat.le_fin _ _

/-- A material is judged exactly if its numbers allow it. -/
theorem judgeMaterial_result (obs : SupplyObservation) (name : String) (m : MaterialData)
    (stocks : List Int) :
    match judgeMaterial obs name m stocks with
    | .ok obs' => Judged stocks m ∧ Visited obs (name, m) obs'
    | .error _ => ¬ Judged stocks m := by
  unfold judgeMaterial
  cases hrate : calcConsumptionRate stocks with
  | error e =>
    intro hjudged
    obtain ⟨rate,hok⟩ := (rated_iff stocks).mp hjudged.rated
    rw [hok] at hrate
    cases hrate
  | ok rate =>
    have hrated : Rated stocks := (rated_iff stocks).mpr ⟨rate,hrate⟩
    by_cases hsafety : |(m.safetyStock : ℚ)| < PyFloat.limit
    · rw [PyFloat.ofInt_of_lt hsafety]
      dsimp only [bind, Except.bind]
      have hside := le_half_iff m.stock m.safetyStock hsafety
      by_cases hshort : HalfFloat m.stock m.safetyStock
      · have hs : short m = true := decide_eq_true hshort
        rw [if_pos (hside.mpr hshort)]
        exact ⟨⟨hrated,hsafety,.inl hs⟩,by simp [shortNames, hs],by simp [reorderItems, reordered, hs]⟩
      · have hs : short m = false := decide_eq_false hshort
        rw [if_neg (mt hside.mp hshort)]
        by_cases hneeds : m.needsReorder = true ∨ m.stock ≤ m.safetyStock
        · have hr : reordered m = true := by simpa [reordered, hs] using hneeds
          rw [if_pos hneeds]
          exact ⟨⟨hrated,hsafety,.inr (.inl hr)⟩,by simp [shortNames, hs],
            by simp [reorderItems, hr, itemOf]⟩
        · have hr : reordered m = false := by simpa [reordered, hs] using hneeds
          rw [if_neg hneeds]
          cases hdays : m.daysSupply with
          | none =>
            rintro ⟨_,_,hcomparable⟩
            simp [Comparable, hs, hr, hdays] at hcomparable
          | some days =>
            exact ⟨⟨hrated,hsafety,.inr (.inr (by simp [hdays]))⟩,by simp [shortNames, hs],
              by simp [reorderItems, hr]⟩
    · rw [PyFloat.ofInt_of_not_lt hsafety]
      exact fun hjudged => hsafety hjudged.safetyStock

/-- The agent has seen of some materials what it had seen before. -/
def Unseen (before : SupplyAgent) (names : List String) (sa : SupplyAgent) : Prop :=
  ∀ name ∈ names, History.entries sa.consumptionHistory name =
    History.entries before.consumptionHistory name

/-- The stocks of a material when it is judged. -/
def stocksOf (before : SupplyAgent) (p : String × MaterialData) : List Int :=
  Ring.push 100 (History.entries before.consumptionHistory p.1) p.2.stock

theorem senseMaterial_result (before : SupplyAgent) (obs : SupplyObservation)
    (p : String × MaterialData) {names : List String} (hnew : p.1 ∉ names) :
    Triple (Unseen before (p.1 :: names)) (senseMaterial obs p)
      (fun obs' sa => (Judged (stocksOf before p) p.2 ∧ Visited obs p obs') ∧ Unseen before names sa)
      (fun _ => ¬ Judged (stocksOf before p) p.2) := by
  intro sa hsa
  obtain ⟨name,m⟩ := p
  have hresult := judgeMaterial_result obs name m (stocksOf before (name, m))
  have hkept : Unseen before names (sa.recordStock name m.stock) := by
    intro other hother
    have hne : other ≠ name := by
      rintro rfl
      exact hnew hother
    exact (History.entries_record_of_ne hne 100 _ _).trans
      (hsa other (List.mem_cons_of_mem _ hother))
  rw [senseMaterial_apply, hsa name List.mem_cons_self]
  unfold stocksOf at hresult ⊢
  dsimp only at hresult ⊢
  revert hresult
  cases judgeMaterial obs name m
    (Ring.push 100 (History.entries before.consumptionHistory name) m.stock) with
  | ok obs' => exact fun hresult => ⟨hresult,hkept⟩
  | error e => exact fun hresult => hresult

theorem shortNames_cons (p : String × MaterialData) (ms : List (String × MaterialData)) :
    shortNames (p :: ms) = shortNames [p] ++ shortNames ms := by
  unfold shortNames
  rw [← List.map_append, ← List.filter_append]
  rfl

theorem reorderItems_cons (p : String × MaterialData) (ms : List (String × MaterialData)) :
    reorderItems (p :: ms) = reorderItems [p] ++ reorderItems ms := by
  unfold reorderItems
  rw [← List.map_append, ← List.filter_append]
  rfl

theorem senseMaterials_result (before : SupplyAgent) (obs : SupplyObservation)
    {ms : List (String × MaterialData)} (hkeys : (ms.map Prod.fst).Nodup) :
    Triple (Unseen before (ms.map Prod.fst)) (senseMaterials obs ms)
      (fun obs' _ => (∀ p ∈ ms, Judged (stocksOf before p) p.2) ∧
        obs'.shortages.map (·.material) = obs.shortages.map (·.material) ++ shortNames ms ∧
        obs'.reorderNeeded.map itemOf = obs.reorderNeeded.map itemOf ++ reorderItems ms)
      (fun _ => ∃ p ∈ ms, ¬ Judged (stocksOf before p) p.2) := by
  induction ms generalizing obs with
  | nil => exact triple_pure _ fun _ _ => ⟨by simp,by simp [shortNames],by simp [reorderItems]⟩
  | cons p ms ih =>
    obtain ⟨hnew,hkeys⟩ := List.nodup_cons.mp hkeys
    intro sa hsa
    have hstep := senseMaterial_result before obs p hnew sa hsa
    unfold senseMaterials
    rw [bind_apply]
    cases hfirst : senseMaterial obs p sa with
    | error e sa' =>
      rw [hfirst] at hstep
      exact ⟨p,List.mem_cons_self,hstep⟩
    | ok obs' sa' =>
      rw [hfirst] at hstep
      obtain ⟨⟨hjudged,hshort,hreorder⟩,hrest⟩ := hstep
      have hsensed := ih obs' hkeys sa' hrest
      dsimp only
      cases hlast : senseMaterials obs' ms sa' with
      | error e sa'' =>
        rw [hlast] at hsensed
        obtain ⟨q,hq,hnot⟩ := hsensed
        exact ⟨q,List.mem_cons_of_mem _ hq,hnot⟩
      | ok obs'' sa'' =>
        rw [hlast] at hsensed
        obtain ⟨hall,hshorts,hreorders⟩ := hsensed
        refine ⟨List.forall_mem_cons.mpr ⟨hjudged,hall⟩,?_,?_⟩
        · rw [hshorts, hshort, List.append_assoc, ← shortNames_cons]
        · rw [hreorders, hreorder, List.append_assoc, ← reorderItems_cons]

/-! ### Deciding -/

theorem reasonShortages_result (d : SupplyDecision) (shortages : List Shortage) (E : Prop) :
    Returns (reasonShortages d shortages) (fun d' => d'.reorders.map (·.material) =
      d.reorders.map (·.material) ++ shortages.map (·.material)) E := by
  induction shortages generalizing d with
  | nil => exact returns_pure (List.append_nil _).symm
  | cons s shortages ih =>
    refine Returns.bind returns_modify fun _ _ => ?_
    have hrest := ih { reorders := d.reorders ++ [shortageReorder s]
                       alerts := d.alerts ++ [shortageAlert s], priority := "CRITICAL" }
    rw [List.map_append, List.append_assoc] at hrest
    exact hrest

/-- A null number of days on the reorder list cannot be written into a reorder. -/
theorem reasonReorders_result (printer : Printer) (d : SupplyDecision)
    (reorders : List ReorderNeed) :
    Returns (reasonReorders printer d reorders)
      (fun d' => (∀ r ∈ reorders, r.daysSupply ≠ none) ∧ d'.reorders.map (·.material) =
        d.reorders.map (·.material) ++ reorders.map (·.material))
      (∃ r ∈ reorders, r.daysSupply = none) := by
  induction reorders generalizing d with
  | nil => exact returns_pure ⟨by simp,(List.append_nil _).symm⟩
  | cons r reorders ih =>
    have htext : Returns
        (Stateful.ofExcept (daysText r.daysSupply) : EStateM PyErr SupplyAgent String)
        (fun _ => r.daysSupply ≠ none) (∃ r' ∈ r :: reorders, r'.daysSupply = none) := by
      refine returns_ofExcept (fun text htext hnone => ?_) fun e htext => ?_
      · rw [hnone] at htext
        cases htext
      · cases hdays : r.daysSupply with
        | none => exact ⟨r,List.mem_cons_self,hdays⟩
        | some days =>
          rw [hdays] at htext
          cases htext
    refine htext.bind fun text hdays => Returns.bind returns_modify fun _ _ => ?_
    refine (ih _).mono (fun d' hrest => ?_) fun hraise => ?_
    · obtain ⟨hall,hnames⟩ := hrest
      refine ⟨List.forall_mem_cons.mpr ⟨hdays,hall⟩,?_⟩
      rw [hnames, List.map_append, List.append_assoc]
      rfl
    · obtain ⟨r',hr',hnone⟩ := hraise
      exact ⟨r',List.mem_cons_of_mem _ hr',hnone⟩

/-- The materials a decision reorders. -/
def reorderNames (decision : Option SupplyDecision) : List String :=
  (decision.map fun d => d.reorders.map (·.material)).getD []

theorem reason_result (printer : Printer) (obs : SupplyObservation) :
    Returns (reason printer obs)
      (fun decision => (∀ r ∈ obs.reorderNeeded, r.daysSupply ≠ none) ∧
        reorderNames decision =
          obs.shortages.map (·.material) ++ obs.reorderNeeded.map (·.material))
      (∃ r ∈ obs.reorderNeeded, r.daysSupply = none) := by
  refine Returns.bind (reasonShortages_result { reorders := [], alerts := [], priority := "LOW" }
    obs.shortages _) fun d hshortages => ?_
  refine Returns.bind (reasonReorders_result printer d obs.reorderNeeded) fun d' hreorders => ?_
  obtain ⟨hall,hnames⟩ := hreorders
  rw [hshortages] at hnames
  by_cases hnothing : d'.reorders.isEmpty ∧ d'.alerts.isEmpty
  · rw [if_pos hnothing]
    rw [List.isEmpty_iff.mp hnothing.1] at hnames
    exact Returns.bind returns_modify fun _ _ => returns_pure ⟨hall,hnames⟩
  · rw [if_neg hnothing]
    exact returns_pure ⟨hall,hnames⟩

/-! ### The whole pass -/

theorem mem_reorderItems_iff {ms : List (String × MaterialData)} {item : String × Option ℚ} :
    item ∈ reorderItems ms ↔
      ∃ p ∈ ms, reordered p.2 = true ∧ (p.1, p.2.daysSupply) = item := by
  simp [reorderItems, and_assoc]

theorem mem_shortNames_iff {ms : List (String × MaterialData)} {name : String} :
    name ∈ shortNames ms ↔ ∃ p ∈ ms, short p.2 = true ∧ p.1 = name := by
  simp [shortNames]

/-- What a pass needs of a material: the days are there unless it is short. -/
structure Passed (stocks : List Int) (m : MaterialData) : Prop where
  rated : Rated stocks
  safetyStock : |(m.safetyStock : ℚ)| < PyFloat.limit
  days : short m = true ∨ m.daysSupply ≠ none

theorem Passed.judged {stocks : List Int} {m : MaterialData} (h : Passed stocks m) :
    Judged stocks m := by
  refine ⟨h.rated,h.safetyStock,?_⟩
  rcases h.days with hshort | hdays
  · exact .inl hshort
  · exact .inr (.inr hdays)

section
variable {materials : List (String × MaterialData)} {reorders : List ReorderNeed}

/-- A reorder without a number of days is one of a material that lacks it. -/
theorem not_passed (hreorders : reorders.map itemOf = reorderItems materials)
    (h : ∃ r ∈ reorders, r.daysSupply = none) (before : SupplyAgent) :
    ∃ p ∈ materials, ¬ Passed (stocksOf before p) p.2 := by
  obtain ⟨r,hr,hnone⟩ := h
  obtain ⟨p,hp,hreordered,hitem⟩ :=
    mem_reorderItems_iff.mp (hreorders ▸ List.mem_map_of_mem (f := itemOf) hr)
  simp only [itemOf, Prod.mk.injEq] at hitem
  simp only [reordered, Bool.and_eq_true, Bool.not_eq_true'] at hreordered
  refine ⟨p,hp,fun hpassed => ?_⟩
  rcases hpassed.days with hshort | hdays
  · rw [hreordered.1] at hshort
    cases hshort
  · exact hdays (hitem.2.trans hnone)

theorem passed_of_judged (hreorders : reorders.map itemOf = reorderItems materials)
    (hdays : ∀ r ∈ reorders, r.daysSupply ≠ none) {p : String × MaterialData}
    (hp : p ∈ materials) {stocks : List Int} (h : Judged stocks p.2) : Passed stocks p.2 := by
  refine ⟨h.rated,h.safetyStock,?_⟩
  rcases h.comparable with hshort | hreordered | hsome
  · exact .inl hshort
  · have hitem : (p.1, p.2.daysSupply) ∈ reorders.map itemOf :=
      hreorders ▸ mem_reorderItems_iff.mpr ⟨p,hp,hreordered,rfl⟩
    obtain ⟨r,hr,heq⟩ := List.mem_map.mp hitem
    simp only [itemOf, Prod.mk.injEq] at heq
    exact .inr (heq.2 ▸ hdays r hr)
  · exact .inr hsome

end

/-- A pass returns exactly if every material has what it needs; the lists and the decision are
then those of the materials. -/
theorem agentPass_result (printer : Printer) (snapshot : Snapshot) (before : SupplyAgent)
    (hkeys : (snapshot.materials.map Prod.fst).Nodup) :
    Triple (fun sa => sa = before) (agentPass printer snapshot)
      (fun r _ => (∀ p ∈ snapshot.materials, Passed (stocksOf before p) p.2) ∧
        r.1.shortages.map (·.material) = shortNames snapshot.materials ∧
        r.1.reorderNeeded.map itemOf = reorderItems snapshot.materials ∧
        reorderNames r.2 =
          r.1.shortages.map (·.material) ++ r.1.reorderNeeded.map (·.material))
      (fun _ => ∃ p ∈ snapshot.materials, ¬ Passed (stocksOf before p) p.2) := by
  have hsense : Triple (fun sa => sa = before)
      (senseMaterials { materialStatus := [], shortages := [], reorderNeeded := [] }
        snapshot.materials)
      (fun obs _ => (∀ p ∈ snapshot.materials, Judged (stocksOf before p) p.2) ∧
        obs.shortages.map (·.material) = shortNames snapshot.materials ∧
        obs.reorderNeeded.map itemOf = reorderItems snapshot.materials)
      (fun _ => ∃ p ∈ snapshot.materials, ¬ Passed (stocksOf before p) p.2) := by
    refine (senseMaterials_result before _ hkeys).mono ?_ ?_ ?_
    · rintro sa rfl name _
      rfl
    · exact fun _ _ h => h
    · rintro _ ⟨p,hp,hnot⟩
      exact ⟨p,hp,fun hpassed => hnot hpassed.judged⟩
  refine hsense.bind fun obs sa hsensed => ?_
  obtain ⟨hall,hshorts,hreorders⟩ := hsensed
  refine Returns.bind ((reason_result printer obs).mono (fun _ h => h) fun hraise => ?_)
    (fun decision hreasoned => ?_) sa trivial
  · exact not_passed hreorders hraise before
  · obtain ⟨hdays,hnames⟩ := hreasoned
    exact Returns.bind (A := fun _ => True) (fun _ _ => trivial) fun _ _ =>
      returns_pure ⟨fun p hp => passed_of_judged hreorders hdays hp (hall p hp),
        hshorts,hreorders,hnames⟩

/-! ### The materials of a factory -/

theorem dailyUsage_eq (m : Material) :
    dailyUsage m = PyFloat.nearest (m.consumptionPerUnit * 400) :=
  PyFloat.rounded_ofRat _

theorem used_iff (m : Material) : (PyFloat.fin 0).lt (dailyUsage m) = true ↔ Used m := by
  rw [dailyUsage_eq]
  exact PyFloat.zero_lt_nearest_iff

theorem needsReorder_ok {m : Material} (h : |(m.safetyStock : ℚ)| < PyFloat.limit) :
    ∃ needs, FactorySnapshot.needsReorder m = .ok needs := by
  unfold FactorySnapshot.needsReorder
  rw [PyFloat.ofInt_of_lt h]
  exact ⟨_,rfl⟩

theorem daysOfSupply_ok {m : Material} (h : Used m → |(m.stock : ℚ)| < PyFloat.limit) :
    ∃ days, daysOfSupply m = .ok days := by
  unfold daysOfSupply
  split
  · rename_i hused
    rw [PyFloat.ofInt_of_lt (h ((used_iff m).mp hused))]
    exact ⟨_,rfl⟩
  · exact ⟨_,rfl⟩

theorem tryMaterialData_eq {m : Material} {days : PyFloat} {needs : Bool}
    (hdays : daysOfSupply m = .ok days) (hneeds : FactorySnapshot.needsReorder m = .ok needs) :
    tryMaterialData m = .ok ⟨m.stock,m.safetyStock,sentDays days,needs⟩ := by
  unfold tryMaterialData
  rw [hdays, hneeds]
  rfl

theorem tryMaterialData_of_sendable {m : Material} (h : Sendable m) :
    tryMaterialData m = .ok (materialData m) := by
  obtain ⟨days,hdays⟩ := daysOfSupply_ok h.1
  obtain ⟨needs,hneeds⟩ := needsReorder_ok h.2
  unfold materialData
  rw [tryMaterialData_eq hdays hneeds]
  rfl

theorem sendable_of_tryMaterialData {m : Material} {data : MaterialData}
    (h : tryMaterialData m = .ok data) : Sendable m := by
  obtain ⟨days,hdays,hrest⟩ := Traverse.bind_ok_iff.mp h
  obtain ⟨needs,hneeds,_⟩ := Traverse.bind_ok_iff.mp hrest
  constructor
  · intro hused
    by_contra hlarge
    unfold daysOfSupply at hdays
    rw [if_pos ((used_iff m).mpr hused), PyFloat.ofInt_of_not_lt hlarge] at hdays
    cases hdays
  · by_contra hlarge
    unfold FactorySnapshot.needsReorder at hneeds
    rw [PyFloat.ofInt_of_not_lt hlarge] at hneeds
    cases hneeds

/-- The snapshot of a factory is made exactly if its materials can be sent. -/
theorem tryGetSnapshot_of_sendable {root : ℚ → ℚ} {f : Factory}
    (h : ∀ p ∈ f.materials, Sendable p.2) : tryGetSnapshot root f = .ok (getSnapshot root f) := by
  refine Traverse.bind_ok_iff.mpr ⟨(getSnapshot root f).materials,?_,rfl⟩
  refine Traverse.mapM_ok_iff.mpr (List.forall₂_map_right_iff.mpr (List.forall₂_same.mpr ?_))
  intro p hp
  rw [tryMaterialData_of_sendable (h p hp)]
  rfl

theorem sendable_of_tryGetSnapshot {root : ℚ → ℚ} {f : Factory} {snapshot : Snapshot}
    (h : tryGetSnapshot root f = .ok snapshot) : ∀ p ∈ f.materials, Sendable p.2 := by
  intro p hp
  obtain ⟨materials,hmaterials,_⟩ := Traverse.bind_ok_iff.mp h
  obtain ⟨entry,_,hentry⟩ := Traverse.exists_zip (Traverse.mapM_ok_iff.mp hmaterials) hp
  obtain ⟨data,hdata,_⟩ := Traverse.bind_ok_iff.mp hentry
  exact sendable_of_tryMaterialData hdata

theorem materialData_stocks (m : Material) :
    (materialData m).stock = m.stock ∧ (materialData m).safetyStock = m.safetyStock := by
  unfold materialData
  cases hdata : tryMaterialData m with
  | error e => exact ⟨rfl,rfl⟩
  | ok data =>
    obtain ⟨days,_,hrest⟩ := Traverse.bind_ok_iff.mp hdata
    obtain ⟨needs,_,hdata⟩ := Traverse.bind_ok_iff.mp hrest
    cases hdata
    exact ⟨rfl,rfl⟩

theorem short_iff (m : Material) :
    short (materialData m) = true ↔ HalfFloat m.stock m.safetyStock := by
  unfold short HalfFloat
  rw [(materialData_stocks m).1, (materialData_stocks m).2, decide_eq_true_iff]

/-- The days that are sent of a number of days. -/
theorem sentDays_iff {days : PyFloat} : sentDays days ≠ none ↔ ∃ q, days = .fin q := by
  cases days <;> simp [sentDays]

/-- The number of days of a material that is used. -/
theorem finiteDays_iff {m : Material} (hused : Used m) :
    (∃ q, ((PyFloat.fin (nearestDouble m.stock)).div (dailyUsage m)).rounded = .fin q) ↔
      FiniteDays m := by
  have hpos : 0 < m.consumptionPerUnit * 400 :=
    lt_of_not_ge fun h => hused.not_ge (nearestDouble_nonpos h)
  unfold FiniteDays
  rw [dailyUsage_eq]
  by_cases hlarge : PyFloat.limit ≤ m.consumptionPerUnit * 400
  · rw [PyFloat.nearest_of_limit_le hlarge]
    exact iff_of_true (PyFloat.nearest_fin_iff.mpr PyFloat.limit_pos) (.inl hlarge)
  · have hsmall : |m.consumptionPerUnit * 400| < PyFloat.limit := by
      rw [abs_of_pos hpos]
      exact not_le.mp hlarge
    rw [PyFloat.nearest_of_lt hsmall, or_iff_right hlarge]
    change (∃ q, (PyFloat.ofRat _).rounded = .fin q) ↔ _
    rw [PyFloat.rounded_ofRat, PyFloat.nearest_fin_iff]

theorem daysSupply_iff {m : Material} (h : Sendable m) :
    (materialData m).daysSupply ≠ none ↔ Used m ∧ FiniteDays m := by
  obtain ⟨days,hdays⟩ := daysOfSupply_ok h.1
  obtain ⟨needs,hneeds⟩ := needsReorder_ok h.2
  have hdata : materialData m = ⟨m.stock,m.safetyStock,sentDays days,needs⟩ := by
    unfold materialData
    rw [tryMaterialData_eq hdays hneeds]
    rfl
  rw [hdata, sentDays_iff]
  unfold daysOfSupply at hdays
  by_cases hused : Used m
  · rw [if_pos ((used_iff m).mpr hused), PyFloat.ofInt_of_lt (h.1 hused)] at hdays
    cases hdays
    exact (finiteDays_iff hused).trans (and_iff_right hused).symm
  · rw [if_neg (mt (used_iff m).mp hused)] at hdays
    cases hdays
    exact iff_of_false (by simp) fun hboth => hused hboth.1

theorem mem_shortNames {f : Factory} {root : ℚ → ℚ} (hkeys : (f.materials.map Prod.fst).Nodup)
    {p : String × Material} (hp : p ∈ f.materials) :
    p.1 ∈ shortNames (getSnapshot root f).materials ↔ HalfFloat p.2.stock p.2.safetyStock := by
  rw [← short_iff, mem_shortNames_iff]
  constructor
  · rintro ⟨q,hq,hshort,hname⟩
    obtain ⟨p',hp',rfl⟩ := List.mem_map.mp hq
    obtain rfl : p' = p := List.inj_on_of_nodup_map hkeys hp' hp hname
    exact hshort
  · exact fun h => ⟨_,List.mem_map_of_mem hp,h,rfl⟩

theorem mem_reorderItems {f : Factory} {root : ℚ → ℚ} (hkeys : (f.materials.map Prod.fst).Nodup)
    {p : String × Material} (hp : p ∈ f.materials) :
    p.1 ∈ (reorderItems (getSnapshot root f).materials).map Prod.fst ↔
      reordered (materialData p.2) = true := by
  constructor
  · intro h
    obtain ⟨item,hitem,hname⟩ := List.mem_map.mp h
    obtain ⟨q,hq,hreordered,rfl⟩ := mem_reorderItems_iff.mp hitem
    obtain ⟨p',hp',rfl⟩ := List.mem_map.mp hq
    obtain rfl : p' = p := List.inj_on_of_nodup_map hkeys hp' hp hname
    exact hreordered
  · intro h
    exact List.mem_map.mpr ⟨_,mem_reorderItems_iff.mpr ⟨_,List.mem_map_of_mem hp,h,rfl⟩,rfl⟩

/-- A material at or below its safety stock that is no shortage is reordered. -/
theorem reordered_iff {m : Material} (hlow : m.stock ≤ m.safetyStock) :
    reordered (materialData m) = true ↔ ¬ HalfFloat m.stock m.safetyStock := by
  rw [← short_iff]
  have hstock : decide ((materialData m).stock ≤ (materialData m).safetyStock) = true := by
    rw [(materialData_stocks m).1, (materialData_stocks m).2]
    exact decide_eq_true hlow
  unfold reordered
  rw [hstock]
  simp

/-- What a pass needs of a material of a factory, by what the agent has seen of it. -/
structure Carried (sa : SupplyAgent) (p : String × Material) : Prop where
  sendable : Sendable p.2
  passed : Passed (stocksOf sa (p.1, materialData p.2)) (materialData p.2)

theorem carried_iff (sa : SupplyAgent) (p : String × Material) :
    Carried sa p ↔ Sendable p.2 ∧
      Rated (Ring.push 100 (History.entries sa.consumptionHistory p.1) p.2.stock) ∧
      (HalfFloat p.2.stock p.2.safetyStock ∨ Used p.2 ∧ FiniteDays p.2) := by
  have hstocks : stocksOf sa (p.1, materialData p.2) =
      Ring.push 100 (History.entries sa.consumptionHistory p.1) p.2.stock := by
    unfold stocksOf
    rw [(materialData_stocks p.2).1]
  constructor
  · rintro ⟨hsend,hrated,_,hdays⟩
    rw [hstocks] at hrated
    rw [short_iff, daysSupply_iff hsend] at hdays
    exact ⟨hsend,hrated,hdays⟩
  · rintro ⟨hsend,hrated,hdays⟩
    rw [← hstocks] at hrated
    rw [← short_iff, ← daysSupply_iff hsend] at hdays
    exact ⟨hsend,hrated,by rw [(materialData_stocks p.2).2]; exact hsend.2,hdays⟩

/-- A factory's pass returns exactly if every material has what it needs. -/
theorem supplyPass_result (printer : Printer) (root : ℚ → ℚ) (sa : SupplyAgent) {f : Factory}
    (hkeys : (f.materials.map Prod.fst).Nodup) :
    Triple (fun sa' => sa' = sa) (supplyPass printer root f)
      (fun r _ => (∀ p ∈ f.materials, Carried sa p) ∧
        r.1.shortages.map (·.material) = shortNames (getSnapshot root f).materials ∧
        r.1.reorderNeeded.map itemOf = reorderItems (getSnapshot root f).materials ∧
        reorderNames r.2 =
          r.1.shortages.map (·.material) ++ r.1.reorderNeeded.map (·.material))
      (fun _ => ∃ p ∈ f.materials, ¬ Carried sa p) := by
  have hnames : (getSnapshot root f).materials.map Prod.fst = f.materials.map Prod.fst := by
    change (f.materials.map _).map _ = _
    rw [List.map_map]
    rfl
  by_cases hsend : ∀ p ∈ f.materials, Sendable p.2
  · have hpass := agentPass_result printer (getSnapshot root f) sa (hnames ▸ hkeys)
    unfold supplyPass
    rw [tryGetSnapshot_of_sendable hsend]
    refine Triple.mono hpass (fun _ h => h) ?_ ?_
    · rintro r _ ⟨hall,hlists⟩
      exact ⟨fun p hp => ⟨hsend p hp,hall _ (List.mem_map_of_mem hp)⟩,hlists⟩
    · rintro _ ⟨q,hq,hnot⟩
      obtain ⟨p,hp,rfl⟩ := List.mem_map.mp hq
      exact ⟨p,hp,fun hcarried => hnot hcarried.passed⟩
  · push Not at hsend
    obtain ⟨p,hp,hnot⟩ := hsend
    unfold supplyPass
    cases hsnapshot : tryGetSnapshot root f with
    | ok snapshot => exact absurd (sendable_of_tryGetSnapshot hsnapshot p hp) hnot
    | error e => exact fun _ _ => ⟨p,hp,fun hcarried => hnot hcarried.sendable⟩

/-- Half of a safety stock of ordinary size is a float. -/
theorem half_of_small {m : Material} (h : |m.safetyStock| ≤ 2 ^ 53) :
    HalfFloat m.stock m.safetyStock ↔ HalfStock m := by
  have hhalf : IsDouble ((m.safetyStock : ℚ) * (1/2)) := ⟨m.safetyStock,-1,h,by norm_num,by norm_num⟩
  unfold HalfFloat HalfStock
  rw [(isDouble_int h).nearest, hhalf.nearest]

/-- By the lists of a pass, a material that is low is on one of them and reordered. -/
theorem listed_iff {f : Factory} {root : ℚ → ℚ} {decision : Option SupplyDecision}
    (hkeys : (f.materials.map Prod.fst).Nodup) {p : String × Material} (hp : p ∈ f.materials)
    (hlow : p.2.stock ≤ p.2.safetyStock)
    (hshorts : obs.shortages.map (·.material) = shortNames (getSnapshot root f).materials)
    (hreorders : obs.reorderNeeded.map itemOf = reorderItems (getSnapshot root f).materials)
    (hnames : reorderNames decision =
      obs.shortages.map (·.material) ++ obs.reorderNeeded.map (·.material)) :
    Listed obs decision p ↔ (HalfFloat p.2.stock p.2.safetyStock ↔ HalfStock p.2) := by
  have hneeds : obs.reorderNeeded.map (·.material) =
      (reorderItems (getSnapshot root f).materials).map Prod.fst := by
    rw [← hreorders, List.map_map]
    rfl
  have hshort : p.1 ∈ obs.shortages.map (·.material) ↔ HalfFloat p.2.stock p.2.safetyStock := by
    rw [hshorts]
    exact mem_shortNames hkeys hp
  have hreorder : p.1 ∈ obs.reorderNeeded.map (·.material) ↔
      ¬ HalfFloat p.2.stock p.2.safetyStock := by
    rw [hneeds, mem_reorderItems hkeys hp]
    exact reordered_iff hlow
  have hname : p.1 ∈ reorderNames decision := by
    rw [hnames, List.mem_append, hshort, hreorder]
    exact em _
  constructor
  · exact fun hlisted => hshort.symm.trans hlisted.short
  · intro hhalf
    refine ⟨hshort.trans hhalf,hreorder.trans (not_congr hhalf),?_⟩
    cases decision with
    | none => cases hname
    | some d => exact ⟨d,rfl,hname⟩

/-- The agent survives the materials of a factory exactly if it can manage each of them after
what it has seen. -/
theorem supply_survives_iff (printer : Printer) (root : ℚ → ℚ) (sa : SupplyAgent) (f : Factory)
    (hkeys : (f.materials.map Prod.fst).Nodup) :
    Survives printer root sa f ↔
      ∀ p ∈ f.materials, Manageable (History.entries sa.consumptionHistory p.1) p.2 := by
  have hresult := supplyPass_result printer root sa hkeys sa rfl
  constructor
  · intro h p hp
    obtain ⟨obs,decision,sa',hrun,hlisted⟩ := h
    rw [hrun] at hresult
    obtain ⟨hall,hshorts,hreorders,hnames⟩ := hresult
    obtain ⟨hsend,hrated,hdays⟩ := (carried_iff sa p).mp (hall p hp)
    exact ⟨hsend,hrated,hdays,fun hlow =>
      (listed_iff hkeys hp hlow hshorts hreorders hnames).mp (hlisted p hp hlow)⟩
  · intro h
    unfold Survives
    cases hrun : supplyPass printer root f sa with
    | error e sa' =>
      rw [hrun] at hresult
      obtain ⟨p,hp,hnot⟩ := hresult
      obtain ⟨hsend,hrated,hdays,_⟩ := h p hp
      exact absurd ((carried_iff sa p).mpr ⟨hsend,hrated,hdays⟩) hnot
    | ok result sa' =>
      obtain ⟨obs,decision⟩ := result
      rw [hrun] at hresult
      obtain ⟨_,hshorts,hreorders,hnames⟩ := hresult
      exact ⟨obs,decision,sa',rfl,fun p hp hlow =>
        (listed_iff hkeys hp hlow hshorts hreorders hnames).mpr ((h p hp).half hlow)⟩

/-- A store with one material of the given consumption. -/
def oneMaterial (consumption : ℚ) (stock : Int) : Factory :=
  { Factory.new ShipmentLedger.plainDraws with
    materials := [("강판", ⟨"강판",stock,10,consumption,3,2500,"포스코",0⟩)] }

theorem supply_survives_consumed : Survives .blank id .new (oneMaterial 1 8) := by
  refine (supply_survives_iff .blank id .new (oneMaterial 1 8)
    (List.nodup_singleton _)).mpr fun p hp => ?_
  rw [List.mem_singleton.mp hp]
  have husage : nearestDouble 400 = 400 := by
    exact_mod_cast (isDouble_int (n := 400) (by norm_num)).nearest
  have hstock : nearestDouble 8 = 8 := by
    exact_mod_cast (isDouble_int (n := 8) (by norm_num)).nearest
  have hfew : |(8 : ℚ) / 400| < PyFloat.limit :=
    lt_trans (by norm_num) PyFloat.two_pow_lt_limit
  exact
    { sendable := ⟨fun _ => PyFloat.lt_limit_of_small (by norm_num),
        PyFloat.lt_limit_of_small (by norm_num)⟩
      rated := fun hmany => absurd hmany (by decide)
      days := .inr ⟨by norm_num [Used, husage],.inr (by simpa [hstock, husage] using hfew)⟩
      half := fun _ => half_of_small (by norm_num) }

/-- A material in store that nothing consumes stops the agent. -/
theorem unconsumed_material_raises :
    (∃ e sa', supplyPass .blank id (oneMaterial 0 100) .new = .error e sa') ∧
      ¬ Survives .blank id .new (oneMaterial 0 100) := by
  have hraises : ∃ e sa', supplyPass .blank id (oneMaterial 0 100) .new = .error e sa' := by
    have hresult := supplyPass_result .blank id .new (f := oneMaterial 0 100)
      (List.nodup_singleton _) .new rfl
    cases hrun : supplyPass .blank id (oneMaterial 0 100) .new with
    | error e sa' => exact ⟨e,sa',rfl⟩
    | ok result sa' =>
      rw [hrun] at hresult
      obtain ⟨_,_,hshort | hdays⟩ := (carried_iff _ _).mp (hresult.1 _ List.mem_cons_self)
      · have hhalf := (half_of_small (m := ⟨"강판",100,10,0,3,2500,"포스코",0⟩) (by norm_num)).mp hshort
        norm_num [HalfStock] at hhalf
      · norm_num [Used] at hdays
  refine ⟨hraises,?_⟩
  intro h
  obtain ⟨e,sa',hraises⟩ := hraises
  obtain ⟨obs,decision,sa'',hrun,_⟩ := h
  rw [hraises] at hrun
  cases hrun

end ManufacturingMas.Proofs.SupplySurvival
