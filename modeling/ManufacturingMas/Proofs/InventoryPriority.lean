import ManufacturingMas.Proofs.PriorityCover

/-! How the inventory agent's priority follows what it observes. -/

namespace ManufacturingMas.Proofs.InventoryPriority
open Py Agents InventoryAgent PriorityCover

/-- The effectiveness that the bottleneck is judged by, 1 where there is none. -/
def bottleneckOee (obs : InventoryObservation) : ℚ :=
  match obs.bottleneck with
  | none => 1
  | some bn => if bn = "" then 1 else (Assoc.get obs.stationUtilization bn).getD 1

def Slow (obs : InventoryObservation) : Prop := bottleneckOee obs < 13/20

/-- An observation that is worse than another one, or the same. -/
structure Worse (obs obs' : InventoryObservation) : Prop where
  alerts : ∀ wa ∈ obs.wipAlerts, wa ∈ obs'.wipAlerts
  oee : bottleneckOee obs' ≤ bottleneckOee obs
  scrap : obs.scrapRate ≤ obs'.scrapRate

/-- Where the first observation leads to a decision, the second leads to one of no lower priority. -/
def NeverLower (ia ia' : InventoryAgent) (obs obs' : InventoryObservation) : Prop :=
  ∀ d, (ia.reason obs).1 = some d →
    ∃ d', (ia'.reason obs').1 = some d' ∧ rank d.priority ≤ rank d'.priority

/-! ### The contents of a decision -/

/-- What is found decides the priority, a slow bottleneck before an overload, and whether there
is anything to report. -/
structure Found (overloaded slow scrap : Prop) (d : InventoryDecision) : Prop where
  medium : slow → d.priority = "MEDIUM"
  high : ¬ slow → overloaded → d.priority = "HIGH"
  low : ¬ slow → ¬ overloaded → d.priority = "LOW"
  alerted : d.alerts = [] ↔ ¬ (overloaded ∨ slow ∨ scrap)
  actions : d.alerts = [] → d.wipActions = []

theorem reasonWip_found (alerts : List WipAlert) (r : Reasoning) (wa : WipAlert)
    (h : Found (Overloaded alerts) False False r.1) :
    Found (Overloaded (alerts ++ [wa])) False False (reasonWip r wa).1 := by
  have hover : Overloaded (alerts ++ [wa]) ↔ Overloaded alerts ∨ wa.status = "과적" := by
    simp [Overloaded, or_and_right, exists_or]
  unfold reasonWip
  dsimp only
  by_cases hfull : wa.status = "과적"
  · rw [if_pos hfull]
    have hnow := hover.mpr (.inr hfull)
    exact ⟨False.elim,fun _ _ => rfl,fun _ hno => absurd hnow hno,by simp [hnow],by simp⟩
  · rw [if_neg hfull]
    have hsame : Overloaded (alerts ++ [wa]) = Overloaded alerts :=
      propext (hover.trans (or_iff_left hfull))
    rw [hsame]
    exact h

theorem reasonBottleneck_found {overloaded : Prop} (obs : InventoryObservation) {r : Reasoning}
    (h : Found overloaded False False r.1) :
    Found overloaded (Slow obs) False (reasonBottleneck obs r).1 := by
  obtain ⟨d,base⟩ := r
  obtain ⟨_,hover,hcalm,halerted,hactions⟩ := h
  have hpriority : maxText d.priority "MEDIUM" = "MEDIUM" := by
    by_cases hfull : overloaded
    · exact (congrArg (maxText · "MEDIUM") (hover not_false hfull)).trans (by decide)
    · exact (congrArg (maxText · "MEDIUM") (hcalm not_false hfull)).trans (by decide)
  have hfast : ¬ Slow obs → Found overloaded (Slow obs) False d := by
    intro hfast
    refine ⟨fun hslow => absurd hslow hfast,fun _ => hover not_false,fun _ => hcalm not_false,?_,hactions⟩
    rw [halerted]
    simp [hfast]
  unfold reasonBottleneck
  dsimp only
  cases hbn : obs.bottleneck with
  | none =>
    apply hfast
    unfold Slow bottleneckOee
    rw [hbn]
    norm_num
  | some bn =>
    have hslow : Slow obs ↔ bn ≠ "" ∧ (Assoc.get obs.stationUtilization bn).getD 1 < 13/20 := by
      unfold Slow bottleneckOee
      rw [hbn]
      dsimp only
      by_cases hname : bn = ""
      · rw [if_pos hname]
        norm_num [hname]
      · rw [if_neg hname]
        simp [hname]
    dsimp only
    split
    · rename_i hcond
      have hnow := hslow.mpr hcond
      exact ⟨fun _ => hpriority,fun hno => absurd hnow hno,fun hno => absurd hnow hno,
        by simp [hnow],by simp⟩
    · rename_i hcond
      exact hfast (mt hslow.mp hcond)

theorem reasonScrap_found {overloaded slow : Prop} (obs : InventoryObservation) {r : Reasoning}
    (h : Found overloaded slow False r.1) :
    Found overloaded slow (MuchScrap obs) (reasonScrap obs r).1 := by
  obtain ⟨d,base⟩ := r
  obtain ⟨hslow,hover,hcalm,halerted,hactions⟩ := h
  unfold reasonScrap
  dsimp only
  by_cases hscrap : 1/20 < obs.scrapRate
  · have hmuch : MuchScrap obs := hscrap
    rw [if_pos hscrap]
    exact ⟨hslow,hover,hcalm,by simp [hmuch],by simp⟩
  · have hlittle : ¬ MuchScrap obs := hscrap
    rw [if_neg hscrap]
    refine ⟨hslow,hover,hcalm,?_,hactions⟩
    rw [halerted]
    simp [hlittle]

theorem assess_found (base : BaseAgent InventoryDecision) (obs : InventoryObservation) :
    Found (Overloaded obs.wipAlerts) (Slow obs) (MuchScrap obs) (assess base obs).1 := by
  have hwip := Folds.foldl_invariant (I := fun alerts (r : Reasoning) =>
    Found (Overloaded alerts) False False r.1) reasonWip_found
    (b := (⟨[],[],"LOW"⟩, base)) (by constructor <;> simp [Overloaded]) obs.wipAlerts
  exact reasonScrap_found obs (reasonBottleneck_found obs hwip)

theorem reason_some_iff (ia : InventoryAgent) (obs : InventoryObservation)
    (d : InventoryDecision) :
    (ia.reason obs).1 = some d ↔
      (Overloaded obs.wipAlerts ∨ Slow obs ∨ MuchScrap obs) ∧ d = (assess ia.base obs).1 := by
  obtain ⟨_,_,_,halerted,hactions⟩ := assess_found ia.base obs
  unfold reason
  generalize assess ia.base obs = r at halerted hactions ⊢
  obtain ⟨found,base⟩ := r
  dsimp only at halerted hactions ⊢
  by_cases hnone : found.alerts = []
  · rw [if_pos ⟨List.isEmpty_iff.mpr (hactions hnone),List.isEmpty_iff.mpr hnone⟩]
    simp [halerted.mp hnone]
  · rw [if_neg fun hempty => hnone (List.isEmpty_iff.mp hempty.2)]
    have hsome := not_not.mp (mt halerted.mpr hnone)
    simp [hsome, eq_comm]

/-! ### Two observations -/

/-- A worse observation has the lower priority exactly if there was an overload before and the
bottleneck is slow only now. -/
theorem priority_monotone_iff (ia ia' : InventoryAgent) {obs obs' : InventoryObservation}
    (h : Worse obs obs') :
    NeverLower ia ia' obs obs' ↔
      ¬ (Overloaded obs.wipAlerts ∧ 13/20 ≤ bottleneckOee obs ∧ bottleneckOee obs' < 13/20) := by
  obtain ⟨hslow,hover,hcalm,_⟩ := assess_found ia.base obs
  obtain ⟨hslow',hover',hcalm',_⟩ := assess_found ia'.base obs'
  have hslower : Slow obs → Slow obs' := fun hnow => lt_of_le_of_lt h.oee hnow
  have hfuller : Overloaded obs.wipAlerts → Overloaded obs'.wipAlerts :=
    fun ⟨wa,hwa,hfull⟩ => ⟨wa,h.alerts wa hwa,hfull⟩
  have hscrap : MuchScrap obs → MuchScrap obs' := fun hnow => lt_of_lt_of_le hnow h.scrap
  have hfast : 13/20 ≤ bottleneckOee obs ↔ ¬ Slow obs := not_lt.symm
  rw [hfast]
  change _ ↔ ¬ (_ ∧ _ ∧ Slow obs')
  constructor
  · rintro hnever ⟨hfull,hnot,hnow⟩
    obtain ⟨d',hd',hle⟩ := hnever _ ((reason_some_iff ia obs _).mpr ⟨.inl hfull,rfl⟩)
    obtain ⟨_,rfl⟩ := (reason_some_iff ia' obs' d').mp hd'
    rw [hover hnot hfull, hslow' hnow] at hle
    simp at hle
  · intro hexcept d hd
    obtain ⟨hfound,rfl⟩ := (reason_some_iff ia obs d).mp hd
    have hfound' : Overloaded obs'.wipAlerts ∨ Slow obs' ∨ MuchScrap obs' :=
      hfound.imp hfuller (Or.imp hslower hscrap)
    refine ⟨_,(reason_some_iff ia' obs' _).mpr ⟨hfound',rfl⟩,?_⟩
    by_cases hnow : Slow obs
    · rw [hslow hnow, hslow' (hslower hnow)]
    · by_cases hfull : Overloaded obs.wipAlerts
      · have hnot : ¬ Slow obs' := fun hnow' => hexcept ⟨hfull,hnow,hnow'⟩
        rw [hover hnow hfull, hover' hnot (hfuller hfull)]
      · rw [hcalm hnow hfull]
        simp

/-- A full buffer before a bottleneck of this effectiveness. -/
def fullBuffer (oee : ℚ) : InventoryObservation :=
  { wipLevels := [("WC-01→WC-02", (19, 19/20))], bottleneck := some "WC-03", fgStock := 0
    throughput := 0, scrapRate := 0, stationUtilization := [("WC-03", oee)]
    wipAlerts := [⟨"WC-01→WC-02",19,19/20,"과적"⟩] }

theorem fullBuffer_oee (oee : ℚ) : bottleneckOee (fullBuffer oee) = oee := by
  simp [bottleneckOee, fullBuffer]

theorem fullBuffer_worse {oee oee' : ℚ} (h : oee' ≤ oee) :
    Worse (fullBuffer oee) (fullBuffer oee') := by
  refine ⟨fun _ hmem => hmem,?_,le_refl _⟩
  rw [fullBuffer_oee, fullBuffer_oee]
  exact h

theorem priority_monotone_fast :
    Worse (fullBuffer (9/10)) (fullBuffer (4/5)) ∧
      NeverLower .new .new (fullBuffer (9/10)) (fullBuffer (4/5)) := by
  have hworse : Worse (fullBuffer (9/10)) (fullBuffer (4/5)) := fullBuffer_worse (by norm_num)
  refine ⟨hworse,(priority_monotone_iff .new .new hworse).mpr ?_⟩
  rintro ⟨_,_,hslow⟩
  rw [fullBuffer_oee] at hslow
  norm_num at hslow

/-- With the bottleneck at 60 instead of 80 percent the same overload counts as medium. -/
theorem slow_bottleneck_lowers :
    Worse (fullBuffer (4/5)) (fullBuffer (3/5)) ∧
      (InventoryAgent.new.reason (fullBuffer (4/5))).1.map (·.priority) = some "HIGH" ∧
      (InventoryAgent.new.reason (fullBuffer (3/5))).1.map (·.priority) = some "MEDIUM" ∧
      ¬ NeverLower .new .new (fullBuffer (4/5)) (fullBuffer (3/5)) := by
  have hhigh : (InventoryAgent.new.reason (fullBuffer (4/5))).1.map (·.priority) = some "HIGH" := by
    decide +kernel
  have hmedium : (InventoryAgent.new.reason (fullBuffer (3/5))).1.map (·.priority) =
      some "MEDIUM" := by decide +kernel
  refine ⟨fullBuffer_worse (by norm_num),hhigh,hmedium,?_⟩
  intro hnever
  obtain ⟨d,hd,hpriority⟩ := Option.map_eq_some_iff.mp hhigh
  obtain ⟨d',hd',hle⟩ := hnever d hd
  rw [hd'] at hmedium
  have hpriority' : d'.priority = "MEDIUM" := Option.some.inj hmedium
  rw [hpriority, hpriority'] at hle
  simp at hle

end ManufacturingMas.Proofs.InventoryPriority
