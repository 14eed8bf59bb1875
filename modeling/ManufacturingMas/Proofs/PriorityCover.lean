import ManufacturingMas.Agents.DemandAgent
import ManufacturingMas.Agents.EquipmentAgent
import ManufacturingMas.Agents.InventoryAgent
import ManufacturingMas.Agents.QualityAgent
import ManufacturingMas.Agents.SupplyAgent
import ManufacturingMas.Lib.Loops

/-! How the priority of a decision compares with the alerts in it. -/

namespace ManufacturingMas.Proofs.PriorityCover
open Py Agents FactorySnapshot

/-- The order LOW < MEDIUM < HIGH < CRITICAL. -/
def rank (severity : String) : Nat :=
  if severity = "CRITICAL" then 3
  else if severity = "HIGH" then 2
  else if severity = "MEDIUM" then 1
  else 0

/-- No alert is more severe than the priority. -/
def Covers (priority : String) (alerts : List AgentAlert) : Prop :=
  ∀ alert ∈ alerts, rank alert.severity ≤ rank priority

@[simp] theorem rank_low : rank "LOW" = 0 := by decide
@[simp] theorem rank_medium : rank "MEDIUM" = 1 := by decide
@[simp] theorem rank_high : rank "HIGH" = 2 := by decide
@[simp] theorem rank_critical : rank "CRITICAL" = 3 := by decide

theorem rank_le_three (severity : String) : rank severity ≤ 3 := by
  unfold rank
  split_ifs <;> omega

theorem rank_le_two {severity : String} (h : severity ≠ "CRITICAL") : rank severity ≤ 2 := by
  unfold rank
  rw [if_neg h]
  split_ifs <;> omega

theorem covers_nil (priority : String) : Covers priority [] := fun _ h => by cases h

theorem covers_append {priority : String} {alerts : List AgentAlert} {alert : AgentAlert} :
    Covers priority (alerts ++ [alert]) ↔
      Covers priority alerts ∧ rank alert.severity ≤ rank priority := by
  simp [Covers, or_imp, forall_and]

theorem covers_critical (alerts : List AgentAlert) : Covers "CRITICAL" alerts :=
  fun alert _ => rank_le_three alert.severity

theorem Covers.mono {priority priority' : String} {alerts : List AgentAlert}
    (h : Covers priority alerts) (hle : rank priority ≤ rank priority') :
    Covers priority' alerts := fun alert hmem => (h alert hmem).trans hle

/-- A decision is returned unless there is nothing in it. -/
theorem returned_iff {δ α : Type} {P : δ → Prop} {d : δ} {c : Prop} [Decidable c] {a b : α}
    (hnone : c → P d) :
    (∀ d', (if c then ((none : Option δ), a) else (some d, b)).1 = some d' → P d') ↔ P d := by
  by_cases hc : c
  · rw [if_pos hc]
    exact iff_of_true (fun _ h => by cases h) (hnone hc)
  · rw [if_neg hc]
    constructor
    · intro h
      exact h d rfl
    · rintro h _ heq
      cases heq
      exact h

/-! ### The equipment agent -/

open EquipmentAgent (anomalyAlarmThreshold anomalyCriticalThreshold alarm_lt_critical)

/-- A sensor is so far off that the priority is raised. -/
def Raised (alarms : List Alarm) : Prop := ∃ alarm ∈ alarms, anomalyAlarmThreshold < alarm.anomaly

def NoUrgentTool (warnings : List ToolWarning) : Prop := ∀ tw ∈ warnings, tw.urgency ≠ "긴급"

theorem raised_append (alarms : List Alarm) (alarm : Alarm) :
    Raised (alarms ++ [alarm]) ↔ Raised alarms ∨ anomalyAlarmThreshold < alarm.anomaly := by
  simp [Raised, or_and_right, exists_or]

structure AfterAlarms (alarms : List Alarm) (d : EquipmentDecision) : Prop where
  priority : 2 ≤ rank d.priority ↔ Raised alarms
  covers : Covers d.priority d.alertsToSend
  severe : ∀ alert ∈ d.alertsToSend, 2 ≤ rank alert.severity

theorem reasonAlarm_step (printer : Printer) (alarms : List Alarm)
    (r : EquipmentAgent.Reasoning) (alarm : Alarm) (h : AfterAlarms alarms r.1) :
    AfterAlarms (alarms ++ [alarm]) (EquipmentAgent.reasonAlarm printer r alarm).1 := by
  obtain ⟨d,base⟩ := r
  obtain ⟨hpriority,hcovers,hsevere⟩ := h
  unfold EquipmentAgent.reasonAlarm
  dsimp only at hpriority hcovers hsevere ⊢
  by_cases hcritical : anomalyCriticalThreshold < alarm.anomaly
  · have hraised := alarm_lt_critical.trans hcritical
    rw [if_pos hcritical]
    refine ⟨?_,covers_critical _,?_⟩
    · rw [raised_append]
      exact iff_of_true (by simp) (.inr hraised)
    · intro alert hmem
      rcases List.mem_append.mp hmem with hold | hnew
      · exact hsevere alert hold
      · rw [List.mem_singleton.mp hnew]
        simp
  · rw [if_neg hcritical]
    by_cases hraised : anomalyAlarmThreshold < alarm.anomaly
    · rw [if_pos hraised]
      by_cases hmax : d.priority = "CRITICAL"
      · rw [if_neg (not_not_intro hmax), hmax]
        refine ⟨?_,covers_critical _,hsevere⟩
        rw [raised_append]
        exact iff_of_true (by simp) (.inr hraised)
      · rw [if_pos hmax]
        refine ⟨?_,hcovers.mono (rank_le_two hmax),hsevere⟩
        rw [raised_append]
        exact iff_of_true (by simp) (.inr hraised)
    · rw [if_neg hraised]
      refine ⟨?_,hcovers,hsevere⟩
      rw [raised_append, or_iff_left hraised]
      exact hpriority

/-- After the tools the priority is what it was before them. -/
structure AfterTools (start : String) (warnings : List ToolWarning) (d : EquipmentDecision) :
    Prop where
  priority : d.priority = start
  covers : Covers start d.alertsToSend ↔ 2 ≤ rank start ∨ NoUrgentTool warnings
  severe : ∀ alert ∈ d.alertsToSend, 2 ≤ rank alert.severity

theorem reasonTool_step (start : String) (warnings : List ToolWarning)
    (r : EquipmentAgent.Reasoning) (tw : ToolWarning) (h : AfterTools start warnings r.1) :
    AfterTools start (warnings ++ [tw]) (EquipmentAgent.reasonTool r tw).1 := by
  obtain ⟨d,base⟩ := r
  obtain ⟨hpriority,hcovers,hsevere⟩ := h
  have htools : NoUrgentTool (warnings ++ [tw]) ↔
      NoUrgentTool warnings ∧ tw.urgency ≠ "긴급" := by
    simp [NoUrgentTool, or_imp, forall_and]
  unfold EquipmentAgent.reasonTool
  dsimp only at hpriority hcovers hsevere ⊢
  by_cases hurgent : tw.urgency = "긴급"
  · rw [if_pos hurgent]
    refine ⟨hpriority,?_,?_⟩
    · rw [covers_append, hcovers, htools]
      simp only [rank_high]
      tauto
    · intro alert hmem
      rcases List.mem_append.mp hmem with hold | hnew
      · exact hsevere alert hold
      · rw [List.mem_singleton.mp hnew]
        simp
  · rw [if_neg hurgent]
    refine ⟨hpriority,?_,hsevere⟩
    rw [hcovers, htools, and_iff_left hurgent]

/-- A short remaining life only lifts a low priority to a medium one. -/
structure AfterHealth (d d' : EquipmentDecision) : Prop where
  alerts : d'.alertsToSend = d.alertsToSend
  priority : d'.priority = d.priority ∨ rank d.priority ≤ 1 ∧ rank d'.priority ≤ 1

theorem reasonHealth_step (d : EquipmentDecision) (r : EquipmentAgent.Reasoning)
    (health : StationHealth) (h : AfterHealth d r.1) :
    AfterHealth d (EquipmentAgent.reasonHealth r health).1 := by
  obtain ⟨d',base⟩ := r
  obtain ⟨halerts,hpriority⟩ := h
  unfold EquipmentAgent.reasonHealth
  dsimp only at halerts hpriority ⊢
  split
  · refine ⟨halerts,?_⟩
    dsimp only
    split
    · rename_i hlow
      right
      rcases hpriority with hsame | ⟨hold,_⟩
      · rw [← hsame, hlow]
        simp
      · exact ⟨hold,by simp⟩
    · exact hpriority
  · exact ⟨halerts,hpriority⟩

theorem AfterHealth.covers_iff {d d' : EquipmentDecision} (h : AfterHealth d d')
    (hsevere : ∀ alert ∈ d.alertsToSend, 2 ≤ rank alert.severity) :
    Covers d'.priority d'.alertsToSend ↔ Covers d.priority d.alertsToSend := by
  rw [h.alerts]
  rcases h.priority with hsame | ⟨hlow,hlow'⟩
  · rw [hsame]
  · have hempty : ∀ priority, rank priority ≤ 1 →
        (Covers priority d.alertsToSend ↔ d.alertsToSend = []) := by
      intro priority hpriority
      constructor
      · intro hcovers
        rw [List.eq_nil_iff_forall_not_mem]
        intro alert hmem
        have hbelow := hcovers alert hmem
        have habove := hsevere alert hmem
        omega
      · intro hnil
        rw [hnil]
        exact covers_nil priority
    rw [hempty _ hlow, hempty _ hlow']

theorem equipment_assess_iff (printer : Printer) (base : BaseAgent EquipmentDecision)
    (obs : EquipmentObservation) :
    Covers (EquipmentAgent.assess printer base obs).1.priority
        (EquipmentAgent.assess printer base obs).1.alertsToSend ↔
      Raised obs.alarms ∨ NoUrgentTool obs.toolWarnings := by
  unfold EquipmentAgent.assess
  dsimp only
  generalize hstart : ((⟨[],[],[],"LOW"⟩, base) : EquipmentAgent.Reasoning) = start
  have halarms : AfterAlarms obs.alarms
      (obs.alarms.foldl (EquipmentAgent.reasonAlarm printer) start).1 := by
    refine Folds.foldl_invariant (I := fun alarms (r : EquipmentAgent.Reasoning) =>
      AfterAlarms alarms r.1) (reasonAlarm_step printer) ?_ obs.alarms
    rw [← hstart]
    refine ⟨iff_of_false (by simp) ?_,covers_nil _,fun _ h => by cases h⟩
    rintro ⟨_,hmem,_⟩
    cases hmem
  generalize obs.alarms.foldl (EquipmentAgent.reasonAlarm printer) start = alarmed at halarms ⊢
  have htools : AfterTools alarmed.1.priority obs.toolWarnings
      (obs.toolWarnings.foldl EquipmentAgent.reasonTool alarmed).1 := by
    refine Folds.foldl_invariant (I := fun warnings (r : EquipmentAgent.Reasoning) =>
      AfterTools alarmed.1.priority warnings r.1) (reasonTool_step _) ?_ obs.toolWarnings
    refine ⟨rfl,iff_of_true halarms.covers (.inr ?_),halarms.severe⟩
    intro _ hmem
    cases hmem
  generalize obs.toolWarnings.foldl EquipmentAgent.reasonTool alarmed = tooled at htools ⊢
  have hhealth : AfterHealth tooled.1
      ((obs.stationHealth.map Prod.snd).foldl EquipmentAgent.reasonHealth tooled).1 :=
    Folds.foldl_invariant (I := fun _ (r : EquipmentAgent.Reasoning) => AfterHealth tooled.1 r.1)
      (fun _ => reasonHealth_step tooled.1) ⟨rfl,.inl rfl⟩ _
  rw [hhealth.covers_iff htools.severe, htools.priority, htools.covers, halarms.priority]

/-- The decision, if there is one, covers its alerts. -/
def EquipmentCovers (printer : Printer) (ea : EquipmentAgent) (obs : EquipmentObservation) : Prop :=
  ∀ d, (ea.reason printer obs).1 = some d → Covers d.priority d.alertsToSend

theorem equipment_covers_iff (printer : Printer) (ea : EquipmentAgent)
    (obs : EquipmentObservation) :
    EquipmentCovers printer ea obs ↔ Raised obs.alarms ∨ NoUrgentTool obs.toolWarnings := by
  rw [← equipment_assess_iff printer ea.base obs]
  unfold EquipmentCovers EquipmentAgent.reason
  generalize EquipmentAgent.assess printer ea.base obs = r
  obtain ⟨d,base⟩ := r
  apply returned_iff
  intro hempty
  rw [List.isEmpty_iff.mp hempty.2]
  exact covers_nil _

/-! ### The quality agent -/

/-- The priority is low, or at least medium, and covers the alerts so far. -/
structure Kept (priority : String) (alerts : List AgentAlert) : Prop where
  known : priority = "LOW" ∨ 1 ≤ rank priority
  covers : Covers priority alerts

theorem reasonCpk_step (r : QualityAgent.Reasoning) (entry : String × CpkInfo)
    (h : r.1.priority = "HIGH" ∧ Covers "HIGH" r.1.alerts) :
    (QualityAgent.reasonCpk r entry).1.priority = "HIGH" ∧
      Covers "HIGH" (QualityAgent.reasonCpk r entry).1.alerts := by
  refine ⟨h.1,?_⟩
  exact covers_append.mpr ⟨h.2,le_refl _⟩

theorem assessCpk_kept (mode : String) (obs : QualityObservation) (base : BaseAgent QualityDecision) :
    Kept (QualityAgent.assessCpk mode obs base).1.priority
      (QualityAgent.assessCpk mode obs base).1.alerts := by
  unfold QualityAgent.assessCpk
  dsimp only
  split
  · exact ⟨.inl rfl,covers_nil _⟩
  · have hfold := Folds.foldl_invariant (I := fun _ (r : QualityAgent.Reasoning) =>
      r.1.priority = "HIGH" ∧ Covers "HIGH" r.1.alerts) (fun _ => reasonCpk_step)
      (b := (⟨"강화",[],[],"HIGH"⟩, base)) ⟨rfl,covers_nil _⟩
      (obs.cpkStatus.filter fun entry => QualityAgent.isCriticalCpk entry.2)
    refine ⟨.inr ?_,?_⟩
    · rw [hfold.1]
      simp
    · rw [hfold.1]
      exact hfold.2

theorem reasonViolation_step (r : QualityAgent.Reasoning) (v : SpcViolation)
    (h : Kept r.1.priority r.1.alerts) :
    Kept (QualityAgent.reasonViolation r v).1.priority
      (QualityAgent.reasonViolation r v).1.alerts := by
  obtain ⟨d,base⟩ := r
  obtain ⟨hknown,hcovers⟩ := h
  unfold QualityAgent.reasonViolation
  dsimp only at hknown hcovers ⊢
  split
  · rename_i hlow
    rw [hlow] at hcovers
    exact ⟨.inr (by simp),covers_append.mpr ⟨hcovers.mono (by simp),by simp⟩⟩
  · rename_i hlow
    have hmedium : 1 ≤ rank d.priority := hknown.resolve_left hlow
    exact ⟨.inr hmedium,covers_append.mpr ⟨hcovers,by simpa using hmedium⟩⟩

def QualityCovers (qa : QualityAgent) (obs : QualityObservation) : Prop :=
  ∀ d, (qa.reason obs).1 = some d → Covers d.priority d.alerts

theorem quality_covers (qa : QualityAgent) (obs : QualityObservation) : QualityCovers qa obs := by
  intro d h
  have hcovers : Covers (qa.assess obs).1.priority (qa.assess obs).1.alerts := by
    have hkept : Kept (obs.spcViolations.foldl QualityAgent.reasonViolation
        (QualityAgent.assessCpk qa.inspectionMode obs qa.base)).1.priority
        (obs.spcViolations.foldl QualityAgent.reasonViolation
          (QualityAgent.assessCpk qa.inspectionMode obs qa.base)).1.alerts :=
      Folds.foldl_invariant (I := fun _ (r : QualityAgent.Reasoning) =>
        Kept r.1.priority r.1.alerts) (fun _ => reasonViolation_step)
        (assessCpk_kept qa.inspectionMode obs qa.base) obs.spcViolations
    unfold QualityAgent.assess QualityAgent.assessTrend
    dsimp only
    split
    · exact covers_critical _
    · exact hkept.covers
  unfold QualityAgent.reason at h
  dsimp only at h
  split at h
  · cases h
  · cases h
    exact hcovers

/-! ### The supply agent -/

/-- Whatever the agent alerts to, it decides with the highest priority. -/
def Alarmed (d : SupplyDecision) : Prop := ∀ alert ∈ d.alerts, d.priority = "CRITICAL"

theorem Alarmed.covers {d : SupplyDecision} (h : Alarmed d) : Covers d.priority d.alerts := by
  intro alert hmem
  rw [h alert hmem]
  exact rank_le_three alert.severity

theorem reasonShortages_alarmed {d d' : SupplyDecision} {shortages : List Shortage}
    {sa sa' : SupplyAgent} (hd : Alarmed d)
    (h : SupplyAgent.reasonShortages d shortages sa = .ok d' sa') : Alarmed d' := by
  induction shortages generalizing d sa with
  | nil =>
    cases h
    exact hd
  | cons s shortages ih =>
    obtain ⟨_,_,_,h⟩ := Stateful.bind_ok_iff.mp h
    exact ih (fun _ _ => rfl) h

theorem reasonReorders_alarmed {printer : Printer} {d d' : SupplyDecision}
    {reorders : List ReorderNeed} {sa sa' : SupplyAgent} (hd : Alarmed d)
    (h : SupplyAgent.reasonReorders printer d reorders sa = .ok d' sa') : Alarmed d' := by
  induction reorders generalizing d sa with
  | nil =>
    cases h
    exact hd
  | cons r reorders ih =>
    obtain ⟨days,_,_,h⟩ := Stateful.bind_ok_iff.mp h
    obtain ⟨_,_,_,h⟩ := Stateful.bind_ok_iff.mp h
    refine ih ?_ h
    intro alert hmem
    have hcritical : d.priority = "CRITICAL" := hd alert hmem
    exact (if_pos hcritical).trans hcritical

/-- The decision, where `reason` does not raise before it. -/
def SupplyCovers (printer : Printer) (sa : SupplyAgent) (obs : SupplyObservation) : Prop :=
  ∀ d sa', SupplyAgent.reason printer obs sa = .ok (some d) sa' → Covers d.priority d.alerts

theorem supply_covers (printer : Printer) (sa : SupplyAgent) (obs : SupplyObservation) :
    SupplyCovers printer sa obs := by
  intro d sa' h
  unfold SupplyAgent.reason at h
  obtain ⟨d1,_,hshort,h⟩ := Stateful.bind_ok_iff.mp h
  obtain ⟨d2,_,hreorder,h⟩ := Stateful.bind_ok_iff.mp h
  have hnone : Alarmed { reorders := [], alerts := [], priority := "LOW" } :=
    fun _ hmem => by cases hmem
  have hd2 : Alarmed d2 := reasonReorders_alarmed (reasonShortages_alarmed hnone hshort) hreorder
  split at h
  · obtain ⟨_,_,_,h⟩ := Stateful.bind_ok_iff.mp h
    cases h
  · cases h
    exact hd2.covers

/-! ### The demand agent -/

/-- The priority is low without alerts, or high with alerts that are at most high. -/
def LowOrHigh (found : Prop) (priority : String) (alerts : List AgentAlert) : Prop :=
  (¬ found ∧ priority = "LOW" ∧ alerts = []) ∨
    found ∧ priority = "HIGH" ∧ alerts ≠ [] ∧ ∀ alert ∈ alerts, alert.severity = "HIGH"

theorem LowOrHigh.covers {found : Prop} {priority : String} {alerts : List AgentAlert}
    (h : LowOrHigh found priority alerts) : Covers priority alerts := by
  rcases h with ⟨_,_,hnil⟩ | ⟨_,hhigh,_,hall⟩
  · rw [hnil]
    exact covers_nil _
  · intro alert hmem
    rw [hall alert hmem, hhigh]

theorem LowOrHigh.append {found : Prop} {priority : String} {alerts : List AgentAlert}
    (h : LowOrHigh found priority alerts) (message : String) {found' : Prop} (hfound : found') :
    LowOrHigh found' "HIGH" (alerts ++ [⟨"PA","HIGH",message⟩]) := by
  refine .inr ⟨hfound,rfl,by simp,?_⟩
  intro alert hmem
  rcases List.mem_append.mp hmem with hold | hnew
  · rcases h with ⟨_,_,hnil⟩ | ⟨_,_,_,hall⟩
    · rw [hnil] at hold
      cases hold
    · exact hall alert hold
  · rw [List.mem_singleton.mp hnew]

theorem reasonRisk_step (risks : List AtRiskOrder) (r : DemandAgent.Reasoning)
    (risk : AtRiskOrder) (h : LowOrHigh (risks ≠ []) r.1.priority r.1.alerts) :
    LowOrHigh (risks ++ [risk] ≠ []) (DemandAgent.reasonRisk r risk).1.priority
      (DemandAgent.reasonRisk r risk).1.alerts :=
  h.append _ (by simp)

/-- The demand exceeds the capacity, and nothing else has raised the priority. -/
def CapacityAlone (obs : DemandObservation) : Prop :=
  11/10 < obs.capacityUtilization ∧ obs.atRiskOrders = [] ∧ 17/20 ≤ obs.onTimeRate

theorem demand_assess_iff (base : BaseAgent DemandDecision) (obs : DemandObservation) :
    Covers (DemandAgent.assess base obs).1.priority (DemandAgent.assess base obs).1.alerts ↔
      ¬ CapacityAlone obs := by
  have hrisk := Folds.foldl_invariant (I := fun risks (r : DemandAgent.Reasoning) =>
    LowOrHigh (risks ≠ []) r.1.priority r.1.alerts) reasonRisk_step
    (b := (⟨[],[],"LOW"⟩, base)) (.inl ⟨fun h => h rfl,rfl,rfl⟩) obs.atRiskOrders
  unfold DemandAgent.assess DemandAgent.reasonOnTime DemandAgent.reasonCapacity CapacityAlone
  dsimp only
  generalize obs.atRiskOrders.foldl DemandAgent.reasonRisk (⟨[],[],"LOW"⟩, base) = r at hrisk ⊢
  by_cases hlate : obs.onTimeRate < 17/20
  · rw [if_pos hlate]
    refine iff_of_true ?_ ?_
    · split <;> exact covers_critical _
    · rintro ⟨_,_,hontime⟩
      linarith
  · rw [if_neg hlate]
    by_cases hover : 11/10 < obs.capacityUtilization
    · rw [if_pos hover]
      rw [covers_append, and_iff_right hrisk.covers]
      rcases hrisk with ⟨hnone,hlow,_⟩ | ⟨hsome,hhigh,_⟩
      · refine iff_of_false ?_ (not_not_intro ⟨hover,not_not.mp hnone,not_lt.mp hlate⟩)
        rw [hlow]
        simp
      · refine iff_of_true ?_ fun h => hsome h.2.1
        rw [hhigh]
        simp
    · rw [if_neg hover]
      exact iff_of_true hrisk.covers fun h => hover h.1

def DemandCovers (da : DemandAgent) (obs : DemandObservation) : Prop :=
  ∀ d, (da.reason obs).1 = some d → Covers d.priority d.alerts

theorem demand_covers_iff (da : DemandAgent) (obs : DemandObservation) :
    DemandCovers da obs ↔ ¬ CapacityAlone obs := by
  rw [← demand_assess_iff da.base obs]
  unfold DemandCovers DemandAgent.reason
  generalize DemandAgent.assess da.base obs = r
  obtain ⟨d,base⟩ := r
  apply returned_iff
  intro hempty
  rw [List.isEmpty_iff.mp hempty.1]
  exact covers_nil _

/-! ### The inventory agent -/

def Overloaded (alerts : List WipAlert) : Prop := ∃ wa ∈ alerts, wa.status = "과적"

/-- The bottleneck has a low effectiveness. -/
def SlowBottleneck (obs : InventoryObservation) : Prop :=
  ∃ bn, obs.bottleneck = some bn ∧ bn ≠ "" ∧
    (Assoc.get obs.stationUtilization bn).getD 1 < 13/20

def MuchScrap (obs : InventoryObservation) : Prop := 1/20 < obs.scrapRate

theorem reasonWip_step (alerts : List WipAlert) (r : InventoryAgent.Reasoning) (wa : WipAlert)
    (h : LowOrHigh (Overloaded alerts) r.1.priority r.1.alerts) :
    LowOrHigh (Overloaded (alerts ++ [wa])) (InventoryAgent.reasonWip r wa).1.priority
      (InventoryAgent.reasonWip r wa).1.alerts := by
  have hover : Overloaded (alerts ++ [wa]) ↔ Overloaded alerts ∨ wa.status = "과적" := by
    simp [Overloaded, or_and_right, exists_or]
  unfold InventoryAgent.reasonWip
  dsimp only
  by_cases hfull : wa.status = "과적"
  · rw [if_pos hfull]
    exact h.append _ (hover.mpr (.inr hfull))
  · rw [if_neg hfull]
    have hsame : Overloaded (alerts ++ [wa]) = Overloaded alerts :=
      propext (hover.trans (or_iff_left hfull))
    rw [hsame]
    exact h

/-- What the bottleneck leaves: a slow one is alerted to as medium, with a priority of
medium even where it was high. -/
def BottleneckAssessed (obs : InventoryObservation) (d : InventoryDecision) : Prop :=
  (¬ SlowBottleneck obs ∧ LowOrHigh (Overloaded obs.wipAlerts) d.priority d.alerts) ∨
  SlowBottleneck obs ∧ d.priority = "MEDIUM" ∧
    (Covers "MEDIUM" d.alerts ↔ ¬ Overloaded obs.wipAlerts)

theorem reasonBottleneck_assessed (obs : InventoryObservation) (r : InventoryAgent.Reasoning)
    (h : LowOrHigh (Overloaded obs.wipAlerts) r.1.priority r.1.alerts) :
    BottleneckAssessed obs (InventoryAgent.reasonBottleneck obs r).1 := by
  obtain ⟨d,base⟩ := r
  unfold BottleneckAssessed SlowBottleneck InventoryAgent.reasonBottleneck
  dsimp only at h ⊢
  cases hbn : obs.bottleneck with
  | none =>
    refine .inl ⟨?_,h⟩
    rintro ⟨_,hsome,_⟩
    cases hsome
  | some bn =>
    dsimp only
    by_cases hslow : bn ≠ "" ∧ (Assoc.get obs.stationUtilization bn).getD 1 < 13/20
    · rw [if_pos hslow]
      refine .inr ⟨⟨bn,rfl,hslow⟩,?_,?_⟩
      · rcases h with ⟨_,hlow,_⟩ | ⟨_,hhigh,_⟩
        · exact (congrArg (InventoryAgent.maxText · "MEDIUM") hlow).trans (by decide)
        · exact (congrArg (InventoryAgent.maxText · "MEDIUM") hhigh).trans (by decide)
      · rw [covers_append]
        rcases h with ⟨hno,_,hnil⟩ | ⟨hover,_,hsome,hall⟩
        · rw [hnil]
          exact iff_of_true ⟨covers_nil _,le_refl _⟩ hno
        · refine iff_of_false ?_ (not_not_intro hover)
          rintro ⟨hcovers,_⟩
          obtain ⟨alert,hmem⟩ := List.exists_mem_of_ne_nil _ hsome
          have hrank := hcovers alert hmem
          rw [hall alert hmem] at hrank
          simp at hrank
    · rw [if_neg hslow]
      refine .inl ⟨?_,h⟩
      rintro ⟨_,hsome,hslow'⟩
      cases hsome
      exact hslow hslow'

/-- A slow bottleneck with an overload, which pulls the priority down, or scrap alone. -/
def Underrated (obs : InventoryObservation) : Prop :=
  (SlowBottleneck obs ∧ Overloaded obs.wipAlerts) ∨
    (MuchScrap obs ∧ ¬ SlowBottleneck obs ∧ ¬ Overloaded obs.wipAlerts)

theorem inventory_assess_iff (base : BaseAgent InventoryDecision) (obs : InventoryObservation) :
    Covers (InventoryAgent.assess base obs).1.priority (InventoryAgent.assess base obs).1.alerts ↔
      ¬ Underrated obs := by
  have hwip := Folds.foldl_invariant (I := fun alerts (r : InventoryAgent.Reasoning) =>
    LowOrHigh (Overloaded alerts) r.1.priority r.1.alerts) reasonWip_step
    (b := (⟨[],[],"LOW"⟩, base)) (.inl ⟨by simp [Overloaded],rfl,rfl⟩) obs.wipAlerts
  have hbn := reasonBottleneck_assessed obs _ hwip
  unfold InventoryAgent.assess InventoryAgent.reasonScrap Underrated MuchScrap
  dsimp only
  generalize InventoryAgent.reasonBottleneck obs
    (obs.wipAlerts.foldl InventoryAgent.reasonWip (⟨[],[],"LOW"⟩, base)) = r at hbn ⊢
  have hmedium : ∀ priority alerts message, Covers priority (alerts ++ [⟨"PA","MEDIUM",message⟩]) ↔
      Covers priority alerts ∧ 1 ≤ rank priority := by
    intro priority alerts message
    rw [covers_append, rank_medium]
  rcases hbn with ⟨hslow,hwip⟩ | ⟨hslow,hpriority,hcovers⟩
  · by_cases hscrap : 1/20 < obs.scrapRate
    · rw [if_pos hscrap, hmedium, and_iff_right hwip.covers]
      rcases hwip with ⟨hno,hlow,_⟩ | ⟨hover,hhigh,_⟩
      · rw [hlow]
        exact iff_of_false (by simp) (not_not_intro (.inr ⟨hscrap,hslow,hno⟩))
      · rw [hhigh]
        refine iff_of_true (by simp) ?_
        rintro (⟨hslow',_⟩ | ⟨_,_,hno⟩)
        · exact hslow hslow'
        · exact hno hover
    · rw [if_neg hscrap]
      refine iff_of_true hwip.covers ?_
      rintro (⟨hslow',_⟩ | ⟨hscrap',_⟩)
      · exact hslow hslow'
      · exact hscrap hscrap'
  · have hunder : (SlowBottleneck obs ∧ Overloaded obs.wipAlerts) ∨
        (1/20 < obs.scrapRate ∧ ¬ SlowBottleneck obs ∧ ¬ Overloaded obs.wipAlerts) ↔
          Overloaded obs.wipAlerts := by
      tauto
    rw [hunder, ← hcovers]
    by_cases hscrap : 1/20 < obs.scrapRate
    · rw [if_pos hscrap, hmedium, hpriority]
      simp
    · rw [if_neg hscrap, hpriority]

def InventoryCovers (ia : InventoryAgent) (obs : InventoryObservation) : Prop :=
  ∀ d, (ia.reason obs).1 = some d → Covers d.priority d.alerts

theorem inventory_covers_iff (ia : InventoryAgent) (obs : InventoryObservation) :
    InventoryCovers ia obs ↔ ¬ Underrated obs := by
  rw [← inventory_assess_iff ia.base obs]
  unfold InventoryCovers InventoryAgent.reason
  generalize InventoryAgent.assess ia.base obs = r
  obtain ⟨d,base⟩ := r
  apply returned_iff
  intro hempty
  rw [List.isEmpty_iff.mp hempty.2]
  exact covers_nil _

/-! ### The five together -/

/-- A press whose die has 3 % of its life left. -/
def wornStation : StationData :=
  { name := "블랭킹 프레스", type := "PRESS", state := "가동", toolLifePct := 3
    toolRegion := "급격마모", oee := ⟨1,1,1,1⟩, mtbf := none, sensors := [] }

end ManufacturingMas.Proofs.PriorityCover
