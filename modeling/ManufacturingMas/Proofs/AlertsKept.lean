import ManufacturingMas.Proofs.PlanningHistory

/-! What becomes of a CRITICAL alert that is taken while the planning agent may not
begin a round. -/

namespace ManufacturingMas.Proofs.AlertsKept
open Py Protocol Messaging Agents PlanningLoop PlanningHistory

variable {σ : Type}

/-- The alerts taken from the inbox since the last round began. -/
def takenSince (history : List PaEvent) : List Dict :=
  history.foldl (fun taken e =>
    match e with
    | .sensed alerts => taken ++ alerts
    | .began _ _ => []
    | .reasoned _ _ _ => taken) []

/-- The agent reasons about `obs`, with result `result`, more than ten cycles after
its last round, and a CRITICAL alert has been taken since that round began. -/
def Due (history : List PaEvent) (last cycle : ℤ) (obs : Dict)
    (result : Except PyErr (Option Dict)) : Prop :=
  ∃ before after, history = before ++ .reasoned (.int last) obs result :: after ∧
    cycleOf obs = .int cycle ∧ 10 < cycle - last ∧ ∃ alert ∈ takenSince before, Critical alert

/-- No CRITICAL alert is lost: whenever a round is due, reason asks for one. -/
def Kept (history : List PaEvent) : Prop :=
  ∀ last cycle obs result, Due history last cycle obs result → Initiates result

/-- Whenever a round is due, the alerts of this very cycle hold a CRITICAL one or two
HIGH ones, or the effectiveness has been low for more than thirty cycles. -/
def Covered (history : List PaEvent) : Prop :=
  ∀ last cycle obs result, Due history last cycle obs result →
    ∃ alerts avgOee, Reads obs cycle alerts avgOee ∧
      (¬ Quiet alerts ∨ Slow (cycle - last) avgOee)

theorem reads_unique {obs : Dict} {c c' : ℤ} {alerts alerts' : List Dict} {x x' : PyFloat}
    (h : Reads obs c alerts x) (h' : Reads obs c' alerts' x') :
    c = c' ∧ alerts = alerts' ∧ x = x' := by
  refine ⟨?_,?_,?_⟩
  · injection h.cycle.symm.trans h'.cycle
  · injection h.alerts.symm.trans h'.alerts
  · injection h.avgOee.symm.trans h'.avgOee

/-- Every call of reason in a trace decides by what it reads. -/
theorem trace_reasoned {es : List PaEvent} {last : ℤ} {pending : List Dict}
    (h : Trace es last pending) {l : Val} {obs : Dict} {result : Except PyErr (Option Dict)}
    (hmem : PaEvent.reasoned l obs result ∈ es) :
    ∃ last cycle alerts avgOee, l = .int last ∧ Reads obs cycle alerts avgOee ∧
      (Initiates result ↔ Asks (cycle - last) alerts avgOee) := by
  induction h with
  | start => cases hmem
  | sense _ alerts ih | begin _ hasks ih =>
    rcases List.mem_append.mp hmem with hold | hnew
    · exact ih hold
    · cases List.mem_singleton.mp hnew
  | @reason es last pending _ obs cycle avgOee result hreads hasks ih =>
    rcases List.mem_append.mp hmem with hold | hnew
    · exact ih hold
    · cases List.mem_singleton.mp hnew
      exact ⟨last,cycle,pending,avgOee,rfl,hreads,hasks⟩

/-- At a due cycle reason asks for a round exactly for what it reads there. -/
theorem due_initiates_iff {es : List PaEvent} {last : ℤ} {pending : List Dict}
    (h : Trace es last pending) {l cycle : ℤ} {obs : Dict} {result : Except PyErr (Option Dict)}
    (hdue : Due es l cycle obs result) :
    Initiates result ↔ ∃ alerts avgOee, Reads obs cycle alerts avgOee ∧
      (¬ Quiet alerts ∨ Slow (cycle - l) avgOee) := by
  obtain ⟨before,after,heq,hcycle,hcool,_⟩ := hdue
  have hmem : PaEvent.reasoned (.int l) obs result ∈ es := by simp [heq]
  obtain ⟨l',c,alerts,avgOee,hl,hreads,hiff⟩ := trace_reasoned h hmem
  injection hl with hl
  subst hl
  have hc : c = cycle := by injection hreads.cycle.symm.trans hcycle
  subst hc
  rw [hiff]
  constructor
  · intro hasks
    exact ⟨alerts,avgOee,hreads,hasks.1⟩
  · rintro ⟨alerts',avgOee',hreads',hown⟩
    obtain ⟨_,rfl,rfl⟩ := reads_unique hreads hreads'
    exact ⟨hown,hcool⟩

/-- The runs of the agent's loop that lose no CRITICAL alert are those in which every
cycle where a round is due has its own reason for one. -/
theorem kept_iff_covered (rt : PaRuntime σ) (mail : Mail σ) (line : List Machines.WorkCenter)
    (ticks : List (PaTick σ)) :
    let history := (Runs.run (runPa rt) (.initial mail line) ticks).world.rest.history
    Kept history ↔ Covered history := by
  intro history
  obtain ⟨last,_,htrace⟩ := run_traced rt mail line ticks
  constructor
  · intro hkept l cycle obs result hdue
    exact (due_initiates_iff htrace hdue).mp (hkept l cycle obs result hdue)
  · intro hcovered l cycle obs result hdue
    exact (due_initiates_iff htrace hdue).mpr (hcovered l cycle obs result hdue)

/-- A runtime without other agents, router and broker. -/
def alone : PaRuntime Unit :=
  { llm := none, agents := [], decisionRouter := none, broker := none
    route := fun _ _ _ _ _ mail => (.ok none, mail)
    log := fun _ _ _ _ _ mail => (.ok (), mail)
    deliver := fun _ _ _ mail => (.ok (), mail)
    adapter := fun _ => .ok ([],[])
    enrichForRouter := fun snapshot => .ok snapshot }

def plainEnv : CnpEnv (Mail Unit) :=
  { printer := .blank
    conversationId := "conv"
    buildLlmContext := fun _ => .error .typeError
    expired := fun _ => false
    publishCfp := none }

def breakdownAlert : AgentMessage Dict :=
  .create "EA" "PA" .alert [("severity", .str "CRITICAL"), ("summary", .str "spindle")] none
    "conv" "08:00" "m1"

/-- An iteration at a cycle with an OEE of 9/10, with the given messages in the inbox. -/
def tickAt (cycle : ℤ) (inbox : List (AgentMessage Dict)) : PaTick Unit :=
  { snapshot :=
      { dict := [("cycle", .int cycle), ("avg_oee", .float (.fin (9/10)))], cycle := cycle
        avgOee := .fin (9/10), hasCycle := rfl, hasOee := rfl }
    meanwhile := fun mail => { mail with inbox := mail.inbox ++ inbox }
    log := 0, useLanggraph := false, env := plainEnv }

def lostRun : PaState Unit :=
  Runs.run (runPa alone) (.initial ⟨[],()⟩ [])
    [tickAt 11 [breakdownAlert], tickAt 15 [breakdownAlert], tickAt 30 []]

/-- The cycles of the last event, a call of reason that returned None. -/
def quietEnd (history : List PaEvent) : Option (ℤ × ℤ) :=
  match history.getLast? with
  | some (.reasoned (.int last) obs (.ok none)) =>
    match cycleOf obs with
    | .int cycle => some (last, cycle)
    | _ => none
  | _ => none

/-- A history that ends with a quiet cycle outside the cooldown, after a CRITICAL
alert, has lost that alert. -/
theorem not_kept_of_quietEnd {history : List PaEvent} {last cycle : ℤ}
    (hend : quietEnd history = some (last, cycle)) (hcool : 10 < cycle - last)
    (hcritical : (takenSince history.dropLast).any (PlanningAgent.hasSeverity "CRITICAL") = true) :
    ¬ Kept history := by
  intro hkept
  unfold quietEnd at hend
  split at hend
  · rename_i last' obs hlast
    split at hend
    · rename_i cycle' hcycle
      cases hend
      obtain ⟨alert,hmem,hsevere⟩ := List.any_eq_true.mp hcritical
      have hsplit : history = history.dropLast ++ .reasoned (.int last) obs (.ok none) :: [] :=
        (List.dropLast_append_getLast? _ hlast).symm
      obtain ⟨decision,hdecision,hwants⟩ := hkept last cycle obs (.ok none)
        ⟨history.dropLast,[],hsplit,hcycle,hcool,alert,hmem,hsevere⟩
      cases hdecision
      cases hwants
    · cases hend
  · cases hend

/-- A round begins at cycle 11; the CRITICAL alert taken at cycle 15, in the cooldown,
is forgotten at cycle 30. -/
theorem critical_alert_lost : ¬ Kept lostRun.world.rest.history := by
  have hend : quietEnd lostRun.world.rest.history = some (11, 30) := by decide +kernel
  apply not_kept_of_quietEnd hend
  · decide
  · decide +kernel

end ManufacturingMas.Proofs.AlertsKept
