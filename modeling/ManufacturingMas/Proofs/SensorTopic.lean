import ManufacturingMas.Proofs.UnitBalance
import ManufacturingMas.Runtime.EnvLoops

/-! What the subscribers of the sensor topic get of a run of either runtime. -/

namespace ManufacturingMas.Proofs.SensorTopic
open Py Environment FactorySnapshot MqttBridge EnvLoops ScenarioRuntime

variable {σ : Type} {root : ℚ → ℚ} {w : World σ} {cb : Callback σ} {rt : Runtime}
  {ds : List TickDraws}

def callsOf (id : Nat) (w : World σ) : List Call := w.calls.filter (·.callback = id)

/-- The loop ends, and has called each subscriber of the sensor topic once for every
tick, with the cycle and the values of its snapshot. -/
def PublishedOnce (root : ℚ → ℚ) (ds : List TickDraws) (rt : Runtime) (w : World σ) : Prop :=
  ∀ cb ∈ w.matching "factory/sensors", ∃ rt' w',
    (∃ enough, ∀ depth ≥ enough, runLoop root depth ds rt w = .returned (rt', w')) ∧
    callsOf cb.id w' = callsOf cb.id w ++ (snapshots root ds rt).map fun snap =>
      ⟨cb.id,"factory/sensors",sensorPayload snap⟩

/-- The bridge has no method of the name that both loops call. -/
theorem call_publishDict (depth : Nat) (w : World σ) (topic : String) (data : Dict) :
    call depth "publish_dict" w topic data = .raised w := by
  simp [call, methods]

theorem publishSensors_lost (depth : Nat) (snap : Snapshot) (w : World σ) :
    publishSensors depth snap w = .returned w := by
  rw [publishSensors, call_publishDict]
  rfl

/-- A run of the loop ends and leaves the bridge and its subscribers as they were. -/
theorem runLoop_silent (root : ℚ → ℚ) (ds : List TickDraws) (rt : Runtime) (w : World σ) :
    ∃ rt', ∀ depth, runLoop root depth ds rt w = .returned (rt', w) := by
  induction ds generalizing rt with
  | nil => exact ⟨rt,fun _ => rfl⟩
  | cons d ds ih =>
    obtain ⟨rt',hrest⟩ := ih (rt.tick root d).1
    refine ⟨rt',fun depth => ?_⟩
    simp only [runLoop, publishSensors_lost]
    exact hrest depth

theorem length_snapshots (root : ℚ → ℚ) (ds : List TickDraws) (rt : Runtime) :
    (snapshots root ds rt).length = ds.length := by
  induction ds generalizing rt with
  | nil => rfl
  | cons d ds ih => exact congrArg Nat.succ (ih _)

theorem no_tick_of_published (hcb : cb ∈ w.matching "factory/sensors")
    (h : PublishedOnce root ds rt w) : ds = [] := by
  obtain ⟨rt₁,w₁,⟨enough,hends⟩,hcalls⟩ := h cb hcb
  obtain ⟨rt₂,hsilent⟩ := runLoop_silent root ds rt w
  have hsame : w₁ = w := by
    have hboth := (hends enough le_rfl).symm.trans (hsilent enough)
    cases hboth
    rfl
  rw [hsame, List.self_eq_append_right, List.map_eq_nil_iff] at hcalls
  rw [← List.length_eq_zero_iff, ← length_snapshots root ds rt, hcalls, List.length_nil]

/-- The subscribers of the sensor topic get every tick of a run exactly when there is
no tick, or no subscriber. -/
theorem published_once_iff (root : ℚ → ℚ) (ds : List TickDraws) (rt : Runtime) (w : World σ) :
    PublishedOnce root ds rt w ↔ ds = [] ∨ w.matching "factory/sensors" = [] := by
  constructor
  · intro h
    cases hmatching : w.matching "factory/sensors" with
    | nil => exact .inr rfl
    | cons cb rest =>
      have hcb : cb ∈ w.matching "factory/sensors" := hmatching ▸ List.mem_cons_self
      exact .inl (no_tick_of_published hcb h)
  · rintro (rfl | hnone) cb hcb
    · exact ⟨rt,w,⟨0,fun _ _ => rfl⟩,(List.append_nil _).symm⟩
    · rw [hnone] at hcb
      cases hcb

/-- A listener to everything the factory publishes. -/
def listened : World Unit :=
  { bridge :=
      { locked := false, subscriptions := [("factory/#", [⟨0,fun _ _ => .done⟩])]
        localCallbacks := [("factory/#", [⟨0,fun _ _ => .done⟩])], published := 0, errors := 0 }
    state := (), calls := [] }

theorem listener_not_called :
    (subscribe (World.new ()) "factory/#" ⟨0,fun _ _ => .done⟩ = .returned listened) ∧
    ¬ PublishedOnce id [UnitBalance.quietTick]
      (.factory { factory := Factory.new ShipmentLedger.plainDraws, totalEvents := 0 }) listened := by
  refine ⟨rfl,fun h => ?_⟩
  have hcb : ⟨0,fun _ _ => .done⟩ ∈ listened.matching "factory/sensors" := by
    have hmatches : topicMatches "factory/#" "factory/sensors" = true := by decide
    simp [listened, World.matching, hmatches]
  exact List.cons_ne_nil _ _ (no_tick_of_published hcb h)

end ManufacturingMas.Proofs.SensorTopic
