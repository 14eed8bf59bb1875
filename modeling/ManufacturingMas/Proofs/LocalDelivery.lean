import ManufacturingMas.Messaging.MqttBridge

/-! Publications of the fallback: which of them end, and whom they call. -/

namespace ManufacturingMas.Proofs.LocalDelivery
open Py MqttBridge

variable {σ : Type} {publish : Method σ} {topic : String} {data : Dict} {w : World σ}

/-! ### Callbacks that leave the bridge alone -/

/-- The state a callback leaves when it makes its way without the bridge. -/
def alone : Action σ → σ → Option σ
  | .done, s | .raise, s => some s
  | .get next, s => alone (next s) s
  | .set s next, _ => alone next s
  | .publish .., _ | .subscribe .., _ => none

/-- The state that the callbacks leave one after another, if none reaches the bridge. -/
def aloneAll (topic : String) (data : Dict) : List (Callback σ) → σ → Option σ
  | [], s => some s
  | cb :: rest, s => (alone (cb.body topic data) s).bind (aloneAll topic data rest)

/-- Of the callbacks that match, called in the order of their subscriptions, none
reaches a call of the bridge. -/
def Quiet (w : World σ) (topic : String) (data : Dict) : Prop :=
  (aloneAll topic data (w.matching topic) w.state).isSome

instance (w : World σ) (topic : String) (data : Dict) : Decidable (Quiet w topic data) :=
  inferInstanceAs (Decidable ((aloneAll topic data (w.matching topic) w.state).isSome = true))

/-- The publication ends, having called each callback that matches once, in order. -/
def Completes (w : World σ) (topic : String) (data : Dict) : Prop :=
  ∃ w', (∃ enough, ∀ depth ≥ enough, MqttBridge.publish depth w topic data = .returned w') ∧
    w'.calls = w.calls ++ (w.matching topic).map (fun cb => ⟨cb.id,topic,data⟩) ∧
    w'.bridge.locked = false

/-- The publication waits for a lock that it holds itself. -/
def Hangs (w : World σ) (topic : String) (data : Dict) : Prop :=
  ∃ enough, ∀ depth ≥ enough, ∃ w', MqttBridge.publish depth w topic data = .blocked w'

/-- What `publish` would do does not matter to such a callback. -/
theorem run_of_alone {a : Action σ} {s : σ} (h : alone a w.state = some s) :
    (∀ publish, run publish a w = .returned { w with state := s }) ∨
      ∀ publish, run publish a w = .raised { w with state := s } := by
  induction a generalizing w with
  | done =>
    cases h
    exact .inl fun _ => rfl
  | raise =>
    cases h
    exact .inr fun _ => rfl
  | get next ih => exact ih w.state h
  | set s next ih => exact ih h
  | publish => cases h
  | subscribe => cases h

/-- Nothing that is called while the lock is held can publish. -/
def Guarded (publish : Method σ) : Prop :=
  ∀ w topic data, w.bridge.locked = true → ∃ w', publish w topic data = .blocked w'

theorem run_of_not_alone (hpublish : Guarded publish) {a : Action σ}
    (hlocked : w.bridge.locked = true) (h : alone a w.state = none) :
    ∃ w', run publish a w = .blocked w' := by
  induction a generalizing w with
  | done => cases h
  | raise => cases h
  | get next ih => exact ih w.state hlocked h
  | set s next ih => exact ih hlocked h
  | publish topic data next =>
    obtain ⟨w',hblocked⟩ := hpublish w topic data hlocked
    rw [run, hblocked]
    exact ⟨w',rfl⟩
  | subscribe pattern id body next =>
    rw [run, subscribe, if_pos hlocked]
    exact ⟨w,rfl⟩

/-! ### One delivery -/

theorem callAll_quiet {cbs : List (Callback σ)} {s : σ}
    (h : aloneAll topic data cbs w.state = some s) :
    ∃ errors, ∀ publish, callAll publish topic data cbs w = .returned
      { bridge := { w.bridge with errors := errors }, state := s
        calls := w.calls ++ cbs.map fun cb => ⟨cb.id,topic,data⟩ } := by
  induction cbs generalizing w with
  | nil =>
    cases h
    refine ⟨w.bridge.errors,fun _ => ?_⟩
    rw [List.map_nil, List.append_nil, callAll]
  | cons cb rest ih =>
    obtain ⟨s₁,hfirst,hrest⟩ := Option.bind_eq_some_iff.mp h
    rcases run_of_alone (w := w.note ⟨cb.id,topic,data⟩) hfirst with hreturned | hraised
    · obtain ⟨errors,hcalls⟩ := ih (w := { w.note ⟨cb.id,topic,data⟩ with state := s₁ }) hrest
      refine ⟨errors,fun publish => ?_⟩
      simp only [callAll, hreturned, hcalls]
      simp [World.note]
    · obtain ⟨errors,hcalls⟩ :=
        ih (w := World.countError { w.note ⟨cb.id,topic,data⟩ with state := s₁ }) hrest
      refine ⟨errors,fun publish => ?_⟩
      simp only [callAll, hraised, hcalls]
      simp [World.note, World.countError]

theorem callAll_blocked (hpublish : Guarded publish) {cbs : List (Callback σ)}
    (hlocked : w.bridge.locked = true) (h : aloneAll topic data cbs w.state = none) :
    ∃ w', callAll publish topic data cbs w = .blocked w' := by
  induction cbs generalizing w with
  | nil => cases h
  | cons cb rest ih =>
    have hnoted : (w.note ⟨cb.id,topic,data⟩).bridge.locked = true := hlocked
    cases hfirst : alone (cb.body topic data) w.state with
    | none =>
      obtain ⟨w',hblocked⟩ := run_of_not_alone hpublish hnoted hfirst
      rw [callAll, hblocked]
      exact ⟨w',rfl⟩
    | some s₁ =>
      have hrest : aloneAll topic data rest s₁ = none := by
        rw [aloneAll, hfirst] at h
        exact h
      rcases run_of_alone (w := w.note ⟨cb.id,topic,data⟩) hfirst with hreturned | hraised
      · rw [callAll, hreturned]
        exact ih hlocked hrest
      · rw [callAll, hraised]
        exact ih hlocked hrest

/-- A publication under the lock waits, however deep it is. -/
theorem guarded_publish (depth : Nat) : Guarded (MqttBridge.publish (depth + 1) : Method σ) := by
  intro w topic data hlocked
  exact ⟨w.countPublished,if_pos hlocked⟩

theorem publish_free (hfree : w.bridge.locked = false) (depth : Nat) :
    MqttBridge.publish (depth + 1) w topic data =
      (callAll (MqttBridge.publish depth) topic data (w.matching topic)
        (w.countPublished.setLock true)).andThen fun w => .returned (w.setLock false) := by
  have hopen : ¬ w.countPublished.bridge.locked = true := by
    rw [World.countPublished, hfree]
    exact Bool.false_ne_true
  exact if_neg hopen

theorem completes_of_quiet (hfree : w.bridge.locked = false) (h : Quiet w topic data) :
    Completes w topic data := by
  obtain ⟨s,halone⟩ := Option.isSome_iff_exists.mp h
  obtain ⟨errors,hcalls⟩ := callAll_quiet (w := w.countPublished.setLock true) halone
  refine ⟨World.setLock { bridge := { (w.countPublished.setLock true).bridge with
      errors := errors }, state := s, calls := w.calls ++
        (w.matching topic).map fun cb => ⟨cb.id,topic,data⟩ } false,⟨1,?_⟩,rfl,rfl⟩
  intro depth hdepth
  obtain ⟨depth,rfl⟩ := Nat.exists_eq_add_of_le' hdepth
  rw [publish_free hfree, hcalls]
  rfl

theorem hangs_of_not_quiet (hfree : w.bridge.locked = false) (h : ¬ Quiet w topic data) :
    Hangs w topic data := by
  have hnone : aloneAll topic data (w.matching topic) w.state = none :=
    Option.not_isSome_iff_eq_none.mp h
  refine ⟨2,?_⟩
  intro depth hdepth
  obtain ⟨depth,rfl⟩ := Nat.exists_eq_add_of_le' hdepth
  obtain ⟨w',hblocked⟩ := callAll_blocked (w := w.countPublished.setLock true)
    (guarded_publish depth) rfl hnone
  rw [publish_free hfree, hblocked]
  exact ⟨w',rfl⟩

theorem not_completes_of_hangs (h : Hangs w topic data) : ¬ Completes w topic data := by
  obtain ⟨enough,hblocked⟩ := h
  rintro ⟨w',⟨enough',hreturned⟩,_⟩
  obtain ⟨w'',hend⟩ := hblocked (max enough enough') (le_max_left _ _)
  rw [hreturned _ (le_max_right _ _)] at hend
  cases hend

/-- With the lock free, a publication ends and calls every callback that matches,
exactly when none of them reaches a call of the bridge; otherwise it waits for the
lock it holds. -/
theorem publish_completes_iff (hfree : w.bridge.locked = false) (topic : String) (data : Dict) :
    (Completes w topic data ↔ Quiet w topic data) ∧ (Hangs w topic data ↔ ¬ Quiet w topic data) := by
  by_cases h : Quiet w topic data
  · have hcompletes := completes_of_quiet hfree h
    have hnot : ¬ Hangs w topic data := fun hhangs => not_completes_of_hangs hhangs hcompletes
    exact ⟨iff_of_true hcompletes h,iff_of_false hnot (not_not.mpr h)⟩
  · have hhangs := hangs_of_not_quiet hfree h
    exact ⟨iff_of_false (not_completes_of_hangs hhangs) h,iff_of_true hhangs h⟩

/-! ### A callback that passes an alert on -/

/-- Subscribed to all alerts, it publishes a status, which nobody is subscribed to. -/
def relay : Callback Unit :=
  ⟨0,fun _ data => .publish "mas/agents/PA/status" data .done⟩

def relayed : World Unit :=
  { bridge :=
      { locked := false, subscriptions := [("mas/alerts/#", [relay])]
        localCallbacks := [("mas/alerts/#", [relay])], published := 0, errors := 0 }
    state := (), calls := [] }

theorem relay_hangs :
    subscribe (World.new ()) "mas/alerts/#" relay = .returned relayed ∧
    Hangs relayed "mas/alerts/EA" [] ∧ ¬ Completes relayed "mas/alerts/EA" [] := by
  have hnot : ¬ Quiet relayed "mas/alerts/EA" [] := by decide
  have hhangs := hangs_of_not_quiet rfl hnot
  exact ⟨rfl,hhangs,not_completes_of_hangs hhangs⟩

/-- On a topic that the relay is not subscribed to, a publication ends. -/
theorem unrelated_completes :
    relayed.bridge.locked = false ∧ Completes relayed "mas/cnp/cfp" [] ∧
      ¬ Hangs relayed "mas/cnp/cfp" [] := by
  have hquiet : Quiet relayed "mas/cnp/cfp" [] := by decide
  have hfree : relayed.bridge.locked = false := rfl
  obtain ⟨hcompletes,hhangs⟩ := publish_completes_iff hfree "mas/cnp/cfp" []
  exact ⟨hfree,hcompletes.mpr hquiet,fun h => hhangs.mp h hquiet⟩

end ManufacturingMas.Proofs.LocalDelivery
