import ManufacturingMas.Agents.PlanningAgent

/-! What the parts of a contract-net round leave alone. -/

namespace ManufacturingMas.Proofs.RoundEffects
open Py Protocol Agents Stateful

variable {σ τ : Type} {π : CnpWorld σ → τ}

/-- `π` does not look at what the agents share. -/
def IgnoresRest (π : CnpWorld σ → τ) : Prop := ∀ w rest, π { w with rest := rest } = π w

theorem broadcastCfp_keeps (hπ : IgnoresRest π) (env : CnpEnv σ) (session : CNPSession)
    (situation : String) (snapshot : Dict) :
    Keeps π (broadcastCfp env session situation snapshot) := by
  unfold broadcastCfp
  split
  · exact keeps_pure _
  · exact keeps_modifyGet fun w => hπ w _

theorem collectProposals_keeps (hπ : IgnoresRest π) (env : CnpEnv σ) (session : CNPSession)
    (cfp : Dict) (i : Nat) (agents : List (Responder σ)) (proposals : List Dict) :
    Keeps π (collectProposals env session cfp i agents proposals) := by
  induction agents generalizing i proposals with
  | nil => exact keeps_pure _
  | cons agent agents ih =>
    unfold collectProposals
    split
    · exact ih i proposals
    · split
      · exact keeps_pure _
      · apply Keeps.bind
        · exact keeps_modifyGet fun w => hπ w _
        · intro raw
          split
          · exact ih _ _
          · exact ih _ _

/-- A round that returns has either opened nothing, or settled what it opened and had it
executed. -/
theorem initiateCnp_ok {env : CnpEnv σ} {llm : Option Intelligence.LLMClient}
    {agents : List (Responder σ)} {snapshot : Dict} {w w' : CnpWorld σ} {result : Option Dict}
    (h : initiateCnp env llm agents snapshot w = .ok result w') :
    (result = none ∧ openRound env agents snapshot w = .ok none w') ∨
    ∃ round strategy w1 w2, result = some strategy ∧
      openRound env agents snapshot w = .ok (some round) w1 ∧
      settleRound env llm round snapshot = .ok strategy ∧
      executeAccepted round.ranked agents w1 = .ok () w2 ∧
      w' = { w2 with pa := { w2.pa with strategyLog := w2.pa.strategyLog ++ [strategy] } } := by
  unfold initiateCnp at h
  obtain ⟨opened,w1,hopen,h⟩ := bind_ok_iff.mp h
  cases opened with
  | none =>
    cases h
    exact .inl ⟨rfl,hopen⟩
  | some round =>
    obtain ⟨strategy,_,hrun,h⟩ := bind_ok_iff.mp h
    obtain ⟨hsettle,rfl⟩ := ofExcept_ok_iff.mp hrun
    obtain ⟨_,w2,hexecute,h⟩ := bind_ok_iff.mp h
    obtain ⟨_,w3,hlog,h⟩ := bind_ok_iff.mp h
    cases hlog
    cases h
    exact .inr ⟨round,strategy,w1,w2,rfl,hopen,hsettle,hexecute,rfl⟩

/-- Every round is held under the same limits. -/
theorem openRound_limits {env : CnpEnv σ} {agents : List (Responder σ)} {snapshot : Dict}
    {w w' : CnpWorld σ} {round : Round}
    (h : openRound env agents snapshot w = .ok (some round) w') :
    round.session.constraints = .default := by
  unfold openRound at h
  obtain ⟨_,_,_,h⟩ := bind_ok_iff.mp h
  obtain ⟨w1,_,_,h⟩ := bind_ok_iff.mp h
  obtain ⟨_,_,_,h⟩ := bind_ok_iff.mp h
  obtain ⟨proposals,_,_,h⟩ := bind_ok_iff.mp h
  split at h
  · cases h
  · obtain ⟨ranked,_,_,h⟩ := bind_ok_iff.mp h
    cases h
    rfl

theorem clampSpeed_default {session : CNPSession} (h : session.constraints = .default)
    (speed : ℤ) : 40 ≤ session.clampSpeed speed ∧ session.clampSpeed speed ≤ 100 := by
  have hmin : session.constraints.speedMinPct = 40 := by rw [h]; rfl
  have hmax : session.constraints.speedMaxPct = 100 := by rw [h]; rfl
  have hle : session.constraints.speedMinPct ≤ session.constraints.speedMaxPct := by omega
  have hwithin := CNPSession.clampSpeed_within hle speed
  rw [hmin, hmax] at hwithin
  exact hwithin

/-- A settled strategy has an integer target within the limits, whatever it was built from. -/
theorem settleRound_target {env : CnpEnv σ} {llm : Option Intelligence.LLMClient} {round : Round}
    {snapshot strategy : Dict} (hlimits : round.session.constraints = .default)
    (h : settleRound env llm round snapshot = .ok strategy) :
    ∃ speed : ℤ, Assoc.get strategy "target_speed_pct" = some (.int speed) ∧
      40 ≤ speed ∧ speed ≤ 100 := by
  unfold settleRound at h
  simp only [Traverse.bind_ok_iff] at h
  obtain ⟨clamped,hclamped,card,_,lines,_,hend⟩ := h
  cases hend
  unfold CNPSession.clampStrategy at hclamped
  obtain ⟨speed,hspeed,hend⟩ := Traverse.bind_ok_iff.mp hclamped
  cases hend
  unfold CNPSession.strategySpeed at hspeed
  obtain ⟨asked,_,hend⟩ := Traverse.bind_ok_iff.mp hspeed
  cases hend
  refine ⟨round.session.clampSpeed asked,?_,clampSpeed_default hlimits asked⟩
  rw [Assoc.get_set_of_ne (by decide), Assoc.get_set_of_ne (by decide),
    Assoc.get_set_of_ne (by decide), Assoc.get_set_of_ne (by decide),
    Assoc.get_set_of_ne (by decide), Assoc.get_set_of_ne (by decide), Assoc.get_set_self]

end ManufacturingMas.Proofs.RoundEffects
