import ManufacturingMas.Protocol.CnpSession

/-! The last clamp of a strategy, on every kind of value it may be given. -/

namespace ManufacturingMas.Proofs.StrategyClamp
open Py Protocol

/-- The value that is clamped. -/
def target (strategy : Dict) : Val := getD strategy "target_speed_pct" (.int 100)

/-- A finite float is a double, none of which reaches the limit. -/
def Genuine : Val → Prop
  | .float (.fin q) => IsDouble q ∧ |q| < PyFloat.limit
  | _ => True

/-- An infinity, a text of one, or a number beyond the doubles. -/
def Overflows : Val → Prop
  | .int n => ¬ |(n : ℚ)| < PyFloat.limit
  | .float x => x = .posInf ∨ x = .negInf
  | .str s => parseFloat s = .ok .posInf ∨ parseFloat s = .ok .negInf
  | .none | .bool _ | .list _ | .dict _ => False

/-- The speed that a value asks for; a hundred stands for what is no number. -/
def asked : Val → ℤ
  | .bool b => if b then 1 else 0
  | .int n => nearestInt n
  | .float (.fin q) => truncate q
  | .str s =>
    match parseFloat s with
    | .ok (.fin q) => truncate q
    | _ => 100
  | _ => 100

/-- The lower limit has a float that is clamped to it again. -/
def LowKept (session : CNPSession) : Prop :=
  |(session.constraints.speedMinPct : ℚ)| < PyFloat.limit ∧
    (nearestInt session.constraints.speedMinPct ≤ session.constraints.speedMinPct ∨
      session.constraints.speedMinPct = session.constraints.speedMaxPct)

/-- The upper limit has a float that is clamped to it again. -/
def HighKept (session : CNPSession) : Prop :=
  |(session.constraints.speedMaxPct : ℚ)| < PyFloat.limit ∧
    (session.constraints.speedMaxPct ≤ nearestInt session.constraints.speedMaxPct ∨
      session.constraints.speedMinPct = session.constraints.speedMaxPct)

/-- The keys that the clamp sets. -/
def clampKeys : List String :=
  ["target_speed_pct", "constraints_applied", "protocol_version", "conversation_id",
    "approval_required"]

/-- What a safe clamp returns: a speed within the limits, an approval required exactly below 70
or under a full inspection, all other entries as they were; and it is clamped already. -/
structure SafeResult (session : CNPSession) (strategy out : Dict) : Prop where
  speed : ∃ sp : ℤ, Assoc.get out "target_speed_pct" = some (.int sp) ∧
    session.constraints.speedMinPct ≤ sp ∧ sp ≤ session.constraints.speedMaxPct ∧
    ∃ approval, Assoc.get out "approval_required" = some (.bool approval) ∧
      (approval = true ↔
        sp < 70 ∨ isFullInspection (getD strategy "inspection_mode" (.str "")) = true)
  others : ∀ key, key ∉ clampKeys → Assoc.get out key = Assoc.get strategy key
  again : session.clampStrategy out = .ok out

/-- The clamp returns such a strategy, in a new object that leaves all others as they were. -/
def SafeClamp (session : CNPSession) (strategy : Dict) : Prop :=
  ∃ out, SafeResult session strategy out ∧ session.clampStrategy strategy = .ok out ∧
    ∀ heap ref, heap.getD ref [] = strategy →
      session.clampStrategyAt heap ref = .ok (heap ++ [out], heap.length)

/-! ### The conversion -/

theorem abs_truncate_lt {q : ℚ} (h : |q| < PyFloat.limit) : |(truncate q : ℚ)| < PyFloat.limit :=
  lt_of_le_of_lt (abs_truncate_le q) h

/-- A number of the doubles. -/
def Held (n : ℤ) : Prop := |(n : ℚ)| < PyFloat.limit ∧ nearestInt n = n

theorem held_small {n : ℤ} (h : |n| ≤ 2 ^ 53) : Held n :=
  ⟨PyFloat.lt_limit_of_small h,nearestInt_of_small h⟩

theorem held_truncate {q : ℚ} (h : IsDouble q ∧ |q| < PyFloat.limit) : Held (truncate q) :=
  ⟨abs_truncate_lt h.2,nearestInt_of_isDouble (isDouble_truncate h.1)⟩

/-- A value that does not overflow is converted to the speed it asks for. -/
theorem converted {v : Val} (hgenuine : Genuine v) (h : ¬ Overflows v) :
    orOnBadNumber (intOf v) 100 = .ok (asked v) ∧ Held (asked v) := by
  have hhundred : Held 100 := held_small (by norm_num)
  cases v with
  | none | list _ | dict _ => exact ⟨rfl,hhundred⟩
  | bool b =>
    cases b
    · exact ⟨rfl,held_small (n := 0) (by norm_num)⟩
    · exact ⟨rfl,held_small (n := 1) (by norm_num)⟩
  | int n =>
    have hsize : |(n : ℚ)| < PyFloat.limit := not_not.mp h
    rw [intOf_int hsize]
    exact ⟨rfl,held_truncate ⟨isDouble_nearest n,PyFloat.abs_nearestDouble_lt_iff.mpr hsize⟩⟩
  | float x =>
    cases x with
    | fin q => exact ⟨rfl,held_truncate hgenuine⟩
    | nan => exact ⟨rfl,hhundred⟩
    | posInf => exact absurd (.inl rfl) h
    | negInf => exact absurd (.inr rfl) h
  | str s =>
    have hread : intOf (.str s) = (parseFloat s >>= PyFloat.toInt) := rfl
    rw [hread]
    dsimp only [asked]
    rcases parseFloat_cases s with ⟨x,hs,hdouble⟩ | hs
    · rw [hs]
      cases x with
      | fin q =>
        dsimp only
        exact ⟨rfl,held_truncate (hdouble q rfl)⟩
      | nan =>
        dsimp only
        exact ⟨rfl,hhundred⟩
      | posInf => exact absurd (.inl hs) h
      | negInf => exact absurd (.inr hs) h
    · rw [hs]
      dsimp only
      exact ⟨rfl,hhundred⟩

theorem not_converted {v : Val} (h : Overflows v) :
    orOnBadNumber (intOf v) 100 = .error .overflowError := by
  cases v with
  | none | bool _ | list _ | dict _ => cases h
  | int n =>
    rw [intOf_large h]
    rfl
  | float x => rcases h with rfl | rfl <;> rfl
  | str s =>
    have hread : intOf (.str s) = (parseFloat s >>= PyFloat.toInt) := rfl
    rw [hread]
    rcases h with h | h <;> (rw [h]; rfl)

/-! ### The clamped strategy -/

/-- The strategy under a speed. -/
def withSpeed (session : CNPSession) (strategy : Dict) (sp : ℤ) : Dict :=
  Assoc.set (Assoc.set (Assoc.set (Assoc.set (Assoc.set strategy
    "target_speed_pct" (.int sp))
    "constraints_applied" (.bool true))
    "protocol_version" (.str protocolVersion))
    "conversation_id" (.str session.conversationId))
    "approval_required"
      (.bool (sp < 70 || isFullInspection (getD strategy "inspection_mode" (.str ""))))

section
variable {session : CNPSession} {strategy : Dict} {sp : ℤ}

theorem get_other {key : String} (h : key ∉ clampKeys) :
    Assoc.get (withSpeed session strategy sp) key = Assoc.get strategy key := by
  simp only [clampKeys, List.mem_cons, List.not_mem_nil, or_false, not_or] at h
  obtain ⟨htarget,happlied,hversion,hconversation,happroval⟩ := h
  unfold withSpeed
  rw [Assoc.get_set_of_ne happroval, Assoc.get_set_of_ne hconversation,
    Assoc.get_set_of_ne hversion, Assoc.get_set_of_ne happlied, Assoc.get_set_of_ne htarget]

theorem get_target : Assoc.get (withSpeed session strategy sp) "target_speed_pct" =
    some (.int sp) := by
  unfold withSpeed
  rw [Assoc.get_set_of_ne (by decide), Assoc.get_set_of_ne (by decide),
    Assoc.get_set_of_ne (by decide), Assoc.get_set_of_ne (by decide), Assoc.get_set_self]

theorem get_approval : Assoc.get (withSpeed session strategy sp) "approval_required" =
    some (.bool (sp < 70 || isFullInspection (getD strategy "inspection_mode" (.str "")))) := by
  unfold withSpeed
  rw [Assoc.get_set_self]

/-- Under its own speed a clamped strategy stays as it is. -/
theorem withSpeed_again :
    withSpeed session (withSpeed session strategy sp) sp = withSpeed session strategy sp := by
  have hmode : getD (withSpeed session strategy sp) "inspection_mode" (.str "") =
      getD strategy "inspection_mode" (.str "") := getD_congr (get_other (by decide)) _
  have happlied : Assoc.get (withSpeed session strategy sp) "constraints_applied" =
      some (.bool true) := by
    unfold withSpeed
    rw [Assoc.get_set_of_ne (by decide), Assoc.get_set_of_ne (by decide),
      Assoc.get_set_of_ne (by decide), Assoc.get_set_self]
  have hversion : Assoc.get (withSpeed session strategy sp) "protocol_version" =
      some (.str protocolVersion) := by
    unfold withSpeed
    rw [Assoc.get_set_of_ne (by decide), Assoc.get_set_of_ne (by decide), Assoc.get_set_self]
  have hconversation : Assoc.get (withSpeed session strategy sp) "conversation_id" =
      some (.str session.conversationId) := by
    unfold withSpeed
    rw [Assoc.get_set_of_ne (by decide), Assoc.get_set_self]
  have hstep : ∀ d : Dict, withSpeed session d sp = Assoc.set (Assoc.set (Assoc.set (Assoc.set
      (Assoc.set d "target_speed_pct" (.int sp)) "constraints_applied" (.bool true))
      "protocol_version" (.str protocolVersion)) "conversation_id" (.str session.conversationId))
      "approval_required"
        (.bool (sp < 70 || isFullInspection (getD d "inspection_mode" (.str "")))) := fun _ => rfl
  rw [hstep, Assoc.set_of_get get_target, Assoc.set_of_get happlied, Assoc.set_of_get hversion,
    Assoc.set_of_get hconversation, hmode, Assoc.set_of_get get_approval]

theorem clampStrategy_of_speed (h : session.strategySpeed strategy = .ok sp) :
    session.clampStrategy strategy = .ok (withSpeed session strategy sp) := by
  unfold CNPSession.clampStrategy
  rw [h]
  dsimp only [bind, Except.bind, pure, Except.pure]
  rw [getD_set_of_ne (by decide), getD_set_of_ne (by decide), getD_set_of_ne (by decide),
    getD_set_of_ne (by decide)]
  rfl

theorem strategySpeed_ok {n : ℤ} (h : orOnBadNumber (intOf (target strategy)) 100 = .ok n) :
    session.strategySpeed strategy = .ok (session.clampSpeed n) := by
  unfold target at h
  unfold CNPSession.strategySpeed
  rw [h]
  rfl

theorem clampStrategy_raises
    (h : orOnBadNumber (intOf (target strategy)) 100 = .error .overflowError) :
    session.clampStrategy strategy = .error .overflowError := by
  unfold target at h
  unfold CNPSession.clampStrategy CNPSession.strategySpeed
  rw [h]
  rfl

theorem target_of_get {v : Val} (h : Assoc.get strategy "target_speed_pct" = some v) :
    target strategy = v := getD_of_some h _

/-- A clamped strategy stays as it is where the float of its speed has the same clamp. -/
theorem clampStrategy_again_iff :
    session.clampStrategy (withSpeed session strategy sp) = .ok (withSpeed session strategy sp) ↔
      |(sp : ℚ)| < PyFloat.limit ∧ session.clampSpeed (nearestInt sp) = sp := by
  have htarget : target (withSpeed session strategy sp) = .int sp := target_of_get get_target
  by_cases hsize : |(sp : ℚ)| < PyFloat.limit
  · have hread : orOnBadNumber (intOf (target (withSpeed session strategy sp))) 100 =
        .ok (nearestInt sp) := by
      rw [htarget, intOf_int hsize]
      rfl
    rw [clampStrategy_of_speed (strategySpeed_ok hread), and_iff_right hsize]
    constructor
    · intro h
      have hget := congrArg (Assoc.get · "target_speed_pct") (Except.ok.inj h)
      simp only [get_target] at hget
      exact Val.int.inj (Option.some.inj hget)
    · intro h
      rw [h, withSpeed_again]
  · have hread : orOnBadNumber (intOf (target (withSpeed session strategy sp))) 100 =
        .error .overflowError := by
      rw [htarget, intOf_large hsize]
      rfl
    rw [clampStrategy_raises hread]
    simp [hsize]

/-- Only a limit can be a speed that a second clamp changes. -/
theorem clamp_kept_iff (hle : session.constraints.speedMinPct ≤ session.constraints.speedMaxPct)
    {n : ℤ} (hn : Held n) :
    (|(session.clampSpeed n : ℚ)| < PyFloat.limit ∧
        session.clampSpeed (nearestInt (session.clampSpeed n)) = session.clampSpeed n) ↔
      (n < session.constraints.speedMinPct → LowKept session) ∧
        (session.constraints.speedMaxPct < n → HighKept session) := by
  have hagain : ∀ m, session.clampSpeed m =
      max session.constraints.speedMinPct (min session.constraints.speedMaxPct m) := fun _ => rfl
  rcases lt_or_ge n session.constraints.speedMinPct with hbelow | hlow
  · have hclamp : session.clampSpeed n = session.constraints.speedMinPct := by
      rw [hagain]
      omega
    have hinside : ¬ session.constraints.speedMaxPct < n := by omega
    rw [hclamp]
    simp only [hbelow, hinside, true_imp_iff, false_imp_iff, and_true, LowKept, hagain]
    exact and_congr_right fun _ => by omega
  · have hinside : ¬ n < session.constraints.speedMinPct := by omega
    rcases lt_or_ge session.constraints.speedMaxPct n with habove | hhigh
    · have hclamp : session.clampSpeed n = session.constraints.speedMaxPct := by
        rw [hagain]
        omega
      rw [hclamp]
      simp only [habove, hinside, true_imp_iff, false_imp_iff, true_and, HighKept, hagain]
      exact and_congr_right fun _ => by omega
    · have hclamp : session.clampSpeed n = n := by
        rw [hagain]
        omega
      rw [hclamp, hn.2, hclamp]
      simp [hn.1, hinside, not_lt.mpr hhigh]

end

/-- The clamp is safe exactly if its value does not overflow, and a limit that it is clamped to
is one that a second clamp reads as itself. -/
theorem clamp_safe_iff (session : CNPSession)
    (hle : session.constraints.speedMinPct ≤ session.constraints.speedMaxPct) {strategy : Dict}
    (hgenuine : Genuine (target strategy)) :
    SafeClamp session strategy ↔ ¬ Overflows (target strategy) ∧
      (asked (target strategy) < session.constraints.speedMinPct → LowKept session) ∧
      (session.constraints.speedMaxPct < asked (target strategy) → HighKept session) := by
  by_cases hoverflow : Overflows (target strategy)
  · refine iff_of_false ?_ fun h => h.1 hoverflow
    rintro ⟨out,_,hout,_⟩
    rw [clampStrategy_raises (not_converted hoverflow)] at hout
    cases hout
  · obtain ⟨hread,hheld⟩ := converted hgenuine hoverflow
    have hclamp : session.clampStrategy strategy =
        .ok (withSpeed session strategy (session.clampSpeed (asked (target strategy)))) :=
      clampStrategy_of_speed (strategySpeed_ok hread)
    have hagain : session.clampStrategy
          (withSpeed session strategy (session.clampSpeed (asked (target strategy)))) = .ok _ ↔ _ :=
      clampStrategy_again_iff
    rw [and_iff_right hoverflow, ← clamp_kept_iff hle hheld, ← hagain]
    constructor
    · rintro ⟨out,⟨_,_,hagain⟩,hout,_⟩
      rw [hclamp] at hout
      cases hout
      exact hagain
    · intro hagain
      obtain ⟨hlow,hhigh⟩ := CNPSession.clampSpeed_within hle (asked (target strategy))
      refine ⟨_,⟨⟨_,get_target,hlow,hhigh,_,get_approval,?_⟩,fun _ => get_other,hagain⟩,hclamp,?_⟩
      · simp
      · intro heap ref hheap
        rw [CNPSession.clampStrategyAt_eq, hheap, hclamp]
        rfl

/-- A strategy with a target speed and an inspection label. -/
def strategyAt (speed : Val) : Dict :=
  [("target_speed_pct", speed), ("inspection_mode", .str "FULL")]

/-- Sixty in full-width digits. -/
def wideSixty : Dict := strategyAt (.str (String.ofList [Char.ofNat 0xff16, Char.ofNat 0xff10]))

-- 120.5 percent, and a text in full-width digits
theorem clamp_safe_float_and_text :
    SafeClamp (CNPSession.new .default) (strategyAt (.float (.fin (241/2)))) ∧
      SafeClamp (CNPSession.new .default) wideSixty := by
  have hhigh : HighKept (CNPSession.new .default) :=
    ⟨PyFloat.lt_limit_of_small (n := 100) (by decide),.inl (by decide +kernel)⟩
  constructor
  · have hgenuine : Genuine (target (strategyAt (.float (.fin (241/2))))) :=
      ⟨⟨241,-1,by decide,by decide,by norm_num⟩,lt_trans (by norm_num) PyFloat.two_pow_lt_limit⟩
    have hoverflow : ¬ Overflows (target (strategyAt (.float (.fin (241/2))))) := by
      rintro (h | h) <;> cases h
    have hlow : ¬ asked (target (strategyAt (.float (.fin (241/2))))) < 40 := by decide +kernel
    exact (clamp_safe_iff (CNPSession.new .default) (by decide) hgenuine).mpr
      ⟨hoverflow,fun h => absurd h hlow,fun _ => hhigh⟩
  · have hread : parseFloat (String.ofList [Char.ofNat 0xff16, Char.ofNat 0xff10]) =
        .ok (.fin 60) := by decide +kernel
    have hoverflow : ¬ Overflows (target wideSixty) := by
      rintro (h | h) <;> (rw [hread] at h; cases h)
    have hasked : asked (target wideSixty) = 60 := by decide +kernel
    have hgenuine : Genuine (target wideSixty) := trivial
    refine (clamp_safe_iff (CNPSession.new .default) (by decide) hgenuine).mpr
      ⟨hoverflow,?_,?_⟩
    · rw [hasked]
      intro h
      exact absurd h (by decide)
    · rw [hasked]
      intro h
      exact absurd h (by decide)

def infiniteTarget : Dict := [("target_speed_pct", .float .posInf)]

/-- An infinite target speed raises. -/
theorem infinite_target_raises :
    (CNPSession.new .default).clampStrategy infiniteTarget = .error .overflowError ∧
      ¬ SafeClamp (CNPSession.new .default) infiniteTarget := by
  have hraises : (CNPSession.new .default).clampStrategy infiniteTarget = .error .overflowError :=
    rfl
  refine ⟨hraises,?_⟩
  rintro ⟨out,_,hout,_⟩
  rw [hraises] at hout
  cases hout

end ManufacturingMas.Proofs.StrategyClamp
