import ManufacturingMas.Agents.PlanningAgent

/-! The three readers of the speed that a proposal asks for. -/

namespace ManufacturingMas.Proofs.SpeedReaders
open Py Agents Protocol

/-- A field that holds an integer or None, or is not there. -/
def IntegerOrNone (p : Dict) (key : String) : Prop :=
  Assoc.get p key = none ∨ Assoc.get p key = some .none ∨ ∃ n : ℤ, Assoc.get p key = some (.int n)

/-- What the session and the collection look up: the first field that is there. -/
def presentSpeed (p : Dict) : Val :=
  getD p "speed_recommendation" (getD p "target_speed_pct" (.int 100))

/-- What the constraints are checked on: the first field that is not falsy. -/
def truthySpeed (p : Dict) : Val :=
  ((getD p "speed_recommendation" .none).orElse (getD p "target_speed_pct" .none)).orElse (.int 100)

/-- The speed looked up first is a number other than zero, of those that have a float. -/
def Plain (p : Dict) : Prop := ∃ n : ℤ, presentSpeed p = .int n ∧ n ≠ 0 ∧ |(n : ℚ)| < PyFloat.limit

def InLimits (session : CNPSession) (n : ℤ) : Prop :=
  session.constraints.speedMinPct ≤ n ∧ n ≤ session.constraints.speedMaxPct

section
variable {p : Dict}

theorem orElse_int {n : ℤ} (h : n ≠ 0) (v : Val) : (Val.int n).orElse v = .int n := by
  simp [Val.orElse, Val.truthy, h]

theorem orElse_none (v : Val) : Val.none.orElse v = v := rfl

/-- A second field and the default give an integer. -/
theorem fallback_int {key : String} (h : IntegerOrNone p key) :
    ∃ s : ℤ, (getD p key .none).orElse (.int 100) = .int s := by
  unfold getD
  rcases h with h | h | ⟨n,h⟩
  · exact ⟨100,by rw [h]; rfl⟩
  · exact ⟨100,by rw [h]; rfl⟩
  · rw [h]
    by_cases hn : n = 0
    · exact ⟨100,by rw [hn]; rfl⟩
    · exact ⟨n,orElse_int hn _⟩

theorem truthySpeed_int (hfirst : IntegerOrNone p "speed_recommendation")
    (hsecond : IntegerOrNone p "target_speed_pct") : ∃ s : ℤ, truthySpeed p = .int s := by
  obtain ⟨s,hs⟩ := fallback_int hsecond
  unfold truthySpeed getD
  rcases hfirst with h | h | ⟨n,h⟩
  · exact ⟨s,by rw [h]; exact hs⟩
  · exact ⟨s,by rw [h]; exact hs⟩
  · rw [h]
    by_cases hn : n = 0
    · exact ⟨s,by rw [hn]; exact hs⟩
    · refine ⟨n,?_⟩
      rw [Option.getD_some, orElse_int hn, orElse_int hn]

theorem presentSpeed_cases (hfirst : IntegerOrNone p "speed_recommendation")
    (hsecond : IntegerOrNone p "target_speed_pct") :
    presentSpeed p = .none ∨ ∃ n : ℤ, presentSpeed p = .int n := by
  unfold presentSpeed getD
  rcases hfirst with h | h | ⟨n,h⟩
  · rw [h]
    rcases hsecond with h' | h' | ⟨n,h'⟩
    · exact .inr ⟨100,by rw [h']; rfl⟩
    · exact .inl (by rw [h']; rfl)
    · exact .inr ⟨n,by rw [h']; rfl⟩
  · exact .inl (by rw [h]; rfl)
  · exact .inr ⟨n,by rw [h]; rfl⟩

/-- A number other than zero is what all readers see. -/
theorem truthySpeed_of_present {n : ℤ} (h : presentSpeed p = .int n) (hn : n ≠ 0) :
    truthySpeed p = .int n := by
  unfold presentSpeed getD at h
  unfold truthySpeed getD
  cases hfirst : Assoc.get p "speed_recommendation" with
  | some v =>
    rw [hfirst] at h
    rw [Option.getD_some, show v = .int n from h, orElse_int hn, orElse_int hn]
  | none =>
    rw [hfirst] at h
    rw [Option.getD_none, orElse_none]
    cases hsecond : Assoc.get p "target_speed_pct" with
    | some v =>
      rw [hsecond] at h
      rw [Option.getD_some, show v = .int n from h, orElse_int hn]
    | none =>
      rw [hsecond] at h
      rw [Option.getD_none, orElse_none]
      exact h

/-! ### The session -/

theorem validate_iff (session : CNPSession) {n : ℤ} (h : presentSpeed p = .int n) :
    session.validateProposal p = .ok true ↔ |(n : ℚ)| < PyFloat.limit ∧
      InLimits session (nearestInt n) := by
  unfold presentSpeed at h
  unfold CNPSession.validateProposal InLimits
  rw [h]
  by_cases hsize : |(n : ℚ)| < PyFloat.limit
  · simp [intOf_int hsize, hsize]
  · simp [intOf_large hsize, hsize]

theorem validate_none (session : CNPSession) (h : presentSpeed p = .none) :
    session.validateProposal p = .ok false := by
  unfold presentSpeed at h
  unfold CNPSession.validateProposal
  rw [h]
  rfl

/-! ### The check of the constraints -/

theorem limit_read (c : CNPConstraints) (hlow : c.speedMinPct ≠ 0) (hhigh : c.speedMaxPct ≠ 0) :
    (getD c.toDict "speed_min_pct" .none).orElse (.int 40) = .int c.speedMinPct ∧
      (getD c.toDict "speed_max_pct" .none).orElse (.int 100) = .int c.speedMaxPct := by
  have hmin : getD c.toDict "speed_min_pct" .none = .int c.speedMinPct := by
    simp [CNPConstraints.toDict, getD]
  have hmax : getD c.toDict "speed_max_pct" .none = .int c.speedMaxPct := by
    simp [CNPConstraints.toDict, getD]
  rw [hmin, hmax]
  exact ⟨orElse_int hlow _,orElse_int hhigh _⟩

/-- A note on a speed is never the one that stands for none. -/
theorem notes_ok_iff (low high : Bool) (smin smax : ℤ) :
    (let notes := (if low then [s!"속도<{smin}%"] else []) ++
        (if high then [s!"속도>{smax}%"] else [])
     if notes.isEmpty then "ok" else String.intercalate "; " notes) = "ok" ↔
      low = false ∧ high = false := by
  have hlong : ∀ s : String, 2 < s.length → s ≠ "ok" := by
    rintro _ h rfl
    exact absurd h (by decide)
  have hlow : "속도<".length = 3 := by decide
  have hhigh : "속도>".length = 3 := by decide
  cases low <;> cases high <;> simp
  all_goals
    apply hlong
    simp only [String.length_append, toString]
    omega

theorem note_iff (session : CNPSession) (hlow : 0 < session.constraints.speedMinPct)
    (hle : session.constraints.speedMinPct ≤ session.constraints.speedMaxPct) {s : ℤ}
    (hs : truthySpeed p = .int s) {penalty : PyFloat} {note : String}
    (h : scoreAgainstConstraints p session.constraints.toDict = .ok (penalty, note)) :
    note = "ok" ↔ InLimits session s := by
  obtain ⟨hmin,hmax⟩ := limit_read session.constraints hlow.ne' (hlow.trans_le hle).ne'
  unfold truthySpeed at hs
  unfold InLimits
  unfold scoreAgainstConstraints at h
  rw [hs, hmin, hmax] at h
  simp only [Traverse.bind_ok_iff] at h
  obtain ⟨_,hsp,_,hsmin,_,hsmax,_,_,_,_,hend⟩ := h
  cases hsp
  cases hsmin
  cases hsmax
  have hnote := congrArg Prod.snd (Except.ok.inj hend)
  dsimp only at hnote
  rw [← hnote, notes_ok_iff]
  simp

/-! ### The collection -/

theorem stored_speed {σ : Type} {env : CnpEnv σ} {session : CNPSession} {stored : Dict}
    (h : acceptAnswer env session (some p) = .ok (some stored)) :
    ∃ speed, orOnBadNumber (intOf (presentSpeed p)) 100 = .ok speed ∧
      Assoc.get stored "speed_recommendation" = some (.int (session.clampSpeed speed)) := by
  cases p with
  | nil => cases h
  | cons entry p =>
    unfold acceptAnswer at h
    simp only [Traverse.bind_ok_iff] at h
    obtain ⟨speed,hspeed,e,he,hstored⟩ := h
    cases hstored
    refine ⟨speed,hspeed,?_⟩
    rw [get_evaluate he (by decide), Assoc.get_set_self]

/-- What stands in for a zero or for None has the same clamp. -/
def SameClamp (session : CNPSession) (p : Dict) (s : ℤ) : Prop :=
  presentSpeed p = .int 0 ∧ session.clampSpeed s = session.clampSpeed 0 ∨
    presentSpeed p = .none ∧ session.clampSpeed s = session.clampSpeed 100

/-- What all readers see of a plain speed, and what the check sees where there is none. -/
theorem plain_cases (hfirst : IntegerOrNone p "speed_recommendation")
    (hsecond : IntegerOrNone p "target_speed_pct") {s : ℤ} (hs : truthySpeed p = .int s) :
    (Plain p ∧ presentSpeed p = .int s ∧ |(s : ℚ)| < PyFloat.limit) ∨
      ¬ Plain p ∧ (presentSpeed p = .none ∨ presentSpeed p = .int 0 ∨
        ∃ n : ℤ, presentSpeed p = .int n ∧ ¬ |(n : ℚ)| < PyFloat.limit) := by
  unfold Plain
  rcases presentSpeed_cases hfirst hsecond with hnone | ⟨n,hn⟩
  · refine .inr ⟨?_,.inl hnone⟩
    rw [hnone]
    rintro ⟨_,h,_⟩
    cases h
  · by_cases hzero : n = 0
    · refine .inr ⟨?_,.inr (.inl (hzero ▸ hn))⟩
      rw [hn, hzero]
      rintro ⟨_,h,hne,_⟩
      exact hne (Val.int.inj h).symm
    · by_cases hsize : |(n : ℚ)| < PyFloat.limit
      · obtain rfl : s = n := by
          rw [truthySpeed_of_present hn hzero] at hs
          exact (Val.int.inj hs).symm
        exact .inl ⟨⟨s,hn,hzero,hsize⟩,hn,hsize⟩
      · refine .inr ⟨?_,.inr (.inr ⟨n,hn,hsize⟩)⟩
        rw [hn]
        rintro ⟨m,h,_,hm⟩
        exact hsize (Val.int.inj h ▸ hm)

theorem stored_iff (hfirst : IntegerOrNone p "speed_recommendation")
    (hsecond : IntegerOrNone p "target_speed_pct") {s : ℤ} (hs : truthySpeed p = .int s) {σ : Type}
    {env : CnpEnv σ} {session : CNPSession} {stored : Dict}
    (h : acceptAnswer env session (some p) = .ok (some stored)) :
    Assoc.get stored "speed_recommendation" = some (.int (session.clampSpeed s)) ↔
      Plain p ∧ session.clampSpeed s = session.clampSpeed (nearestInt s) ∨
        SameClamp session p s := by
  obtain ⟨speed,hspeed,hstored⟩ := stored_speed h
  have hiff : Assoc.get stored "speed_recommendation" = some (.int (session.clampSpeed s)) ↔
      session.clampSpeed s = session.clampSpeed speed := by
    rw [hstored]
    simp [eq_comm]
  rw [hiff]
  unfold SameClamp
  rcases plain_cases hfirst hsecond hs with ⟨hplain,hpresent,hsize⟩ | ⟨hplain,hcases⟩
  · have hne : s ≠ 0 := by
      rintro rfl
      obtain ⟨n,hn,hzero,_⟩ := hplain
      rw [hpresent] at hn
      exact hzero (Val.int.inj hn).symm
    rw [hpresent, intOf_int hsize] at hspeed
    obtain rfl : nearestInt s = speed := Except.ok.inj hspeed
    simp [hplain, hpresent, hne]
  · rcases hcases with hnone | hzero | ⟨n,hn,hlarge⟩
    · rw [hnone] at hspeed ⊢
      cases hspeed
      simp [hplain]
    · rw [hzero] at hspeed ⊢
      rw [intOf_small (by decide)] at hspeed
      obtain rfl : 0 = speed := Except.ok.inj hspeed
      simp [hplain]
    · rw [hn, intOf_large hlarge] at hspeed
      cases hspeed

theorem validate_iff_note (session : CNPSession) (hfirst : IntegerOrNone p "speed_recommendation")
    (hsecond : IntegerOrNone p "target_speed_pct") (hlow : 0 < session.constraints.speedMinPct)
    (hle : session.constraints.speedMinPct ≤ session.constraints.speedMaxPct) {s : ℤ}
    (hs : truthySpeed p = .int s) {penalty : PyFloat} {note : String}
    (h : scoreAgainstConstraints p session.constraints.toDict = .ok (penalty, note)) :
    (session.validateProposal p = .ok true ↔ note = "ok") ↔
      (Plain p → (InLimits session (nearestInt s) ↔ InLimits session s)) ∧
        (¬ Plain p → ¬ InLimits session s) := by
  rw [note_iff session hlow hle hs h]
  rcases plain_cases hfirst hsecond hs with ⟨hplain,hpresent,hsize⟩ | ⟨hplain,hcases⟩
  · rw [validate_iff session hpresent, and_iff_right hsize]
    simp [hplain]
  · -- the session rejects what is not plain
    have hreject : ¬ session.validateProposal p = .ok true := by
      rcases hcases with hnone | hzero | ⟨n,hn,hlarge⟩
      · rw [validate_none session hnone]
        simp
      · rw [validate_iff session hzero, nearestInt_of_small (by decide)]
        unfold InLimits
        omega
      · rw [validate_iff session hn]
        exact fun h => hlarge h.1
    simp [hplain, hreject]

end

/-- The session agrees with the check of the constraints exactly if a plain speed is within the
limits as an integer and as a float alike, and no speed that is checked in place of another one
is; what is stored is the clamp of the speed that is checked exactly if a plain one has the same
clamp as its float, or what stands in for another one has the same clamp. -/
theorem readers_agree_iff {p : Dict} (session : CNPSession)
    (hfirst : IntegerOrNone p "speed_recommendation") (hsecond : IntegerOrNone p "target_speed_pct")
    (hlow : 0 < session.constraints.speedMinPct)
    (hle : session.constraints.speedMinPct ≤ session.constraints.speedMaxPct) :
    ∃ s : ℤ, truthySpeed p = .int s ∧
      (∀ penalty note,
        scoreAgainstConstraints p session.constraints.toDict = .ok (penalty, note) →
        ((session.validateProposal p = .ok true ↔ note = "ok") ↔
          (Plain p → (InLimits session (nearestInt s) ↔ InLimits session s)) ∧
            (¬ Plain p → ¬ InLimits session s))) ∧
      ∀ (σ : Type) (env : CnpEnv σ) stored, acceptAnswer env session (some p) = .ok (some stored) →
        (Assoc.get stored "speed_recommendation" = some (.int (session.clampSpeed s)) ↔
          Plain p ∧ session.clampSpeed s = session.clampSpeed (nearestInt s) ∨
            SameClamp session p s) := by
  obtain ⟨s,hs⟩ := truthySpeed_int hfirst hsecond
  exact ⟨s,hs,fun _ _ h => validate_iff_note session hfirst hsecond hlow hle hs h,
    fun _ _ _ h => stored_iff hfirst hsecond hs h⟩

def atSpeed (n : ℤ) : Dict := [("speed_recommendation", .int n)]

theorem readers_agree_eighty :
    scoreAgainstConstraints (atSpeed 80) CNPConstraints.default.toDict = .ok (.fin 0, "ok") ∧
      ((CNPSession.new .default).validateProposal (atSpeed 80) = .ok true ↔ "ok" = "ok") := by
  have hscore : scoreAgainstConstraints (atSpeed 80) CNPConstraints.default.toDict =
      .ok (.fin 0, "ok") := by decide +kernel
  have hplain : Plain (atSpeed 80) :=
    ⟨80,rfl,by decide,PyFloat.lt_limit_of_small (n := 80) (by decide)⟩
  obtain ⟨s,hs,hvalidate,_⟩ := readers_agree_iff (p := atSpeed 80) (CNPSession.new .default)
    (.inr (.inr ⟨80,rfl⟩)) (.inl rfl) (by decide) (by decide)
  cases hs
  refine ⟨hscore,(hvalidate _ _ hscore).mpr ⟨fun _ => ?_,fun h => absurd hplain h⟩⟩
  rw [nearestInt_of_small (by decide)]

/-- A speed of zero is checked as a hundred percent and rejected as zero. -/
theorem zero_speed_read_twice :
    scoreAgainstConstraints (atSpeed 0) CNPConstraints.default.toDict = .ok (.fin 0, "ok") ∧
      (CNPSession.new .default).validateProposal (atSpeed 0) = .ok false := by
  constructor <;> decide +kernel

end ManufacturingMas.Proofs.SpeedReaders
