import ManufacturingMas.Intelligence.LlmCalls
import ManufacturingMas.Lib.Runs

/-! The logs and the counters of the LLM client over its invocations. -/

namespace ManufacturingMas.Proofs.LlmBooks
open Py LlmCalls

variable {loads : String → Except String Val} {c c' : LLMClient}

/-! ### How an invocation ends -/

inductive Ending where
  | failedBefore
  | failedAfter
  | succeeded
deriving DecidableEq

/-- All numbers of the usage are there, or there is no usage. -/
def usageComplete (usage : Option Usage) : Bool :=
  usage.all fun u => u.promptTokens.isSome && u.completionTokens.isSome && u.totalTokens.isSome

/-- A reply fails before the call is counted if it is an exception or lacks a number of
its usage, and after that if its content cannot be read. -/
def endingOf {α : Type} (content : Completion → Except String α) : Reply → Ending
  | .failed _ => .failedBefore
  | .answered resp =>
    if usageComplete resp.usage then
      match content resp with
      | .error _ => .failedAfter
      | .ok _ => .succeeded
    else .failedBefore

def ending (loads : String → Except String Val) : Invocation → Ending
  | .call _ _ _ _ reply => endingOf (jsonContent loads) reply
  | .completeText _ _ _ reply => endingOf textContent reply

/-- What an attempted invocation does to the logs and the counters. -/
inductive Effect (c : LLMClient) : Ending → LLMClient → Prop
  | failedBefore {c' : LLMClient} (entry : Dict) :
    c'.enabled = c.enabled → c'.auditLog = c.auditLog → c'.callLog = c.callLog ++ [entry] →
    c'.tokenUsage.calls = c.tokenUsage.calls →
    c'.tokenUsage.errors = c.tokenUsage.errors + 1 → Effect c .failedBefore c'
  | failedAfter {c' : LLMClient} (entry : Dict) :
    c'.enabled = c.enabled → c'.auditLog = c.auditLog → c'.callLog = c.callLog ++ [entry] →
    c'.tokenUsage.calls = c.tokenUsage.calls + 1 →
    c'.tokenUsage.errors = c.tokenUsage.errors + 1 → Effect c .failedAfter c'
  | succeeded {c' : LLMClient} (record entry : Dict) :
    c'.enabled = c.enabled → c'.auditLog = Ring.pushCut 300 150 c.auditLog record →
    c'.callLog = Ring.pushCut 200 100 c.callLog entry →
    c'.tokenUsage.calls = c.tokenUsage.calls + 1 →
    c'.tokenUsage.errors = c.tokenUsage.errors → Effect c .succeeded c'

/-- The sums of the usage, and whether the call is counted. -/
theorem countUsage_cases (c : LLMClient) (usage : Option Usage) :
    (usageComplete usage = true ∧ ∃ t : TokenUsage,
      c.countUsage usage = .ok { c with tokenUsage := t } ∧
      t.calls = c.tokenUsage.calls + 1 ∧ t.errors = c.tokenUsage.errors) ∨
    (usageComplete usage = false ∧ ∃ t : TokenUsage,
      c.countUsage usage = .error { c with tokenUsage := t } ∧
      t.calls = c.tokenUsage.calls ∧ t.errors = c.tokenUsage.errors) := by
  cases usage with
  | none => exact .inl ⟨rfl,_,rfl,rfl,rfl⟩
  | some u =>
    obtain ⟨prompt,completion,total⟩ := u
    cases prompt with
    | none => exact .inr ⟨rfl,_,rfl,rfl,rfl⟩
    | some prompt =>
      cases completion with
      | none => exact .inr ⟨rfl,_,rfl,rfl,rfl⟩
      | some completion =>
        cases total with
        | none => exact .inr ⟨rfl,_,rfl,rfl,rfl⟩
        | some total => exact .inl ⟨rfl,_,rfl,rfl,rfl⟩

theorem call_effect (henabled : c.enabled = true) (system user : String) (model : Option String)
    (logExtra : Option Dict) (reply : Reply) :
    Effect c (endingOf (jsonContent loads) reply)
      (c.call loads system user model logExtra reply).2 := by
  unfold LLMClient.call
  simp only [henabled, Bool.not_true, Bool.false_eq_true, if_false]
  cases reply with
  | failed error => exact .failedBefore _ rfl rfl rfl rfl rfl
  | answered resp =>
    rcases countUsage_cases c resp.usage with
      ⟨hcomplete,t,hcount,hcalls,herrors⟩ | ⟨hmissing,t,hcount,hcalls,herrors⟩
    · simp only [hcount, endingOf, hcomplete, if_true]
      cases jsonContent loads resp with
      | error error => exact .failedAfter _ rfl rfl rfl hcalls (congrArg Nat.succ herrors)
      | ok result => exact .succeeded _ _ rfl rfl rfl hcalls herrors
    · simp only [hcount, endingOf, hmissing, Bool.false_eq_true, if_false]
      exact .failedBefore _ rfl rfl rfl hcalls (congrArg Nat.succ herrors)

theorem completeText_effect (henabled : c.enabled = true) (system user : String)
    (model : Option String) (reply : Reply) :
    Effect c (endingOf textContent reply) (c.completeText system user model reply).2 := by
  unfold LLMClient.completeText
  simp only [henabled, Bool.not_true, Bool.false_eq_true, if_false]
  cases reply with
  | failed error => exact .failedBefore _ rfl rfl rfl rfl rfl
  | answered resp =>
    rcases countUsage_cases c resp.usage with
      ⟨hcomplete,t,hcount,hcalls,herrors⟩ | ⟨hmissing,t,hcount,hcalls,herrors⟩
    · simp only [hcount, endingOf, hcomplete, if_true]
      cases textContent resp with
      | error error => exact .failedAfter _ rfl rfl rfl hcalls (congrArg Nat.succ herrors)
      | ok content => exact .succeeded _ _ rfl rfl rfl hcalls herrors
    · simp only [hcount, endingOf, hmissing, Bool.false_eq_true, if_false]
      exact .failedBefore _ rfl rfl rfl hcalls (congrArg Nat.succ herrors)

theorem invoke_effect (henabled : c.enabled = true) (inv : Invocation) :
    Effect c (ending loads inv) (c.invoke loads inv) := by
  cases inv with
  | call system user model logExtra reply =>
    exact call_effect henabled system user model logExtra reply
  | completeText system user model reply => exact completeText_effect henabled system user model reply

theorem invoke_disabled (hdisabled : c.enabled = false) (inv : Invocation) :
    c.invoke loads inv = c := by
  cases inv with
  | call => simp [LLMClient.invoke, LLMClient.call, hdisabled]
  | completeText => simp [LLMClient.invoke, LLMClient.completeText, hdisabled]

/-! ### The books -/

/-- The logs are within their bounds, and every one of `n` attempts is counted once. -/
structure Books (n : Nat) (c : LLMClient) : Prop where
  calls : c.callLog.length ≤ 200
  audit : c.auditLog.length ≤ 300
  counted : c.tokenUsage.calls + c.tokenUsage.errors = n

/-- With `logged` entries in the call log: a failure needs room, and may not come after
the call is counted. -/
def Acceptable (logged : Nat) : Ending → Prop
  | .failedBefore => logged < 200
  | .failedAfter => False
  | .succeeded => True

theorem effect_books_iff {e : Ending} {n : Nat} (heffect : Effect c e c') (h : Books n c) :
    Books (n + 1) c' ↔ Acceptable c.callLog.length e := by
  obtain ⟨hcalls,haudit,hcounted⟩ := h
  cases heffect with
  | failedBefore entry _ haudit' hlog hcalls' herrors =>
    have hlength : c'.callLog.length = c.callLog.length + 1 := by
      rw [hlog, List.length_append, List.length_singleton]
    constructor
    · intro h
      have hbound := h.calls
      rw [hlength] at hbound
      exact hbound
    · intro hroom
      refine ⟨?_,?_,?_⟩
      · rw [hlength]
        exact hroom
      · rw [haudit']
        exact haudit
      · rw [hcalls', herrors, ← hcounted, Nat.add_assoc]
  | failedAfter entry _ _ _ hcalls' herrors =>
    refine iff_of_false ?_ not_false
    intro h
    have htwice := h.counted
    rw [hcalls', herrors] at htwice
    omega
  | succeeded record entry _ haudit' hlog hcalls' herrors =>
    refine iff_of_true ?_ trivial
    refine ⟨?_,?_,?_⟩
    · rw [hlog]
      exact Ring.length_pushCut_le (by decide) _ _
    · rw [haudit']
      exact Ring.length_pushCut_le (by decide) _ _
    · rw [hcalls', herrors, ← hcounted]
      omega

theorem effect_audit {e : Ending} (heffect : Effect c e c') (h : c.auditLog.length ≤ 300) :
    c'.auditLog.length ≤ 300 := by
  cases heffect with
  | failedBefore _ _ haudit => rw [haudit]; exact h
  | failedAfter _ _ haudit => rw [haudit]; exact h
  | succeeded _ _ _ haudit =>
    rw [haudit]
    exact Ring.length_pushCut_le (by decide) _ _

/-! ### Runs -/

/-- A client and the number of invocations that were attempted. -/
structure Session where
  client : LLMClient
  attempts : Nat

def Session.new (enabled : Bool) (model : String) : Session :=
  { client := .new enabled model, attempts := 0 }

def invoke (loads : String → Except String Val) (s : Session) (inv : Invocation) : Session :=
  { client := s.client.invoke loads inv
    attempts := if s.client.enabled then s.attempts + 1 else s.attempts }

def InOrder (s : Session) : Prop := Books s.attempts s.client

/-- An attempt that fails finds room in the log, and does so before it is counted. -/
def Orderly (loads : String → Except String Val) (s : Session) (inv : Invocation) : Prop :=
  s.client.enabled = true → Acceptable s.client.callLog.length (ending loads inv)

theorem invoke_inOrder_iff (s : Session) (inv : Invocation) (h : InOrder s) :
    InOrder (invoke loads s inv) ↔ Orderly loads s inv := by
  cases henabled : s.client.enabled with
  | false =>
    have hsame : invoke loads s inv = s := by
      simp [invoke, invoke_disabled henabled, henabled]
    have hidle : ¬ s.client.enabled = true := henabled ▸ Bool.false_ne_true
    rw [hsame]
    exact iff_of_true h fun htrue => absurd htrue hidle
  | true =>
    have hattempts : (invoke loads s inv).attempts = s.attempts + 1 := if_pos henabled
    have heffect : Effect s.client (ending loads inv) (invoke loads s inv).client :=
      invoke_effect henabled inv
    unfold InOrder
    rw [hattempts, effect_books_iff heffect h]
    exact ⟨fun h _ => h,fun h => h henabled⟩

theorem new_inOrder (enabled : Bool) (model : String) : InOrder (.new enabled model) :=
  ⟨Nat.zero_le _,Nat.zero_le _,rfl⟩

/-- The logs stay within their bounds and every attempt is counted once, in exactly the
runs in which every failing attempt finds fewer than 200 entries in the call log, and
none fails after it has been counted. -/
theorem books_in_order_iff (loads : String → Except String Val) (enabled : Bool)
    (model : String) (invs : List Invocation) :
    Runs.Always (invoke loads) InOrder (.new enabled model) invs ↔
      Runs.Along (invoke loads) (Orderly loads) (.new enabled model) invs :=
  Runs.always_iff_along (fun _ => True) (fun _ _ _ => trivial)
    (fun s inv _ h => invoke_inOrder_iff s inv h) trivial (new_inOrder enabled model)

/-- The audit log keeps its bound whatever happens. -/
theorem audit_bounded (loads : String → Except String Val) (enabled : Bool) (model : String)
    (invs : List Invocation) :
    Runs.Always (invoke loads) (fun s => s.client.auditLog.length ≤ 300)
      (.new enabled model) invs := by
  refine Runs.always_invariant ?_ (Nat.zero_le _)
  intro s inv hbound
  cases henabled : s.client.enabled with
  | false => exact (congrArg (·.auditLog.length) (invoke_disabled henabled inv)).trans_le hbound
  | true => exact effect_audit (invoke_effect henabled inv) hbound

/-! ### An outage -/

def outage : Invocation := .completeText "s" "u" none (.failed "Connection error.")

/-- The service answers without a choice. -/
def emptyAnswer : Invocation := .completeText "s" "u" none (.answered ⟨none,[]⟩)

theorem outages_log (s : Session) (henabled : s.client.enabled = true) (n : Nat) :
    (Runs.run (invoke loads) s (List.replicate n outage)).client.callLog.length =
      s.client.callLog.length + n := by
  induction n generalizing s with
  | zero => rfl
  | succ n ih =>
    have heffect : Effect s.client (ending loads outage) (invoke loads s outage).client :=
      invoke_effect henabled outage
    change Effect s.client .failedBefore _ at heffect
    cases heffect with
    | failedBefore entry hsame _ hlog _ _ =>
      rw [List.replicate_succ, Runs.run_cons, ih _ (hsame.trans henabled), hlog,
        List.length_append, List.length_singleton]
      omega

def noJson : String → Except String Val := fun _ => .error "Expecting value"

/-- The 201st failure in a row takes the call log past its bound, and an answer without
a choice counts as a call and as an error. -/
theorem outage_overflows :
    ¬ Runs.Always (invoke noJson) InOrder (.new true "gpt-4o-mini") (List.replicate 201 outage) ∧
    ¬ Runs.Always (invoke noJson) InOrder (.new true "gpt-4o-mini") [emptyAnswer] := by
  constructor
  · intro h
    have hlength := @outages_log noJson (.new true "gpt-4o-mini") rfl 201
    have hbound := h.last.calls
    rw [hlength] at hbound
    exact absurd hbound (by decide)
  · intro h
    have hcounted := h.last.counted
    exact absurd hcounted (by decide)

end ManufacturingMas.Proofs.LlmBooks
