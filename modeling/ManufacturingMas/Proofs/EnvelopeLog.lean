import ManufacturingMas.Proofs.Acknowledgement

/-! The envelope log as a recent part of all that was published. -/

namespace ManufacturingMas.Proofs.EnvelopeLog
open Messaging Delivery Acknowledgement

variable {β : Type} {s : System β} {history : List (MessageEnvelope β)}

/-- The envelope an operation publishes. -/
def published (s : System β) : AckOp β → List (MessageEnvelope β)
  | .bus (.publish m topic _) => [s.broker.envelope m topic]
  | _ => []

/-- The log ends the history, and the history holds each publication once, in order. -/
structure Recent (history : List (MessageEnvelope β)) (s : System β) : Prop where
  suffix : s.broker.envelopeLog <:+ history
  atMost : s.broker.envelopeLog.length ≤ MessageBroker.maxEnvelopeLog
  atLeast : min history.length 1000 ≤ s.broker.envelopeLog.length
  numbered : history.map (·.seq) = List.range s.broker.totalPublished

/-- An acknowledgement finds the envelope if it is not acknowledged yet, and marks
it unless a later one bears the same id. -/
def Findable (history : List (MessageEnvelope β)) (b : MessageBroker β) : Prop :=
  ∀ e ∈ history.rtake 200, b.acked e.seq = false → ∀ aid,
    (b.acknowledge aid e.envelopeId).1 = true ∧
    ((∀ e' ∈ history.rtake 200, e'.envelopeId = e.envelopeId → e' = e) →
      (b.acknowledge aid e.envelopeId).2.acked e.seq = true)

/-! ### One operation -/

theorem Recent.of_log {s' : System β} (hlog : s'.broker.envelopeLog = s.broker.envelopeLog)
    (htotal : s'.broker.totalPublished = s.broker.totalPublished) (h : Recent history s) :
    Recent history s' := by
  obtain ⟨hsuffix,hmost,hleast,hnumbered⟩ := h
  constructor
  · rw [hlog]
    exact hsuffix
  · rw [hlog]
    exact hmost
  · rw [hlog]
    exact hleast
  · rw [htotal]
    exact hnumbered

theorem Recent.of_marks {s' : System β} (hmarks : marks s' = marks s) (h : Recent history s) :
    Recent history s' := by
  simp only [marks, Prod.mk.injEq] at hmarks
  exact h.of_log hmarks.1 hmarks.2.2.2

theorem recorded_recent (h : Recent history s) (m : AgentMessage β) (topic : Option Topic) :
    Recent (history ++ [s.broker.envelope m topic]) (recorded s m topic) := by
  have hcut : 1000 ≤ 2000 := by decide
  constructor
  · rw [recorded_log]
    exact Ring.pushCut_suffix h.suffix _
  · rw [recorded_log]
    exact Ring.length_pushCut_le hcut _ _
  · rw [recorded_log, List.length_append, List.length_singleton]
    exact Ring.le_length_pushCut hcut h.atLeast _
  · have hseq : (s.broker.envelope m topic).seq = s.broker.totalPublished := rfl
    have htotal : (recorded s m topic).broker.totalPublished =
      s.broker.totalPublished + 1 := rfl
    rw [List.map_append, h.numbered, htotal, List.range_succ, List.map_singleton, hseq]

theorem acknowledge_log (b : MessageBroker β) (aid : AgentId) (id : String) :
    (b.acknowledge aid id).2.envelopeLog = b.envelopeLog ∧
    (b.acknowledge aid id).2.totalPublished = b.totalPublished := by
  unfold MessageBroker.acknowledge
  dsimp only
  split <;> exact ⟨rfl,rfl⟩

theorem published_nothing {op : BusOp β} (hop : ¬ ∃ m topic w, op = .publish m topic w) :
    published s (.bus op) = [] := by
  cases op with
  | publish m topic w => exact absurd ⟨m,topic,w,rfl⟩ hop
  | _ => rfl

theorem step_recent (h : Recent history s) (op : AckOp β) :
    Recent (history ++ published s op) (step s op) := by
  cases op with
  | acknowledge aid id =>
    obtain ⟨hlog,htotal⟩ := acknowledge_log s.broker aid id
    have hnothing : published s (.acknowledge aid id) = [] := rfl
    rw [hnothing, List.append_nil]
    simp only [step]
    generalize (s.broker.acknowledge aid id).2 = b at hlog htotal ⊢
    exact h.of_log hlog htotal
  | bus op =>
    by_cases hpublish : ∃ m topic w, op = .publish m topic w
    · obtain ⟨m,topic,w,rfl⟩ := hpublish
      exact (recorded_recent h m topic).of_marks (publish_marks s m topic w)
    · have hsame := (step_marks s op).resolve_right hpublish
      rw [published_nothing hpublish, List.append_nil]
      exact h.of_marks hsame

/-! ### Acknowledging -/

/-- An open envelope in the window makes the search end at one of its id. -/
theorem acknowledge_finds {e : MessageEnvelope β} {b : MessageBroker β}
    (hmem : e ∈ b.envelopeLog.rtake MessageBroker.ackWindow) (hopen : b.acked e.seq = false)
    (aid : AgentId) :
    ∃ e' ∈ b.envelopeLog.rtake MessageBroker.ackWindow, e'.envelopeId = e.envelopeId ∧
      (b.acknowledge aid e.envelopeId).1 = true ∧
      (b.acknowledge aid e.envelopeId).2.acked e'.seq = true := by
  unfold MessageBroker.acknowledge
  cases hfind : (b.envelopeLog.rtake MessageBroker.ackWindow).reverse.find?
      (fun e' => e'.envelopeId == e.envelopeId && !b.acked e'.seq) with
  | none =>
    have hno := List.find?_eq_none.mp hfind e (List.mem_reverse.mpr hmem)
    simp [hopen] at hno
  | some e' =>
    have hmeets := List.find?_some hfind
    simp only [Bool.and_eq_true, beq_iff_eq] at hmeets
    have hmem' := List.mem_reverse.mp (List.mem_of_find?_eq_some hfind)
    exact ⟨e',hmem',hmeets.1,rfl,Function.update_self _ _ _⟩

theorem Recent.findable (h : Recent history s) : Findable history s.broker := by
  have hwindow : s.broker.envelopeLog.rtake MessageBroker.ackWindow = history.rtake 200 := by
    refine Ring.rtake_of_suffix h.suffix (le_trans ?_ h.atLeast)
    exact min_le_min_left _ (by decide)
  intro e hmem hopen aid
  rw [← hwindow] at hmem
  obtain ⟨e',hmem',hid,hfound,hmarked⟩ := acknowledge_finds hmem hopen aid
  refine ⟨hfound,fun honly => ?_⟩
  rw [hwindow] at hmem'
  rw [honly e' hmem' hid] at hmarked
  exact hmarked

/-! ### Runs -/

theorem new_recent (maxQueue : Int) : Recent [] (System.new maxQueue : System β) :=
  ⟨List.suffix_refl _,Nat.zero_le _,Nat.zero_le _,rfl⟩

/-- In every run the log is the recent end of all that was published: at least the
last 1000 envelopes, at most 2000. Any of the last 200 can be acknowledged, and the
message log shows the messages in the order of their publication, each once. -/
theorem envelope_log_recent (maxQueue : Int) (ops : List (AckOp β)) :
    let s := Runs.run step (.new maxQueue) ops
    let history := Runs.outputs step published (.new maxQueue) ops
    Recent history s ∧ Findable history s.broker ∧
      s.broker.messageLog <:+ history.map (·.message) ∧
      (s.broker.envelopeLog.map (·.seq)).Pairwise (· < ·) := by
  have hrun : Recent (Runs.outputs step published (.new maxQueue) ops)
      (Runs.run step (.new maxQueue) ops) :=
    Runs.outputs_invariant_nil (fun _ _ op h => step_recent h op) (new_recent maxQueue)
  refine ⟨hrun,hrun.findable,hrun.suffix.map _,?_⟩
  have hordered : (List.range
      (Runs.run step (System.new maxQueue) ops).broker.totalPublished).Pairwise (· < ·) :=
    List.pairwise_lt_range
  rw [← hrun.numbered] at hordered
  exact hordered.sublist (hrun.suffix.map _).sublist

end ManufacturingMas.Proofs.EnvelopeLog
