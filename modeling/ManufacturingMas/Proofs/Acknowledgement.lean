import Mathlib.Data.Nat.Count
import ManufacturingMas.Proofs.Delivery

/-! The books on acknowledgements: the counter against the envelopes marked. -/

namespace ManufacturingMas.Proofs.Acknowledgement
open Messaging System Delivery

variable {β : Type} {s : System β}

/-- The operations of a run, with the acknowledgements between them. -/
inductive AckOp (β : Type) where
  | bus (op : BusOp β)
  | acknowledge (aid : AgentId) (envelopeId : String)

def step (s : System β) : AckOp β → System β
  | .bus op => s.step op
  | .acknowledge aid envelopeId =>
    { s with broker := (s.broker.acknowledge aid envelopeId).2 }

/-- The number of published envelopes that are marked as acknowledged. -/
def ackedEnvelopes (s : System β) : Nat :=
  Nat.count (fun seq => s.broker.acked seq = true) s.broker.totalPublished

structure Accounting (s : System β) : Prop where
  counted : s.broker.totalAcked = ackedEnvelopes s
  atMost : s.broker.totalAcked ≤ s.broker.totalPublished
  pending : 0 ≤ s.broker.pending

/-- An acknowledgement that returns `False` leaves everything as it is. -/
def Harmless (s : System β) : AckOp β → Prop
  | .acknowledge aid envelopeId =>
    (s.broker.acknowledge aid envelopeId).1 = false → step s (.acknowledge aid envelopeId) = s
  | .bus _ => True

/-- The acknowledged id is that of a recent envelope not yet acknowledged. -/
def Finds (s : System β) : AckOp β → Prop
  | .acknowledge _ envelopeId =>
    ∃ e ∈ s.broker.envelopeLog.rtake MessageBroker.ackWindow,
      e.envelopeId = envelopeId ∧ s.broker.acked e.seq = false
  | .bus _ => True

/-- The log holds published envelopes, and no others are marked. -/
structure Marked (s : System β) : Prop where
  logged : ∀ e ∈ s.broker.envelopeLog, e.seq < s.broker.totalPublished
  unpublished : ∀ seq, s.broker.totalPublished ≤ seq → s.broker.acked seq = false

theorem ackedEnvelopes_le (s : System β) : ackedEnvelopes s ≤ s.broker.totalPublished :=
  Nat.count_le _

/-- Of the three parts the count carries the others. -/
theorem accounting_iff (s : System β) :
    Accounting s ↔ s.broker.totalAcked = ackedEnvelopes s := by
  constructor
  · exact fun h => h.counted
  · intro h
    have hle : s.broker.totalAcked ≤ s.broker.totalPublished := h ▸ ackedEnvelopes_le s
    refine ⟨h,hle,?_⟩
    unfold MessageBroker.pending
    omega

/-! ### What the other operations leave of the marks -/

/-- What of the broker concerns acknowledgements. -/
def marks (s : System β) : List (MessageEnvelope β) × (Nat → Bool) × Nat × Nat :=
  (s.broker.envelopeLog, s.broker.acked, s.broker.totalAcked, s.broker.totalPublished)

theorem enqueue_marks (d : AgentId → Nat) (e : MessageEnvelope β) (s : System β) (a : AgentId) :
    marks (enqueue d e s a) = marks s := by
  have h := enqueue_cases d e s a
  generalize enqueue d e s a = s' at h ⊢
  cases h <;> rfl

theorem publish_marks (s : System β) (m : AgentMessage β) (topic : Option Topic)
    (w : Surroundings) : marks (s.publish m topic w) = marks (recorded s m topic) := by
  by_cases h : Unknown s m
  · rw [publish_unknown h]
    rfl
  · rw [publish_known h]
    generalize recorded s m topic = t
    induction targets s m topic w generalizing t with
    | nil => rfl
    | cons a rs ih => exact (ih (enqueue w.drained _ t a)).trans (enqueue_marks _ _ t a)

/-- Every bus operation but a publication leaves the marks alone. -/
theorem step_marks (s : System β) (op : BusOp β) :
    marks (s.step op) = marks s ∨ ∃ m topic w, op = .publish m topic w := by
  cases op with
  | publish m topic w => exact .inr ⟨m,topic,w,rfl⟩
  | consume aid =>
    refine .inl ?_
    simp only [System.step]
    rw [(consume_rest s.broker aid).1]
    rfl
  | consumeAll aid =>
    refine .inl ?_
    simp only [System.step]
    rw [(consume_rest s.broker aid).2]
    rfl
  | _ => exact .inl rfl

theorem recorded_marked (m : AgentMessage β) (topic : Option Topic) (h : Marked s) :
    Marked (recorded s m topic) := by
  obtain ⟨hlogged,hunpublished⟩ := h
  constructor
  · intro e he
    have hmem : e ∈ s.broker.envelopeLog ++ [s.broker.envelope m topic] := by
      rw [recorded_log] at he
      exact Ring.mem_of_mem_pushCut he
    change e.seq < s.broker.totalPublished + 1
    rcases List.mem_append.mp hmem with hold | hnew
    · exact Nat.lt_succ_of_lt (hlogged e hold)
    · rw [List.mem_singleton.mp hnew]
      exact Nat.lt_succ_self _
  · intro seq hseq
    change s.broker.totalPublished + 1 ≤ seq at hseq
    have hne : seq ≠ s.broker.totalPublished := by omega
    change Function.update s.broker.acked s.broker.totalPublished false seq = false
    rw [Function.update_of_ne hne]
    exact hunpublished seq (by omega)

/-! ### Counting marks -/

theorem count_same_below {f g : Nat → Bool} {n : Nat} (h : ∀ k < n, f k = g k) :
    Nat.count (fun k => f k = true) n = Nat.count (fun k => g k = true) n :=
  Nat.le_antisymm (Nat.count_mono_left fun k hk hf => (h k hk) ▸ hf)
    (Nat.count_mono_left fun k hk hg => (h k hk).symm ▸ hg)

/-- One new mark below the bound counts one more. -/
theorem count_mark {f : Nat → Bool} {k n : Nat} (hk : k < n) (hf : f k = false) :
    Nat.count (fun i => Function.update f k true i = true) n =
      Nat.count (fun i => f i = true) n + 1 := by
  induction n with
  | zero => exact absurd hk (Nat.not_lt_zero k)
  | succ n ih =>
    rw [Nat.count_succ, Nat.count_succ]
    by_cases hlast : k = n
    · subst hlast
      have hbelow : ∀ i < k, Function.update f k true i = f i :=
        fun i hi => Function.update_of_ne (Nat.ne_of_lt hi) _ _
      rw [count_same_below hbelow]
      simp [hf]
    · rw [ih (by omega), Function.update_of_ne (Ne.symm hlast)]
      omega

/-- The fresh envelope is not acknowledged, so it does not count. -/
theorem recorded_acked (m : AgentMessage β) (topic : Option Topic) :
    ackedEnvelopes (recorded s m topic) = ackedEnvelopes s := by
  have hfresh : (recorded s m topic).broker.acked =
      Function.update s.broker.acked s.broker.totalPublished false := rfl
  have hpublished : (recorded s m topic).broker.totalPublished = s.broker.totalPublished + 1 := rfl
  have hbelow : ∀ k < s.broker.totalPublished,
      Function.update s.broker.acked s.broker.totalPublished false k = s.broker.acked k :=
    fun k hk => Function.update_of_ne (Nat.ne_of_lt hk) _ _
  unfold ackedEnvelopes
  rw [hpublished, Nat.count_succ, hfresh, count_same_below hbelow]
  simp

/-! ### One operation -/

theorem marked_of_marks {s' : System β} (h : marks s' = marks s) : Marked s' ↔ Marked s := by
  simp only [marks, Prod.mk.injEq] at h
  constructor
  · intro hm
    exact ⟨by simpa [h] using hm.logged,by simpa [h] using hm.unpublished⟩
  · intro hm
    exact ⟨by simpa [h] using hm.logged,by simpa [h] using hm.unpublished⟩

theorem accounting_of_marks {s' : System β} (h : marks s' = marks s) :
    Accounting s' ↔ Accounting s := by
  simp only [marks, Prod.mk.injEq] at h
  rw [accounting_iff, accounting_iff, ackedEnvelopes, ackedEnvelopes, h.2.1, h.2.2.1, h.2.2.2]

/-- What an acknowledgement does: it marks one published envelope that was not
marked, or it only advances the counter. -/
theorem acknowledge_cases (hs : Marked s) (aid : AgentId) (id : String) :
    (∃ seq, seq < s.broker.totalPublished ∧ s.broker.acked seq = false ∧
      Finds s (.acknowledge aid id) ∧
      s.broker.acknowledge aid id = (true, { s.broker with
        totalAcked := s.broker.totalAcked + 1
        acked := Function.update s.broker.acked seq true })) ∨
    ¬ Finds s (.acknowledge aid id) ∧
      s.broker.acknowledge aid id =
        (false, { s.broker with totalAcked := s.broker.totalAcked + 1 }) := by
  unfold MessageBroker.acknowledge
  cases hfind : (s.broker.envelopeLog.rtake MessageBroker.ackWindow).reverse.find?
      (fun e => e.envelopeId == id && !s.broker.acked e.seq) with
  | some e =>
    have hmem : e ∈ s.broker.envelopeLog.rtake MessageBroker.ackWindow :=
      List.mem_reverse.mp (List.mem_of_find?_eq_some hfind)
    have hmeets := List.find?_some hfind
    simp only [Bool.and_eq_true, beq_iff_eq, Bool.not_eq_true'] at hmeets
    exact .inl ⟨e.seq,hs.logged e (List.mem_of_mem_drop hmem),hmeets.2,
      ⟨e,hmem,hmeets.1,hmeets.2⟩,rfl⟩
  | none =>
    refine .inr ⟨?_,rfl⟩
    intro hfinds
    obtain ⟨e,hmem,hid,hopen⟩ := hfinds
    have hno := List.find?_eq_none.mp hfind e (List.mem_reverse.mpr hmem)
    simp [hid, hopen] at hno

theorem step_marked (s : System β) (op : AckOp β) (h : Marked s) : Marked (step s op) := by
  cases op with
  | bus op =>
    rcases step_marks s op with hsame | ⟨m,topic,w,rfl⟩
    · exact (marked_of_marks hsame).mpr h
    · exact (marked_of_marks (publish_marks s m topic w)).mpr (recorded_marked m topic h)
  | acknowledge aid id =>
    rcases acknowledge_cases h aid id with ⟨seq,hseq,_,_,hout⟩ | ⟨_,hout⟩
    · simp only [step, hout]
      refine ⟨h.logged,?_⟩
      intro k hk
      have hne : k ≠ seq := fun he => absurd (he ▸ hk) (Nat.not_le_of_lt hseq)
      exact (Function.update_of_ne hne _ _).trans (h.unpublished k hk)
    · simp only [step, hout]
      exact ⟨h.logged,h.unpublished⟩

/-- One operation keeps the books exactly when what it acknowledges is found. -/
theorem step_accounting_iff (s : System β) (op : AckOp β) (hs : Marked s) (h : Accounting s) :
    Accounting (step s op) ↔ Finds s op := by
  cases op with
  | bus op =>
    refine ⟨fun _ => trivial,fun _ => ?_⟩
    rcases step_marks s op with hsame | ⟨m,topic,w,rfl⟩
    · exact (accounting_of_marks hsame).mpr h
    · refine (accounting_of_marks (publish_marks s m topic w)).mpr ?_
      rw [accounting_iff, recorded_acked]
      exact h.counted
  | acknowledge aid id =>
    rcases acknowledge_cases hs aid id with ⟨seq,hseq,hopen,hfinds,hout⟩ | ⟨hnot,hout⟩
    · refine ⟨fun _ => hfinds,fun _ => ?_⟩
      rw [accounting_iff]
      simp only [step, hout, ackedEnvelopes]
      rw [count_mark hseq hopen, h.counted]
      rfl
    · refine ⟨fun hacc => ?_,fun hfinds => absurd hfinds hnot⟩
      have hcount := hacc.counted
      have hbefore := h.counted
      simp only [step, hout] at hcount
      simp only [ackedEnvelopes] at hcount hbefore
      omega

/-- Every acknowledgement that returns `False` advances the counter. -/
theorem harmless_iff_finds (s : System β) (op : AckOp β) (hs : Marked s) :
    Harmless s op ↔ Finds s op := by
  cases op with
  | bus op => exact Iff.rfl
  | acknowledge aid id =>
    rcases acknowledge_cases hs aid id with ⟨seq,_,_,hfinds,hout⟩ | ⟨hnot,hout⟩
    · refine ⟨fun _ => hfinds,fun _ hfalse => ?_⟩
      rw [hout] at hfalse
      cases hfalse
    · refine ⟨fun h => ?_,fun hfinds => absurd hfinds hnot⟩
      have hsame := h (by rw [hout])
      have hcount := congrArg (fun t => t.broker.totalAcked) hsame
      simp only [step, hout] at hcount
      omega

/-! ### Runs -/

theorem new_marked (maxQueue : Int) : Marked (System.new maxQueue : System β) :=
  ⟨fun _ h => absurd h List.not_mem_nil,fun _ _ => rfl⟩

theorem new_accounting (maxQueue : Int) : Accounting (System.new maxQueue : System β) :=
  ⟨rfl,Nat.zero_le _,Int.le_refl _⟩

/-- The counter is the number of acknowledged envelopes, and a refused
acknowledgement changes nothing, in exactly the runs in which every acknowledged
id is found. -/
theorem acknowledgement_accounting_iff (maxQueue : Int) (ops : List (AckOp β)) :
    (Runs.Always step Accounting (.new maxQueue) ops ∧
      Runs.Along step Harmless (.new maxQueue) ops) ↔
        Runs.Along step Finds (.new maxQueue) ops := by
  have hbooks : Runs.Always step Accounting (.new maxQueue) ops ↔
      Runs.Along step Finds (.new maxQueue) ops :=
    Runs.always_iff_along Marked step_marked (fun s op hs h => step_accounting_iff s op hs h)
      (new_marked maxQueue) (new_accounting maxQueue)
  have hrefusals : Runs.Along step Harmless (.new maxQueue) ops ↔
      Runs.Along step Finds (.new maxQueue) ops :=
    Runs.along_congr Marked step_marked (fun s op hs => harmless_iff_finds s op hs)
      (new_marked maxQueue)
  exact ⟨fun h => hbooks.mp h.1,fun h => ⟨hbooks.mpr h,hrefusals.mpr h⟩⟩

/-- One message is published and acknowledged twice. -/
def acknowledgedTwice : List (AckOp Unit) :=
  [.bus (.register "QA" 0 []), .bus (.publish (directMessage "PA" "QA" "m1") none plainly),
    .acknowledge "QA" "m1", .acknowledge "QA" "m1"]

/-- The second acknowledgement returns `False` and makes `pending` negative. -/
theorem second_acknowledgement_counted :
    let s := Runs.run step (.new 5) (acknowledgedTwice.take 3)
    let s' := step s (.acknowledge "QA" "m1")
    (s.broker.acknowledge "QA" "m1").1 = false ∧ s' ≠ s ∧ ackedEnvelopes s' = 1 ∧
      s'.broker.totalAcked = 2 ∧ s'.broker.pending = -1 ∧
      ¬ Runs.Always step Accounting (.new 5) acknowledgedTwice := by
  refine ⟨by decide,?_,by decide,by decide,by decide,?_⟩
  · intro hsame
    have hcount := congrArg (fun t => t.broker.totalAcked) hsame
    exact absurd hcount (by decide)
  · intro h
    exact absurd h.last.pending (by decide)

end ManufacturingMas.Proofs.Acknowledgement
