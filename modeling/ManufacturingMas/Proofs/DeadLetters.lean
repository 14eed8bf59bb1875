import ManufacturingMas.Proofs.Delivery

/-! The dead-letter queue: what an operation adds to it, and in which runs it
stays within its bound. -/

namespace ManufacturingMas.Proofs.DeadLetters
open Messaging System Delivery

variable {β : Type} {s : System β} {e : MessageEnvelope β} {d : AgentId → Nat} {a : AgentId}

instance (s : System β) (m : AgentMessage β) : Decidable (Unknown s m) :=
  inferInstanceAs (Decidable (_ ∧ _))

/-- Whether an envelope for `a` would meet a full queue. -/
def fullQueue (s : System β) (a : AgentId) : Bool :=
  match s.broker.agentQueues a with
  | some q => s.broker.full q
  | none => false

/-- The receivers of a publication whose queue is full when it is made. -/
def fullReceivers (s : System β) (m : AgentMessage β) (topic : Option Topic) (w : Surroundings) :
    List AgentId := (targets s m topic w).filter (fullQueue s)

/-- The dead letters an operation makes: the one of an unknown receiver, or one
for each full receiver that comes after the retries of the envelope are used up. -/
def deadLetters (s : System β) : BusOp β → List (DeadLetter β)
  | .publish m topic w =>
    if Unknown s m then [⟨s.broker.envelope m topic,m.header.receiver⟩]
    else ((fullReceivers s m topic w).drop (maxRetries - 1)).map
      fun a => ⟨s.broker.envelope m topic,a⟩
  | _ => []

def Bounded (s : System β) : Prop := s.broker.dlq.length ≤ MessageBroker.maxDlq

/-- The dead letters of a broadcast still fit into the queue. -/
def Fits (s : System β) : BusOp β → Prop
  | .publish m topic w => m.header.receiver = "ALL" →
      s.broker.dlq.length + ((fullReceivers s m topic w).length - (maxRetries - 1)) ≤
        MessageBroker.maxDlq
  | _ => True

/-- The counter counts the dead letters of the run, and the queue holds the
latest of them. -/
def Counted (maxQueue : Int) (ops : List (BusOp β)) : Prop :=
  let made := Runs.outputs System.step deadLetters (.new maxQueue) ops
  let s := Runs.run System.step (.new maxQueue) ops
  s.broker.totalDlq = made.length ∧ s.broker.dlq <:+ made

/-! ### One call of `_enqueue` -/

theorem fullQueue_of_queue {q : List (MessageEnvelope β)} (hq : s.broker.agentQueues a = some q) :
    fullQueue s a = s.broker.full q := by
  unfold fullQueue
  rw [hq]

theorem enqueue_passes (h : fullQueue s a = false) :
    (enqueue d e s a).broker.dlq = s.broker.dlq ∧
    (enqueue d e s a).broker.totalDlq = s.broker.totalDlq ∧
    (enqueue d e s a).broker.retryCount = s.broker.retryCount := by
  have hend := enqueue_cases d e s a
  generalize enqueue d e s a = s' at hend ⊢
  cases hend with
  | unregistered _ | queued _ _ _ | delivered _ _ _ => exact ⟨rfl,rfl,rfl⟩
  | refused hq hfull | retried hq hfull | dropped hq hfull =>
    rw [fullQueue_of_queue hq, hfull] at h
    cases h

/-- A full queue takes one retry from the envelope, and a dead letter is made
once they are used up. -/
theorem enqueue_meets_full (h : fullQueue s a = true) :
    (enqueue d e s a).broker.retryCount e.seq = s.broker.retryCount e.seq + 1 ∧
    (enqueue d e s a).broker.dlq = s.broker.dlq ++
      (if s.broker.retryCount e.seq + 1 < maxRetries then [] else [⟨e,a⟩]) ∧
    (enqueue d e s a).broker.totalDlq = s.broker.totalDlq +
      (if s.broker.retryCount e.seq + 1 < maxRetries then 0 else 1) := by
  have hend := enqueue_cases d e s a
  generalize enqueue d e s a = s' at hend ⊢
  cases hend with
  | unregistered hq => simp [fullQueue, hq] at h
  | queued hq hroom | delivered hq hroom =>
    rw [fullQueue_of_queue hq, hroom] at h
    cases h
  | refused _ _ hleft | retried _ _ hleft | dropped _ _ hleft => simp [hleft]

theorem fullQueue_of_view {s' : System β} (hf : frame s' = frame s) (hv : view a s' = view a s) :
    fullQueue s' a = fullQueue s a := by
  simp only [view, Prod.mk.injEq] at hv
  simp only [fullQueue, hv.1, full_of_frame hf]

/-! ### The loop over the subscribers -/

/-- The receivers whose dead letter the loop makes, from the retries the
envelope has left. -/
def dropped (s : System β) (e : MessageEnvelope β) (rs : List AgentId) : List AgentId :=
  (rs.filter (fullQueue s)).drop (maxRetries - 1 - s.broker.retryCount e.seq)

theorem dropped_cons (rs : List AgentId) (ha : a ∉ rs) :
    dropped s e (a :: rs) =
      (if fullQueue s a = true ∧ ¬ s.broker.retryCount e.seq + 1 < maxRetries then [a] else []) ++
        dropped (enqueue d e s a) e rs := by
  have hsame : rs.filter (fullQueue (enqueue d e s a)) = rs.filter (fullQueue s) := by
    apply List.filter_congr
    intro b hb
    have hne : b ≠ a := fun h => ha (h ▸ hb)
    exact fullQueue_of_view (enqueue_frame d e s a) (enqueue_view hne)
  unfold dropped
  rw [hsame]
  cases hfull : fullQueue s a with
  | false => simp [hfull, (enqueue_passes (d := d) (e := e) hfull).2.2]
  | true =>
    rw [List.filter_cons_of_pos hfull, (enqueue_meets_full (d := d) (e := e) hfull).1]
    by_cases hcount : s.broker.retryCount e.seq + 1 < maxRetries
    · have hleft : maxRetries - 1 - s.broker.retryCount e.seq =
          maxRetries - 1 - (s.broker.retryCount e.seq + 1) + 1 := by omega
      rw [if_neg (fun h => h.2 hcount), hleft]
      rfl
    · have hnone : maxRetries - 1 - s.broker.retryCount e.seq = 0 := by omega
      have hnone' : maxRetries - 1 - (s.broker.retryCount e.seq + 1) = 0 := by omega
      rw [if_pos ⟨rfl,hcount⟩, hnone, hnone']
      rfl

theorem broadcast_deadLetters (rs : List AgentId) (hnodup : rs.Nodup) :
    (rs.foldl (enqueue d e) s).broker.dlq =
      s.broker.dlq ++ (dropped s e rs).map (fun a => ⟨e,a⟩) ∧
    (rs.foldl (enqueue d e) s).broker.totalDlq =
      s.broker.totalDlq + (dropped s e rs).length := by
  induction rs generalizing s with
  | nil => simp [dropped]
  | cons a rs ih =>
    obtain ⟨ha,hnodup⟩ := List.nodup_cons.mp hnodup
    obtain ⟨hdlq,htotal⟩ := ih (s := enqueue d e s a) hnodup
    rw [List.foldl_cons, hdlq, htotal, dropped_cons (d := d) rs ha]
    cases hfull : fullQueue s a with
    | false =>
      obtain ⟨hsame,hcount,_⟩ := enqueue_passes (d := d) (e := e) hfull
      simp [hsame, hcount]
    | true =>
      obtain ⟨_,hadd,hcount⟩ := enqueue_meets_full (d := d) (e := e) hfull
      rw [hadd, hcount]
      by_cases hretry : s.broker.retryCount e.seq + 1 < maxRetries
      · simp [hretry]
      · simp [hretry, Nat.add_assoc, Nat.add_comm 1]

/-! ### One operation -/

section publish
variable {m : AgentMessage β} {topic : Option Topic} {w : Surroundings}

/-- The envelope of a publication is fresh: it has all its retries. -/
theorem dropped_recorded :
    dropped (recorded s m topic) (s.broker.envelope m topic) (targets s m topic w) =
      (fullReceivers s m topic w).drop (maxRetries - 1) := by
  have hfresh : (recorded s m topic).broker.retryCount (s.broker.envelope m topic).seq = 0 :=
    Function.update_self _ _ _
  unfold dropped fullReceivers
  rw [hfresh]
  rfl

theorem publish_known_deadLetters (topic : Option Topic) (w : Surroundings)
    (h : ¬ Unknown s m) :
    (s.publish m topic w).broker.dlq = s.broker.dlq ++ deadLetters s (.publish m topic w) ∧
    (s.publish m topic w).broker.totalDlq =
      s.broker.totalDlq + (deadLetters s (.publish m topic w)).length := by
  obtain ⟨hdlq,htotal⟩ := broadcast_deadLetters (s := recorded s m topic) (d := w.drained)
    (e := s.broker.envelope m topic) (targets s m topic w) nodup_targets
  rw [← publish_known h, dropped_recorded] at hdlq htotal
  simp only [deadLetters, if_neg h, List.length_map]
  exact ⟨hdlq,htotal⟩

/-- The trim behind the dead letter of an unknown receiver. -/
theorem publish_unknown_deadLetters (topic : Option Topic) (w : Surroundings)
    (h : Unknown s m) :
    (s.publish m topic w).broker.dlq <:+ s.broker.dlq ++ deadLetters s (.publish m topic w) ∧
    (s.publish m topic w).broker.totalDlq =
      s.broker.totalDlq + (deadLetters s (.publish m topic w)).length ∧
    Bounded (s.publish m topic w) := by
  have hmade : deadLetters s (.publish m topic w) =
      [⟨s.broker.envelope m topic,m.header.receiver⟩] := if_pos h
  have hdlq : (recorded s m topic).broker.dlq = s.broker.dlq := rfl
  rw [hmade, publish_unknown h]
  unfold Bounded
  dsimp only
  rw [deadLetterUnknown_dlq, hdlq]
  exact ⟨Ring.pushCut_suffix (List.suffix_refl _) _,rfl,Ring.length_pushCut_le (by decide) _ _⟩

end publish

theorem step_counts (s : System β) (op : BusOp β) :
    (s.step op).broker.dlq <:+ s.broker.dlq ++ deadLetters s op ∧
    (s.step op).broker.totalDlq = s.broker.totalDlq + (deadLetters s op).length := by
  cases op with
  | publish m topic w =>
    by_cases h : Unknown s m
    · obtain ⟨hsuffix,htotal,_⟩ := publish_unknown_deadLetters topic w h
      exact ⟨hsuffix,htotal⟩
    · obtain ⟨hdlq,htotal⟩ := publish_known_deadLetters topic w h
      exact ⟨hdlq ▸ List.suffix_refl _,htotal⟩
  | consume aid =>
    simp only [System.step, deadLetters, List.append_nil]
    rw [(consume_rest s.broker aid).1]
    exact ⟨List.suffix_refl _,rfl⟩
  | consumeAll aid =>
    simp only [System.step, deadLetters, List.append_nil]
    rw [(consume_rest s.broker aid).2]
    exact ⟨List.suffix_refl _,rfl⟩
  | _ =>
    simp only [deadLetters, List.append_nil]
    exact ⟨List.suffix_refl _,rfl⟩

/-- A direct message meets one queue at most, so it makes no dead letter. -/
theorem direct_deadLetters {m : AgentMessage β} {topic : Option Topic} {w : Surroundings}
    (hdirect : m.header.receiver ≠ "ALL") :
    (fullReceivers s m topic w).length - (maxRetries - 1) = 0 := by
  have htargets : targets s m topic w = [m.header.receiver] := if_neg hdirect
  have hlen := List.length_filter_le (fullQueue s) [m.header.receiver]
  unfold fullReceivers
  rw [htargets]
  simp only [List.length_singleton, maxRetries] at hlen ⊢
  omega

theorem step_bounded_iff (s : System β) (op : BusOp β) (hb : Bounded s) :
    Bounded (s.step op) ↔ Fits s op := by
  cases op with
  | publish m topic w =>
    by_cases h : Unknown s m
    · have hkept : Bounded (s.publish m topic w) := (publish_unknown_deadLetters topic w h).2.2
      exact ⟨fun _ hall => absurd hall h.1,fun _ => hkept⟩
    · have hlen := congrArg List.length (publish_known_deadLetters topic w h).1
      simp only [deadLetters, if_neg h, List.length_append, List.length_map,
        List.length_drop] at hlen
      unfold Bounded
      simp only [System.step, hlen, Fits]
      by_cases hall : m.header.receiver = "ALL"
      · exact ⟨fun hfit _ => hfit,fun hfit => hfit hall⟩
      · rw [direct_deadLetters hall]
        exact ⟨fun _ hno => absurd hno hall,fun _ => hb⟩
  | consume aid =>
    simp only [System.step, Bounded, Fits, iff_true]
    rw [(consume_rest s.broker aid).1]
    exact hb
  | consumeAll aid =>
    simp only [System.step, Bounded, Fits, iff_true]
    rw [(consume_rest s.broker aid).2]
    exact hb
  | _ => exact ⟨fun _ => trivial,fun _ => hb⟩

/-! ### Runs -/

/-- The counter and the queue after dead letters were made. -/
def CountedBy (made : List (DeadLetter β)) (s : System β) : Prop :=
  s.broker.totalDlq = made.length ∧ s.broker.dlq <:+ made

theorem step_countedBy (made : List (DeadLetter β)) (s : System β) (op : BusOp β)
    (h : CountedBy made s) : CountedBy (made ++ deadLetters s op) (s.step op) := by
  obtain ⟨htotal,before,hheld⟩ := h
  obtain ⟨hsuffix,hstep⟩ := step_counts s op
  constructor
  · rw [hstep, htotal, List.length_append]
  · refine hsuffix.trans ⟨before,?_⟩
    rw [← List.append_assoc, hheld]

theorem run_counts (maxQueue : Int) (ops : List (BusOp β)) : Counted maxQueue ops := by
  have hrun : CountedBy (Runs.outputs System.step deadLetters (.new maxQueue) ops)
      (Runs.run System.step (.new maxQueue) ops) :=
    Runs.outputs_invariant_nil step_countedBy ⟨rfl,List.suffix_refl _⟩
  exact hrun

/-- The queue stays bounded in exactly the runs whose broadcasts find room in it
for the dead letters of full receivers, and the counter is always right. -/
theorem dlq_bounded_and_counted_iff (maxQueue : Int) (ops : List (BusOp β)) :
    (Runs.Always System.step Bounded (.new maxQueue) ops ∧ ∀ n, Counted maxQueue (ops.take n)) ↔
      Runs.Along System.step Fits (.new maxQueue) ops := by
  have hbound : Runs.Always System.step Bounded (.new maxQueue) ops ↔
      Runs.Along System.step Fits (.new maxQueue) ops :=
    Runs.always_iff_along (fun _ => True) (fun _ _ _ => trivial)
      (fun s op _ hb => step_bounded_iff s op hb) trivial (Nat.zero_le _)
  exact ⟨fun h => hbound.mp h.1,fun h => ⟨hbound.mpr h,fun n => run_counts maxQueue (ops.take n)⟩⟩

/-- A full queue that nobody drains stays as it is. -/
theorem enqueue_full_queue (hd : d a = 0) (h : fullQueue s a = true) :
    (enqueue d e s a).broker.agentQueues = s.broker.agentQueues := by
  have hend := enqueue_cases d e s a
  generalize enqueue d e s a = s' at hend ⊢
  cases hend with
  | unregistered _ | dropped _ _ _ => rfl
  | refused hq _ _ _ =>
    rw [hd, List.drop_zero, ← hq]
    exact Function.update_eq_self a _
  | retried _ hfull _ hroom =>
    rw [hd, List.drop_zero, hfull] at hroom
    cases hroom
  | queued hq hroom | delivered hq hroom =>
    rw [fullQueue_of_queue hq, hroom] at h
    cases h

/-- Where every receiver's queue is full and nobody drains it, a broadcast
leaves the queues as they are. -/
theorem publish_full_queues {m : AgentMessage β} {topic : Option Topic} {w : Surroundings}
    (hknown : ¬ Unknown s m) (hdrained : ∀ a, w.drained a = 0)
    (hfull : ∀ a ∈ targets s m topic w, fullQueue s a = true) :
    (s.publish m topic w).broker.agentQueues = s.broker.agentQueues := by
  have hloop : ∀ (rs : List AgentId) (t : System β), (∀ a ∈ rs, fullQueue t a = true) →
      (rs.foldl (enqueue w.drained (s.broker.envelope m topic)) t).broker.agentQueues =
        t.broker.agentQueues := by
    intro rs
    induction rs with
    | nil => exact fun _ _ => rfl
    | cons a rs ih =>
      intro t hall
      have hone : (enqueue w.drained (s.broker.envelope m topic) t a).broker.agentQueues =
          t.broker.agentQueues := enqueue_full_queue (hdrained a) (hall a List.mem_cons_self)
      have hf := enqueue_frame w.drained (s.broker.envelope m topic) t a
      refine (ih _ ?_).trans hone
      intro b hb
      rw [← hall b (List.mem_cons_of_mem _ hb)]
      unfold fullQueue
      rw [hone]
      cases t.broker.agentQueues b with
      | none => rfl
      | some q => exact full_of_frame hf q
  rw [publish_known hknown]
  exact hloop _ (recorded s m topic) hfull

/-- Three agents whose queues of size one are full, and a message to everyone. -/
def threeFull : List (BusOp Unit) :=
  [.register "QA" 0 [], .register "SA" 1 [], .register "DA" 2 [],
    .publish (directMessage "PA" "ALL" "m0") none plainly]

def toEveryone : BusOp Unit := .publish (directMessage "PA" "ALL" "m") none plainly

/-- What decides the receivers of a broadcast and the fill of their queues. -/
def standing (s : System Unit) :
    Int × (AgentId → Option (List (MessageEnvelope Unit))) × (Topic → IdSet) :=
  (s.broker.maxQueue, s.broker.agentQueues, s.broker.subscriptions)

theorem toEveryone_adds_one (s : System Unit)
    (h : standing s = standing (Runs.run System.step (.new 1) threeFull)) :
    standing (s.step toEveryone) = standing s ∧
    (s.step toEveryone).broker.dlq.length = s.broker.dlq.length + 1 := by
  have hreceivers : targets s (directMessage "PA" "ALL" "m") none plainly = ["DA","SA","QA"] ∧
      ∀ a ∈ ["DA","SA","QA"], fullQueue s a = true := by
    simp only [standing, Prod.mk.injEq] at h
    simp only [targets, fullQueue, MessageBroker.full, h.1, h.2.1, h.2.2]
    decide
  have hknown : ¬ Unknown s (directMessage "PA" "ALL" "m") := fun hu => hu.1 rfl
  have hfull : ∀ a ∈ targets s (directMessage "PA" "ALL" "m") none plainly,
      fullQueue s a = true := hreceivers.1 ▸ hreceivers.2
  have hqueues := publish_full_queues hknown (fun _ => rfl) hfull
  have hframe := broadcast_frame (s := recorded s (directMessage "PA" "ALL" "m") none)
    (d := plainly.drained) (e := s.broker.envelope (directMessage "PA" "ALL" "m") none)
    (targets s (directMessage "PA" "ALL" "m") none plainly)
  rw [← publish_known hknown] at hframe
  simp only [frame, Prod.mk.injEq] at hframe
  have hlen := congrArg List.length
    (publish_known_deadLetters none plainly hknown).1
  have hall : fullReceivers s (directMessage "PA" "ALL" "m") none plainly = ["DA","SA","QA"] :=
    (List.filter_eq_self.mpr hfull).trans hreceivers.1
  simp only [deadLetters, if_neg hknown, hall] at hlen
  refine ⟨?_,?_⟩
  · simp only [standing, toEveryone, System.step, hqueues, hframe.1, hframe.2.2.1]
    rfl
  · rw [toEveryone, System.step, hlen]
    simp [maxRetries]

theorem toEveryone_adds (n : Nat) (s : System Unit)
    (h : standing s = standing (Runs.run System.step (.new 1) threeFull)) :
    (Runs.run System.step s (List.replicate n toEveryone)).broker.dlq.length =
      s.broker.dlq.length + n := by
  induction n generalizing s with
  | zero => rfl
  | succ n ih =>
    obtain ⟨hstanding,hlen⟩ := toEveryone_adds_one s h
    rw [List.replicate_succ, Runs.run_cons, ih _ (hstanding.trans h), hlen]
    omega

/-- After 501 such messages the queue is longer than its bound. -/
theorem broadcasts_overflow_dlq :
    ¬ Runs.Always System.step Bounded (.new 1)
      (threeFull ++ List.replicate 501 toEveryone) := by
  intro h
  have hlast := h.last
  unfold Bounded at hlast
  rw [Runs.run_append, toEveryone_adds 501 _ rfl] at hlast
  simp only [MessageBroker.maxDlq] at hlast
  omega

end ManufacturingMas.Proofs.DeadLetters
