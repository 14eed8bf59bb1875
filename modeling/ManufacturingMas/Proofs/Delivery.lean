import ManufacturingMas.Lib.Logs
import ManufacturingMas.Lib.Runs
import ManufacturingMas.Messaging.Broker

/-! What becomes of a published message at each agent it is meant for. -/

namespace ManufacturingMas.Proofs.Delivery
open Messaging System

variable {β : Type} {s : System β} {e : MessageEnvelope β} {d : AgentId → Nat} {a r : AgentId}

/-- The inbox of the agent object registered under `r`. -/
def inboxOf (s : System β) (r : AgentId) : List (AgentMessage β) :=
  match s.broker.agentRefs r with
  | some obj => s.inbox r obj
  | none => []

/-- The agents a message is meant for: the addressed one, or every registered
subscriber of the topic other than the sender. -/
def Intended (s : System β) (m : AgentMessage β) (topic : Option Topic) (r : AgentId) : Prop :=
  if m.header.receiver = "ALL" then
    r ∈ (s.broker.subscriptions (topic.getD (intentTopic m.intent))).ids ∧
      (s.broker.agentQueues r).isSome ∧ r ≠ m.header.sender
  else r = m.header.receiver

def Congested (s : System β) (r : AgentId) : Prop :=
  ∃ q, s.broker.agentQueues r = some q ∧ s.broker.full q = true

def Queued (s : System β) (e : MessageEnvelope β) (r : AgentId) : Prop :=
  ∃ q, s.broker.agentQueues r = some q ∧ e ∈ q

def DeadLettered (s : System β) (e : MessageEnvelope β) (r : AgentId) : Prop :=
  ⟨e,r⟩ ∈ s.broker.dlq

/-- Between `s` and `s'` the envelope reached the inbox of `r` once or got a
dead letter there, not both, and it is not queued without being handed over. -/
def Accounted (s s' : System β) (e : MessageEnvelope β) (r : AgentId) : Prop :=
  (inboxOf s' r = inboxOf s r ++ [e.message] ∧ ¬ DeadLettered s' e r ∨
    inboxOf s' r = inboxOf s r ∧ DeadLettered s' e r) ∧
  (Queued s' e r → inboxOf s' r = inboxOf s r ++ [e.message])

/-- The law for one operation: every intended receiver of a publication is
accounted for. -/
def Accounts (s : System β) : BusOp β → Prop
  | .publish m topic w => ∀ r, Intended s m topic r →
      Accounted s (s.step (.publish m topic w)) (s.broker.envelope m topic) r
  | _ => True

/-- No intended receiver has a full queue when the publication is made. -/
def Uncongested (s : System β) : BusOp β → Prop
  | .publish m topic _ => ∀ r, Intended s m topic r → ¬ Congested s r
  | _ => True

/-- Dead letters belong to publications that were made, and a queue to an agent
object. -/
structure Coherent (s : System β) : Prop where
  dated : ∀ dl ∈ s.broker.dlq, dl.envelope.seq < s.broker.totalPublished
  attached : ∀ a, (s.broker.agentRefs a).isSome = (s.broker.agentQueues a).isSome

/-! ### One call of `_enqueue` -/

/-- What `_enqueue` never changes. -/
def frame (s : System β) :
    Int × (AgentId → Option Nat) × (Topic → IdSet) × Nat ×
      (AgentId → Nat → List (AgentMessage β)) :=
  (s.broker.maxQueue, s.broker.agentRefs, s.broker.subscriptions, s.broker.totalPublished,
    s.popped)

/-- What of the system concerns the agents of id `r`. -/
def view (r : AgentId) (s : System β) :
    Option (List (MessageEnvelope β)) × (Nat → List (AgentMessage β)) × List (DeadLetter β) :=
  (s.broker.agentQueues r, s.inbox r, s.broker.dlq.filter (·.receiver = r))

/-- The ways a call of `_enqueue` ends, with the system it leaves: no queue; a
full one, still full or with room at the second attempt, or past the retries; one
with room, whose agent object is there or not. -/
inductive Enqueued (d : AgentId → Nat) (e : MessageEnvelope β) (s : System β) (a : AgentId) :
    System β → Prop
  | unregistered (hq : s.broker.agentQueues a = none) : Enqueued d e s a s
  | refused {q : List (MessageEnvelope β)} (hq : s.broker.agentQueues a = some q)
      (hfull : s.broker.full q = true) (hleft : s.broker.retryCount e.seq + 1 < maxRetries)
      (hstill : s.broker.full (q.drop (d a)) = true) :
      Enqueued d e s a { s with broker := { s.broker with
        retryCount :=
          Function.update s.broker.retryCount e.seq (s.broker.retryCount e.seq + 1)
        agentQueues := Function.update s.broker.agentQueues a (some (q.drop (d a))) } }
  | retried {q : List (MessageEnvelope β)} (hq : s.broker.agentQueues a = some q)
      (hfull : s.broker.full q = true) (hleft : s.broker.retryCount e.seq + 1 < maxRetries)
      (hroom : s.broker.full (q.drop (d a)) = false) :
      Enqueued d e s a { s with broker := { s.broker with
        retryCount :=
          Function.update s.broker.retryCount e.seq (s.broker.retryCount e.seq + 1)
        agentQueues := Function.update s.broker.agentQueues a (some (q.drop (d a) ++ [e]))
        totalDelivered := s.broker.totalDelivered + 1 } }
  | dropped {q : List (MessageEnvelope β)} (hq : s.broker.agentQueues a = some q)
      (hfull : s.broker.full q = true)
      (hleft : ¬ s.broker.retryCount e.seq + 1 < maxRetries) :
      Enqueued d e s a { s with broker := { s.broker with
        retryCount :=
          Function.update s.broker.retryCount e.seq (s.broker.retryCount e.seq + 1)
        dlq := s.broker.dlq ++ [⟨e,a⟩]
        totalDlq := s.broker.totalDlq + 1 } }
  | queued {q : List (MessageEnvelope β)} (hq : s.broker.agentQueues a = some q)
      (hroom : s.broker.full q = false) (hobj : s.broker.agentRefs a = none) :
      Enqueued d e s a { s with broker := s.broker.put a q e }
  | delivered {q : List (MessageEnvelope β)} {obj : Nat}
      (hq : s.broker.agentQueues a = some q) (hroom : s.broker.full q = false)
      (hobj : s.broker.agentRefs a = some obj) :
      Enqueued d e s a
        (receiveMessage { s with broker := s.broker.put a q e } a obj e.message)

theorem enqueue_cases (d : AgentId → Nat) (e : MessageEnvelope β) (s : System β) (a : AgentId) :
    Enqueued d e s a (enqueue d e s a) := by
  unfold enqueue
  cases hq : s.broker.agentQueues a with
  | none => exact .unregistered hq
  | some q =>
    dsimp only
    cases hfull : s.broker.full q with
    | true =>
      rw [if_pos rfl]
      unfold MessageBroker.retry
      by_cases hleft : s.broker.retryCount e.seq + 1 < maxRetries
      · rw [if_pos hleft]
        dsimp only
        split
        · rename_i hstill
          exact .refused hq hfull hleft hstill
        · rename_i hstill
          unfold MessageBroker.put
          rw [Function.update_idem]
          exact .retried hq hfull hleft (Bool.eq_false_iff.mpr hstill)
      · rw [if_neg hleft]
        exact .dropped hq hfull hleft
    | false =>
      rw [if_neg Bool.false_ne_true]
      split
      · rename_i hobj
        exact .queued hq hfull hobj
      · rename_i hobj
        exact .delivered hq hfull hobj

theorem enqueue_frame (d : AgentId → Nat) (e : MessageEnvelope β) (s : System β) (a : AgentId) :
    frame (enqueue d e s a) = frame s := by
  have h := enqueue_cases d e s a
  generalize enqueue d e s a = s' at h ⊢
  cases h <;> rfl

/-- `_enqueue` for one agent is not noticed by another. -/
theorem enqueue_view (h : r ≠ a) : view r (enqueue d e s a) = view r s := by
  have hend := enqueue_cases d e s a
  generalize enqueue d e s a = s' at hend ⊢
  cases hend with
  | unregistered _ => rfl
  | dropped _ _ _ => simp [view, h.symm]
  | refused _ _ _ _ => simp [view, Function.update_of_ne h]
  | retried _ _ _ _ => simp [view, Function.update_of_ne h]
  | queued _ _ _ => simp [view, MessageBroker.put, Function.update_of_ne h]
  | delivered _ _ _ => simp [view, MessageBroker.put, receiveMessage, Function.update_of_ne h]

theorem enqueue_room {q : List (MessageEnvelope β)} (hq : s.broker.agentQueues a = some q)
    (hroom : s.broker.full q = false) :
    (enqueue d e s a).broker.agentQueues a = some (q ++ [e]) ∧
    (enqueue d e s a).broker.dlq = s.broker.dlq ∧
    (enqueue d e s a).broker.retryCount = s.broker.retryCount ∧
    ∀ n, (enqueue d e s a).inbox a n =
      if s.broker.agentRefs a = some n then s.inbox a n ++ [e.message] else s.inbox a n := by
  have hend := enqueue_cases d e s a
  generalize enqueue d e s a = s' at hend ⊢
  cases hend with
  | unregistered hnone => simp [hq] at hnone
  | queued hq' _ hobj =>
    cases hq.symm.trans hq'
    simp [MessageBroker.put, hobj]
  | @delivered _ obj hq' _ hobj =>
    cases hq.symm.trans hq'
    simp only [MessageBroker.put, receiveMessage, hobj, Function.update_self, Option.some.injEq,
      true_and]
    intro n
    by_cases hn : obj = n
    · subst hn
      simp
    · simp [hn, Function.update_of_ne (Ne.symm hn)]
  | refused hq' hfull | retried hq' hfull | dropped hq' hfull =>
    cases hq.symm.trans hq'
    simp [hroom] at hfull

/-- The first full queue of a publication loses the message: no inbox and no
dead letter. -/
theorem enqueue_full {q : List (MessageEnvelope β)} (hq : s.broker.agentQueues a = some q)
    (hfull : s.broker.full q = true) (hfirst : s.broker.retryCount e.seq = 0) :
    (enqueue d e s a).inbox = s.inbox ∧ (enqueue d e s a).broker.dlq = s.broker.dlq := by
  have hend := enqueue_cases d e s a
  generalize enqueue d e s a = s' at hend ⊢
  cases hend with
  | unregistered _ | refused _ _ _ _ | retried _ _ _ _ => exact ⟨rfl,rfl⟩
  | dropped _ _ hleft => exact absurd (by rw [hfirst]; decide) hleft
  | queued hq' hroom | delivered hq' hroom =>
    cases hq.symm.trans hq'
    simp [hfull] at hroom

theorem inboxOf_of_view {s' : System β} (hf : frame s' = frame s) (hv : view r s' = view r s) :
    inboxOf s' r = inboxOf s r := by
  simp only [frame, view, Prod.mk.injEq] at hf hv
  unfold inboxOf
  rw [hf.2.1]
  cases s.broker.agentRefs r with
  | none => rfl
  | some obj => exact congrFun hv.2.1 obj

theorem deadLettered_of_view {s' : System β} (hv : view r s' = view r s) :
    DeadLettered s' e r ↔ DeadLettered s e r := by
  simp only [view, Prod.mk.injEq] at hv
  have hmem : ∀ t : System β,
      DeadLettered t e r ↔ ⟨e,r⟩ ∈ t.broker.dlq.filter (·.receiver = r) := by
    simp [DeadLettered]
  rw [hmem s', hmem s, hv.2.2]

theorem full_of_frame {s' : System β} (hf : frame s' = frame s) (q : List (MessageEnvelope β)) :
    s'.broker.full q = s.broker.full q := by
  simp only [frame, Prod.mk.injEq] at hf
  simp only [MessageBroker.full, hf.1]

theorem congested_of_view {s' : System β} (hf : frame s' = frame s) (hv : view r s' = view r s) :
    Congested s' r ↔ Congested s r := by
  simp only [view, Prod.mk.injEq] at hv
  simp only [Congested, hv.1, full_of_frame hf]

/-! ### The loop over the subscribers -/

theorem broadcast_frame (rs : List AgentId) :
    frame (rs.foldl (enqueue d e) s) = frame s := by
  induction rs generalizing s with
  | nil => rfl
  | cons a rs ih => exact ih.trans (enqueue_frame d e s a)

theorem broadcast_view (rs : List AgentId) (h : r ∉ rs) :
    view r (rs.foldl (enqueue d e) s) = view r s := by
  induction rs generalizing s with
  | nil => rfl
  | cons a rs ih =>
    rw [List.mem_cons, not_or] at h
    exact (ih h.2).trans (enqueue_view h.1)

/-- With room everywhere each registered receiver gets the message once. -/
theorem broadcast_room (rs : List AgentId) (hnodup : rs.Nodup)
    (hroom : ∀ a ∈ rs, ¬ Congested s a) (hr : r ∈ rs) {q : List (MessageEnvelope β)}
    (hq : s.broker.agentQueues r = some q) :
    (rs.foldl (enqueue d e) s).broker.agentQueues r = some (q ++ [e]) ∧
    (DeadLettered (rs.foldl (enqueue d e) s) e r ↔ DeadLettered s e r) ∧
    ∀ n, (rs.foldl (enqueue d e) s).inbox r n =
      if s.broker.agentRefs r = some n then s.inbox r n ++ [e.message] else s.inbox r n := by
  induction rs generalizing s with
  | nil => cases hr
  | cons a rs ih =>
    obtain ⟨ha,hnodup⟩ := List.nodup_cons.mp hnodup
    rcases List.mem_cons.mp hr with rfl | hr
    · have hnot : s.broker.full q = false := by
        by_contra hf
        exact hroom r List.mem_cons_self ⟨q,hq,by simpa using hf⟩
      obtain ⟨hq',hdlq,_,hin⟩ := enqueue_room (d := d) (e := e) hq hnot
      have hv := broadcast_view (s := enqueue d e s r) (d := d) (e := e) rs ha
      have hdl := deadLettered_of_view (e := e) hv
      simp only [view, Prod.mk.injEq] at hv
      refine ⟨hv.1.trans hq',hdl.trans (by simp only [DeadLettered, hdlq]),fun n => ?_⟩
      exact (congrFun hv.2.1 n).trans (hin n)
    · have hne : r ≠ a := fun h => ha (h ▸ hr)
      have hf := enqueue_frame d e s a
      have hv := enqueue_view (s := s) (d := d) (e := e) hne
      have hroom' : ∀ b ∈ rs, ¬ Congested (enqueue d e s a) b := by
        intro b hb
        have hb' : b ≠ a := fun h => ha (h ▸ hb)
        rw [congested_of_view hf (enqueue_view hb')]
        exact hroom b (List.mem_cons_of_mem _ hb)
      have hdl := deadLettered_of_view (e := e) hv
      simp only [view, frame, Prod.mk.injEq] at hv hf
      have hrec := ih hnodup hroom' hr (hv.1.trans hq)
      rw [hdl, hv.2.1, hf.2.1] at hrec
      exact hrec

theorem enqueue_unregistered (h : s.broker.agentQueues a = none) : enqueue d e s a = s := by
  unfold enqueue
  rw [h]

/-- An agent without a full queue is none of the congested ones. -/
theorem Congested.ne {a : AgentId} (h : Congested s r)
    (ha : ∀ q, s.broker.agentQueues a = some q → s.broker.full q = false) : r ≠ a := by
  rintro rfl
  obtain ⟨q,hq,hfull⟩ := h
  rw [ha q hq] at hfull
  cases hfull

/-- Once a receiver is congested, some receiver of the broadcast gets neither
the message nor a dead letter. -/
theorem broadcast_loses (rs : List AgentId) (hnodup : rs.Nodup)
    (hfirst : s.broker.retryCount e.seq = 0) (hr : r ∈ rs) (hc : Congested s r) :
    ∃ a ∈ rs, (s.broker.agentQueues a).isSome ∧
      inboxOf (rs.foldl (enqueue d e) s) a = inboxOf s a ∧
      (DeadLettered (rs.foldl (enqueue d e) s) e a ↔ DeadLettered s e a) := by
  induction rs generalizing s with
  | nil => cases hr
  | cons a rs ih =>
    obtain ⟨ha,hnodup⟩ := List.nodup_cons.mp hnodup
    have hf := enqueue_frame d e s a
    have hother : ∀ b ∈ rs, view b (enqueue d e s a) = view b s :=
      fun b hb => enqueue_view fun h => ha (h ▸ hb)
    -- a call that keeps the retry count passes the loss on to the rest of the loop
    have hrest : r ≠ a → (enqueue d e s a).broker.retryCount = s.broker.retryCount → ∃ b ∈ a :: rs,
        (s.broker.agentQueues b).isSome ∧
        inboxOf ((a :: rs).foldl (enqueue d e) s) b = inboxOf s b ∧
        (DeadLettered ((a :: rs).foldl (enqueue d e) s) e b ↔ DeadLettered s e b) := by
      intro hne hretry
      have hr : r ∈ rs := (List.mem_cons.mp hr).resolve_left hne
      obtain ⟨b,hb,hreg,hin,hdl⟩ := ih hnodup (by rw [hretry]; exact hfirst) hr
        ((congested_of_view hf (hother r hr)).mpr hc)
      refine ⟨b,List.mem_cons_of_mem _ hb,?_,hin.trans (inboxOf_of_view hf (hother b hb)),
        hdl.trans (deadLettered_of_view (hother b hb))⟩
      have hv := hother b hb
      simp only [view, Prod.mk.injEq] at hv
      rw [← hv.1]
      exact hreg
    cases hq : s.broker.agentQueues a with
    | none =>
      have hne : r ≠ a := hc.ne fun q hq' => by simp [hq] at hq'
      exact hrest hne (by rw [enqueue_unregistered hq])
    | some q =>
      cases hfull : s.broker.full q with
      | true =>
        obtain ⟨hin,hdlq⟩ := enqueue_full (d := d) hq hfull hfirst
        have hv := broadcast_view (s := enqueue d e s a) (d := d) (e := e) rs ha
        refine ⟨a,List.mem_cons_self,by simp [hq],?_,?_⟩
        · refine (inboxOf_of_view (broadcast_frame rs) hv).trans ?_
          simp only [frame, Prod.mk.injEq] at hf
          simp only [inboxOf, hf.2.1, hin]
        · refine (deadLettered_of_view hv).trans ?_
          simp only [DeadLettered, hdlq]
      | false =>
        have hne : r ≠ a := hc.ne fun q' hq' => by
          rw [hq, Option.some.injEq] at hq'
          rw [← hq']
          exact hfull
        exact hrest hne (enqueue_room hq hfull).2.2.1

/-! ### One publication -/

/-- The agents `publish` calls `_enqueue` for, in order. -/
def targets (s : System β) (m : AgentMessage β) (topic : Option Topic) (w : Surroundings) :
    List AgentId :=
  if m.header.receiver = "ALL" then
    (w.order.visit (s.broker.subscriptions (topic.getD (intentTopic m.intent)))).filter
      (· ≠ m.header.sender)
  else [m.header.receiver]

/-- The system after the locked section at the start of `publish`. -/
def recorded (s : System β) (m : AgentMessage β) (topic : Option Topic) : System β :=
  { s with broker := s.broker.record (s.broker.envelope m topic) }

theorem recorded_log (s : System β) (m : AgentMessage β) (topic : Option Topic) :
    (recorded s m topic).broker.envelopeLog =
      Ring.pushCut 2000 1000 s.broker.envelopeLog (s.broker.envelope m topic) := rfl

theorem deadLetterUnknown_dlq (b : MessageBroker β) (aid : AgentId) (e : MessageEnvelope β) :
    (b.deadLetterUnknown aid e).dlq = Ring.pushCut 500 250 b.dlq ⟨e,aid⟩ := rfl

def Unknown (s : System β) (m : AgentMessage β) : Prop :=
  m.header.receiver ≠ "ALL" ∧ s.broker.agentQueues m.header.receiver = none

section publish
variable {m : AgentMessage β} {topic : Option Topic} {w : Surroundings}

theorem publish_known (h : ¬ Unknown s m) :
    s.publish m topic w = (targets s m topic w).foldl
      (enqueue w.drained (s.broker.envelope m topic)) (recorded s m topic) := by
  unfold publish targets
  by_cases hall : m.header.receiver = "ALL"
  · simp only [hall, ↓reduceIte]
    rfl
  · have hreg : (s.broker.agentQueues m.header.receiver).isSome := by
      by_contra hn
      exact h ⟨hall,by simpa using hn⟩
    simp only [hall, ↓reduceIte, MessageBroker.record, hreg]
    rfl

theorem publish_unknown (h : Unknown s m) :
    s.publish m topic w = { recorded s m topic with
      broker := (recorded s m topic).broker.deadLetterUnknown m.header.receiver
        (s.broker.envelope m topic) } := by
  unfold publish
  simp only [h.1, ↓reduceIte, MessageBroker.record, h.2, Option.isSome_none, Bool.false_eq_true]
  rfl

theorem nodup_targets : (targets s m topic w).Nodup := by
  unfold targets
  split
  · exact (w.order.nodup_visit _).filter _
  · exact List.nodup_singleton _

theorem intended_iff_target (h : (s.broker.agentQueues r).isSome) :
    Intended s m topic r ↔ r ∈ targets s m topic w := by
  unfold Intended targets
  split
  · simp [w.order.mem_visit, h]
  · simp

theorem known_of_registered (h : Intended s m topic r) (hr : (s.broker.agentQueues r).isSome) :
    ¬ Unknown s m := by
  intro hunknown
  obtain ⟨hall,hnone⟩ := hunknown
  simp only [Intended, hall, ↓reduceIte] at h
  subst h
  simp [hnone] at hr

theorem not_deadLettered_recorded (h : Coherent s) :
    ¬ DeadLettered (recorded s m topic) (s.broker.envelope m topic) r :=
  fun hdl => lt_irrefl _ (h.dated _ hdl)

/-- With room at every receiver, each registered one gets the message once. -/
theorem publish_delivers (hs : Coherent s)
    (hroom : ∀ a, Intended s m topic a → ¬ Congested s a)
    (hint : Intended s m topic r) (hreg : (s.broker.agentQueues r).isSome) :
    ¬ DeadLettered (s.publish m topic w) (s.broker.envelope m topic) r ∧
    ∀ n, (s.publish m topic w).inbox r n =
      if s.broker.agentRefs r = some n then s.inbox r n ++ [m] else s.inbox r n := by
  obtain ⟨q,hq⟩ := Option.isSome_iff_exists.mp hreg
  have htargets : ∀ a ∈ targets s m topic w, ¬ Congested (recorded s m topic) a := by
    intro a ha hcongested
    obtain ⟨q',hq',hfull⟩ := hcongested
    have hreg' : (s.broker.agentQueues a).isSome := Option.isSome_iff_exists.mpr ⟨q',hq'⟩
    exact hroom a ((intended_iff_target hreg').mpr ha) ⟨q',hq',hfull⟩
  obtain ⟨_,hdlq,hin⟩ := broadcast_room (s := recorded s m topic) (d := w.drained)
    (e := s.broker.envelope m topic) (targets s m topic w) nodup_targets htargets
    ((intended_iff_target hreg).mp hint) hq
  rw [publish_known (known_of_registered hint hreg)]
  exact ⟨fun hdl => not_deadLettered_recorded hs (hdlq.mp hdl),hin⟩

/-- An unknown receiver always gets a dead letter, also when the queue is trimmed. -/
theorem publish_deadLetters (h : Unknown s m) :
    DeadLettered (s.publish m topic w) (s.broker.envelope m topic) m.header.receiver := by
  rw [publish_unknown h]
  simp only [DeadLettered, deadLetterUnknown_dlq]
  exact Ring.mem_pushCut (by decide) _ _

theorem publish_frame (s : System β) (m : AgentMessage β) (topic : Option Topic)
    (w : Surroundings) :
    (s.publish m topic w).broker.agentRefs = s.broker.agentRefs ∧
    (s.publish m topic w).broker.subscriptions = s.broker.subscriptions ∧
    (s.publish m topic w).broker.totalPublished = s.broker.totalPublished + 1 ∧
    (s.publish m topic w).popped = s.popped := by
  by_cases h : Unknown s m
  · rw [publish_unknown h]
    exact ⟨rfl,rfl,rfl,rfl⟩
  · have hf := broadcast_frame (s := recorded s m topic) (d := w.drained)
      (e := s.broker.envelope m topic) (targets s m topic w)
    rw [← publish_known h] at hf
    simp only [frame, Prod.mk.injEq] at hf
    exact hf.2

theorem unknown_of_unregistered (hint : Intended s m topic r)
    (hnone : s.broker.agentQueues r = none) : Unknown s m ∧ r = m.header.receiver := by
  unfold Intended at hint
  split at hint
  · simp [hnone] at hint
  · rename_i hall
    exact ⟨⟨hall,hint ▸ hnone⟩,hint⟩

theorem publish_accounts (hs : Coherent s)
    (hroom : ∀ a, Intended s m topic a → ¬ Congested s a) (hint : Intended s m topic r) :
    Accounted s (s.publish m topic w) (s.broker.envelope m topic) r := by
  have hrefs := (publish_frame s m topic w).1
  have hattached := hs.attached r
  cases hq : s.broker.agentQueues r with
  | some q =>
    have hreg : (s.broker.agentQueues r).isSome := by simp [hq]
    obtain ⟨hnot,hin⟩ := publish_delivers (w := w) hs hroom hint hreg
    rw [hq, Option.isSome_some] at hattached
    obtain ⟨obj,hobj⟩ := Option.isSome_iff_exists.mp hattached
    have hgot : inboxOf (s.publish m topic w) r = inboxOf s r ++ [m] := by
      simp only [inboxOf, hrefs, hobj, hin obj, ↓reduceIte]
    exact ⟨.inl ⟨hgot,hnot⟩,fun _ => hgot⟩
  | none =>
    obtain ⟨hunknown,rfl⟩ := unknown_of_unregistered hint hq
    rw [hq, Option.isSome_none, Option.isSome_eq_false_iff, Option.isNone_iff_eq_none] at hattached
    refine ⟨.inr ⟨?_,publish_deadLetters hunknown⟩,?_⟩
    · simp only [inboxOf, hrefs, hattached]
    · intro hqueued
      obtain ⟨q,hq',_⟩ := hqueued
      rw [publish_unknown hunknown] at hq'
      cases hq.symm.trans hq'

/-- A congested receiver makes the publication lose a message. -/
theorem publish_loses (hs : Coherent s) (hint : Intended s m topic r) (hc : Congested s r) :
    ∃ a, Intended s m topic a ∧
      ¬ Accounted s (s.publish m topic w) (s.broker.envelope m topic) a := by
  obtain ⟨q,hq,hfull⟩ := hc
  have hreg : (s.broker.agentQueues r).isSome := by simp [hq]
  obtain ⟨a,ha,hareg,hin,hdl⟩ := broadcast_loses (s := recorded s m topic) (d := w.drained)
    (e := s.broker.envelope m topic) (targets s m topic w) nodup_targets
    (Function.update_self _ _ _) ((intended_iff_target hreg).mp hint) ⟨q,hq,hfull⟩
  rw [← publish_known (known_of_registered hint hreg)] at hin hdl
  have hnot : ¬ DeadLettered (s.publish m topic w) (s.broker.envelope m topic) a :=
    fun h => not_deadLettered_recorded hs (hdl.mp h)
  refine ⟨a,(intended_iff_target hareg).mpr ha,?_⟩
  intro haccounted
  obtain ⟨⟨hgot,_⟩ | ⟨_,hdead⟩,_⟩ := haccounted
  · have hlen := congrArg List.length (hin.symm.trans hgot)
    simp [inboxOf, recorded, MessageBroker.record] at hlen
  · exact hnot hdead

end publish

theorem accounts_iff_uncongested (hs : Coherent s) (op : BusOp β) :
    Accounts s op ↔ Uncongested s op := by
  cases op with
  | publish m topic w =>
    constructor
    · intro h r hint hc
      obtain ⟨a,ha,hnot⟩ := publish_loses (w := w) hs hint hc
      exact hnot (h a ha)
    · exact fun h r hint => publish_accounts hs h hint
  | _ => exact Iff.rfl

/-! ### Runs -/

theorem enqueue_registered (d : AgentId → Nat) (e : MessageEnvelope β) (s : System β)
    (a r : AgentId) : ((enqueue d e s a).broker.agentQueues r).isSome =
      (s.broker.agentQueues r).isSome := by
  by_cases hr : r = a
  · subst hr
    have hend := enqueue_cases d e s r
    generalize enqueue d e s r = s' at hend ⊢
    cases hend with
    | unregistered _ | dropped _ _ _ => rfl
    | refused hq | retried hq | queued hq | delivered hq =>
      simp [hq, MessageBroker.put, receiveMessage]
  · have hv := enqueue_view (s := s) (d := d) (e := e) hr
    simp only [view, Prod.mk.injEq] at hv
    rw [hv.1]

theorem enqueue_dlq (d : AgentId → Nat) (e : MessageEnvelope β) (s : System β) (a : AgentId) :
    ∀ dl ∈ (enqueue d e s a).broker.dlq, dl ∈ s.broker.dlq ∨ dl.envelope = e := by
  have hend := enqueue_cases d e s a
  generalize enqueue d e s a = s' at hend ⊢
  cases hend with
  | dropped _ _ _ =>
    intro dl h
    rcases List.mem_append.mp h with h | h
    · exact .inl h
    · exact .inr (by rw [List.mem_singleton.mp h])
  | _ => exact fun dl h => .inl h

theorem broadcast_registered (rs : List AgentId) (r : AgentId) :
    ((rs.foldl (enqueue d e) s).broker.agentQueues r).isSome =
      (s.broker.agentQueues r).isSome := by
  induction rs generalizing s with
  | nil => rfl
  | cons a rs ih => exact ih.trans (enqueue_registered d e s a r)

theorem broadcast_dlq (rs : List AgentId) :
    ∀ dl ∈ (rs.foldl (enqueue d e) s).broker.dlq, dl ∈ s.broker.dlq ∨ dl.envelope = e := by
  induction rs generalizing s with
  | nil => exact fun dl h => .inl h
  | cons a rs ih =>
    intro dl h
    rcases ih dl h with h | h
    · exact enqueue_dlq d e s a dl h
    · exact .inr h

theorem publish_registered (s : System β) (m : AgentMessage β) (topic : Option Topic)
    (w : Surroundings) (r : AgentId) :
    ((s.publish m topic w).broker.agentQueues r).isSome = (s.broker.agentQueues r).isSome := by
  by_cases h : Unknown s m
  · rw [publish_unknown h]
    rfl
  · rw [publish_known h]
    exact broadcast_registered _ r

theorem publish_dlq (s : System β) (m : AgentMessage β) (topic : Option Topic)
    (w : Surroundings) : ∀ dl ∈ (s.publish m topic w).broker.dlq,
      dl ∈ s.broker.dlq ∨ dl.envelope = s.broker.envelope m topic := by
  by_cases h : Unknown s m
  · rw [publish_unknown h]
    intro dl hdl
    have hmem : dl ∈ s.broker.dlq ++ [⟨s.broker.envelope m topic,m.header.receiver⟩] :=
      Ring.mem_of_mem_pushCut hdl
    rcases List.mem_append.mp hmem with hmem | hmem
    · exact .inl hmem
    · exact .inr (by rw [List.mem_singleton.mp hmem])
  · rw [publish_known h]
    exact broadcast_dlq (s := recorded s m topic) _

theorem consume_attached (b : MessageBroker β) (aid r : AgentId) :
    ((b.consume aid).2.agentQueues r).isSome = (b.agentQueues r).isSome ∧
    ((b.consumeAll aid).2.agentQueues r).isSome = (b.agentQueues r).isSome := by
  by_cases hr : r = aid
  · subst hr
    unfold MessageBroker.consume MessageBroker.consumeAll
    constructor
    · split <;> simp [*]
    · split <;> simp [*]
  · unfold MessageBroker.consume MessageBroker.consumeAll
    constructor
    · split <;> simp [hr]
    · split <;> simp [hr]

theorem consume_rest (b : MessageBroker β) (aid : AgentId) :
    (b.consume aid).2 = { b with agentQueues := (b.consume aid).2.agentQueues } ∧
    (b.consumeAll aid).2 = { b with agentQueues := (b.consumeAll aid).2.agentQueues } := by
  unfold MessageBroker.consume MessageBroker.consumeAll
  constructor <;> split <;> rfl

theorem step_coherent (s : System β) (op : BusOp β) (h : Coherent s) : Coherent (s.step op) := by
  obtain ⟨hdated,hattached⟩ := h
  cases op with
  | register aid obj extra =>
    refine ⟨hdated,?_⟩
    intro a
    by_cases ha : a = aid
    · subst ha
      simp [System.step, MessageBroker.register]
    · simpa [System.step, MessageBroker.register, ha] using hattached a
  | subscribe aid topic => exact ⟨hdated,hattached⟩
  | unsubscribe aid topic => exact ⟨hdated,hattached⟩
  | publish m topic w =>
    obtain ⟨hrefs,_,htotal,_⟩ := publish_frame s m topic w
    constructor
    · intro dl hdl
      change dl.envelope.seq < (s.publish m topic w).broker.totalPublished
      rw [htotal]
      rcases publish_dlq s m topic w dl hdl with hold | hnew
      · exact Nat.lt_succ_of_lt (hdated dl hold)
      · rw [hnew]
        exact Nat.lt_succ_self _
    · intro a
      change ((s.publish m topic w).broker.agentRefs a).isSome =
        ((s.publish m topic w).broker.agentQueues a).isSome
      rw [hrefs, publish_registered]
      exact hattached a
  | consume aid =>
    obtain ⟨hrest,_⟩ := consume_rest s.broker aid
    simp only [System.step]
    rw [hrest]
    exact ⟨hdated,fun a => (hattached a).trans (consume_attached s.broker aid a).1.symm⟩
  | consumeAll aid =>
    obtain ⟨_,hrest⟩ := consume_rest s.broker aid
    simp only [System.step]
    rw [hrest]
    exact ⟨hdated,fun a => (hattached a).trans (consume_attached s.broker aid a).2.symm⟩
  | popInbox aid obj => exact ⟨hdated,hattached⟩

theorem new_coherent (maxQueue : Int) : Coherent (System.new maxQueue : System β) :=
  ⟨fun _ h => absurd h List.not_mem_nil,fun _ => rfl⟩

/-- The runs in which no message is dropped silently are those in which no
publication meets a full queue at an intended receiver. -/
theorem no_silent_drop_iff (maxQueue : Int) (ops : List (BusOp β)) :
    Runs.Along System.step Accounts (.new maxQueue) ops ↔
      Runs.Along System.step Uncongested (.new maxQueue) ops :=
  Runs.along_congr Coherent step_coherent (fun _ op hs => accounts_iff_uncongested hs op)
    (new_coherent maxQueue)

/-- A direct message, and a run that sends two of them into a queue of size one. -/
def directMessage (sender receiver messageId : String) : AgentMessage Unit :=
  .create sender receiver .inform () none "c" "t" messageId

def plainly : Surroundings := ⟨.inserted,fun _ => 0⟩

def filledQueue : System Unit :=
  Runs.run System.step (.new 1)
    [.register "QA" 0 [], .publish (directMessage "PA" "QA" "m1") none plainly]

/-- The second message is in no inbox and has no dead letter. -/
theorem second_message_dropped :
    let m := directMessage "PA" "QA" "m2"
    let s' := filledQueue.step (.publish m none plainly)
    Intended filledQueue m none "QA" ∧ inboxOf s' "QA" = inboxOf filledQueue "QA" ∧
      s'.broker.dlq = [] ∧ ¬ Accounts filledQueue (.publish m none plainly) := by
  refine ⟨rfl,by decide,by decide,?_⟩
  intro h
  rcases (h "QA" rfl).1 with ⟨hgot,_⟩ | ⟨_,hdead⟩
  · exact absurd hgot (by decide)
  · exact absurd hdead (List.not_mem_nil)

end ManufacturingMas.Proofs.Delivery
