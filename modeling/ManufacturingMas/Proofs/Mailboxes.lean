import ManufacturingMas.Lib.Bounded
import ManufacturingMas.Proofs.Routing

/-! What agents receive when nothing ever takes an envelope out of their queues. -/

namespace ManufacturingMas.Proofs.Mailboxes
open Messaging System Delivery Routing

variable {β : Type} {s : System β} {a : AgentId} {obj : Nat} {d : AgentId → Nat}
  {e : MessageEnvelope β} {size : Nat}

/-- An operation that leaves the queues to fill up; no other thread empties one either. -/
def Unconsumed : BusOp β → Prop
  | .consume _ | .consumeAll _ => False
  | .publish _ _ w => ∀ a, w.drained a = 0
  | _ => True

/-! ### One call of `_enqueue` -/

theorem full_iff {b : MessageBroker β} (hsize : 0 < size) (hlimit : b.maxQueue = size)
    (q : List (MessageEnvelope β)) : b.full q = true ↔ ¬ q.length < size := by
  unfold MessageBroker.full
  rw [hlimit, Bool.and_eq_true, decide_eq_true_eq, decide_eq_true_eq]
  omega

/-- A full queue that nobody empties stays as it is, and its agent hears nothing. -/
theorem enqueue_blocked {q : List (MessageEnvelope β)} (hq : s.broker.agentQueues a = some q)
    (hfull : s.broker.full q = true) (hd : d a = 0) :
    (enqueue d e s a).broker.agentQueues a = some q ∧ (enqueue d e s a).inbox = s.inbox := by
  have hend := enqueue_cases d e s a
  generalize enqueue d e s a = s' at hend ⊢
  cases hend with
  | unregistered hnone => simp [hq] at hnone
  | dropped hq' _ _ => exact ⟨hq,rfl⟩
  | refused hq' _ _ _ =>
    cases hq.symm.trans hq'
    simp [hd]
  | retried hq' _ _ hroom =>
    cases hq.symm.trans hq'
    rw [hd, List.drop_zero, hfull] at hroom
    cases hroom
  | queued hq' hroom | delivered hq' hroom =>
    cases hq.symm.trans hq'
    simp [hfull] at hroom

/-- An agent whose queue has room hears what is queued for it. -/
theorem enqueue_mail {q : List (MessageEnvelope β)} (hq : s.broker.agentQueues a = some q)
    (hobj : s.broker.agentRefs a = some obj) (hsize : 0 < size)
    (hlimit : s.broker.maxQueue = size) (hd : d a = 0) :
    (enqueue d e s a).broker.agentQueues a = some (Bounded.offer size q e) ∧
      (enqueue d e s a).inbox a obj =
        if q.length < size then s.inbox a obj ++ [e.message] else s.inbox a obj := by
  unfold Bounded.offer
  by_cases h : q.length < size
  · have hroom : s.broker.full q = false :=
      Bool.eq_false_iff.mpr fun hfull => (full_iff hsize hlimit q).mp hfull h
    obtain ⟨hqueue,_,_,hinbox⟩ := enqueue_room (d := d) (e := e) hq hroom
    rw [if_pos h, if_pos h, hinbox obj, if_pos hobj]
    exact ⟨hqueue,rfl⟩
  · obtain ⟨hqueue,hinbox⟩ := enqueue_blocked (e := e) hq ((full_iff hsize hlimit q).mpr h) hd
    rw [if_neg h, if_neg h, hinbox]
    exact ⟨hqueue,rfl⟩

/-- What a broadcast does to one of its receivers is what the one call for it does. -/
theorem broadcast_at (rs : List AgentId) (hnodup : rs.Nodup) (ha : a ∈ rs) :
    ∃ t, frame t = frame s ∧ view a t = view a s ∧
      view a (rs.foldl (enqueue d e) s) = view a (enqueue d e t a) := by
  induction rs generalizing s with
  | nil => cases ha
  | cons r rs ih =>
    obtain ⟨hr,hnodup⟩ := List.nodup_cons.mp hnodup
    rcases List.mem_cons.mp ha with rfl | ha
    · exact ⟨s,rfl,rfl,broadcast_view rs hr⟩
    · have hne : a ≠ r := fun h => hr (h ▸ ha)
      obtain ⟨t,hframe,hview,hend⟩ := ih (s := enqueue d e s r) hnodup ha
      exact ⟨t,hframe.trans (enqueue_frame d e s r),hview.trans (enqueue_view hne),hend⟩

/-! ### One operation -/

/-- The queue of an agent holds everything its object was ever handed. -/
structure Mailbox (size : Nat) (s : System β) (a : AgentId) (obj : Nat) : Prop where
  limit : s.broker.maxQueue = size
  unheard : s.broker.agentQueues a = none → received s a obj = []
  queued : ∀ q, s.broker.agentQueues a = some q →
    q.map (·.message) = received s a obj ∧ q.length ≤ size

theorem Mailbox.length_le (h : Mailbox size s a obj) : (received s a obj).length ≤ size := by
  cases hq : s.broker.agentQueues a with
  | none =>
    rw [h.unheard hq]
    exact Nat.zero_le _
  | some q =>
    obtain ⟨hheld,hlength⟩ := h.queued q hq
    rw [← hheld, List.length_map]
    exact hlength

theorem Mailbox.idle (h : Mailbox size s a obj) : (received s a obj ++ []).take size =
    received s a obj := by
  rw [List.append_nil, List.take_of_length_le h.length_le]

theorem publish_maxQueue (s : System β) (m : AgentMessage β) (topic : Option Topic)
    (w : Surroundings) : (s.publish m topic w).broker.maxQueue = s.broker.maxQueue := by
  by_cases h : Unknown s m
  · rw [publish_unknown h]
    rfl
  · rw [publish_known h]
    have hframe := broadcast_frame (s := recorded s m topic) (d := w.drained)
      (e := s.broker.envelope m topic) (targets s m topic w)
    exact congrArg Prod.fst hframe

/-- A publication reaches an agent it is meant for while its queue has room. -/
theorem publish_intended (h : Mailbox size s a obj) (hsize : 0 < size) {m : AgentMessage β}
    {topic : Option Topic} {w : Surroundings} (hidle : ∀ a, w.drained a = 0)
    {q : List (MessageEnvelope β)} (hq : s.broker.agentQueues a = some q)
    (hobj : s.broker.agentRefs a = some obj) (hint : Intended s m topic a) :
    (s.publish m topic w).broker.agentQueues a =
        some (Bounded.offer size q (s.broker.envelope m topic)) ∧
      received (s.publish m topic w) a obj = Bounded.offer size (received s a obj) m := by
  have hreg : (s.broker.agentQueues a).isSome = true := by rw [hq, Option.isSome_some]
  have hknown : ¬ Unknown s m := known_of_registered hint hreg
  have htarget : a ∈ targets s m topic w := (intended_iff_target hreg).mp hint
  have hpopped := (publish_frame s m topic w).2.2.2
  obtain ⟨t,hframe,hview,hend⟩ := broadcast_at (s := recorded s m topic) (d := w.drained)
    (e := s.broker.envelope m topic) (targets s m topic w) nodup_targets htarget
  simp only [frame, view, Prod.mk.injEq] at hframe hview
  have hlimit : t.broker.maxQueue = size := hframe.1.trans h.limit
  obtain ⟨hqueue,hinbox⟩ := enqueue_mail (d := w.drained) (e := s.broker.envelope m topic)
    (hview.1.trans hq) ((congrFun hframe.2.1 a).trans hobj) hsize hlimit (hidle a)
  rw [← publish_known hknown] at hend
  simp only [view, Prod.mk.injEq] at hend
  refine ⟨hend.1.trans hqueue,?_⟩
  obtain ⟨hheld,_⟩ := h.queued q hq
  have hlength : (received s a obj).length = q.length := by rw [← hheld, List.length_map]
  unfold received at hlength ⊢
  unfold Bounded.offer
  rw [hpopped, hend.2.1, hinbox, hview.2.1, hlength]
  split
  · exact (List.append_assoc _ _ _).symm
  · rfl

/-- A publication that is not meant for an agent leaves its queue alone. -/
theorem publish_other_queue (m : AgentMessage β) (topic : Option Topic) (w : Surroundings)
    (h : ¬ (Intended s m topic a ∧ (s.broker.agentQueues a).isSome = true)) :
    (s.publish m topic w).broker.agentQueues a = s.broker.agentQueues a := by
  cases hq : s.broker.agentQueues a with
  | none =>
    have hsome := publish_registered s m topic w a
    rw [hq] at hsome
    simpa using hsome
  | some q =>
    have hreg : (s.broker.agentQueues a).isSome = true := by rw [hq, Option.isSome_some]
    rw [← hq]
    by_cases hu : Unknown s m
    · rw [publish_unknown hu]
      rfl
    · rw [publish_known hu]
      have hout : a ∉ targets s m topic w :=
        fun ht => h ⟨(intended_iff_target hreg).mpr ht,hreg⟩
      have hview := broadcast_view (s := recorded s m topic) (d := w.drained)
        (e := s.broker.envelope m topic) _ hout
      simp only [view, Prod.mk.injEq] at hview
      exact hview.1

/-- What an operation leaves of a mailbox: the routed messages, as far as they fit. -/
def Keeps (size : Nat) (s s' : System β) (a : AgentId) (obj : Nat)
    (routed : List (AgentMessage β)) : Prop :=
  received s' a obj = (received s a obj ++ routed).take size ∧ Mailbox size s' a obj

/-- An operation that changes neither the queue nor what was received. -/
theorem Mailbox.same {s' : System β} (h : Mailbox size s a obj)
    (hlimit : s'.broker.maxQueue = s.broker.maxQueue)
    (hqueue : s'.broker.agentQueues a = s.broker.agentQueues a)
    (hreceived : received s' a obj = received s a obj) : Keeps size s s' a obj [] := by
  refine ⟨hreceived.trans h.idle.symm,hlimit.trans h.limit,?_,?_⟩
  · intro hnone
    exact hreceived.trans (h.unheard (hqueue.symm.trans hnone))
  · intro q hq
    obtain ⟨hheld,hlength⟩ := h.queued q (hqueue.symm.trans hq)
    exact ⟨hheld.trans hreceived.symm,hlength⟩

theorem publish_mailbox {dir : Directory} (h : Mailbox size s a obj) (hsize : 0 < size)
    (hs : Coherent s) (hd : Describes dir s) {m : AgentMessage β} {topic : Option Topic}
    {w : Surroundings} (hidle : ∀ a, w.drained a = 0)
    (hmine : ∀ n, s.broker.agentRefs a = some n → n = obj) :
    Keeps size s (s.publish m topic w) a obj
      (routes Directory.byName dir a (.publish m topic w)) := by
  have hroutes : routes Directory.byName dir a (.publish m topic w) =
      if (dir.registered a && dir.byName m topic a) = true then [m] else [] := rfl
  by_cases hint : Intended s m topic a ∧ (s.broker.agentQueues a).isSome = true
  · obtain ⟨hint,hreg⟩ := hint
    obtain ⟨q,hq⟩ := Option.isSome_iff_exists.mp hreg
    obtain ⟨n,hn⟩ := Option.isSome_iff_exists.mp ((hs.attached a).trans hreg)
    have hobj : s.broker.agentRefs a = some obj := by rw [hn, hmine n hn]
    have hdir : dir.registered a = true := (hd.registered a).trans hreg
    obtain ⟨hqueue,hreceived⟩ := publish_intended h hsize hidle hq hobj hint
    obtain ⟨hheld,hlength⟩ := h.queued q hq
    rw [hroutes, if_pos (by rw [hdir, (intended_iff_byName hd m topic hdir).mp hint]; rfl)]
    have hoffer := Bounded.offer_take size (received s a obj) m
    rw [List.take_of_length_le h.length_le] at hoffer
    refine ⟨hreceived.trans hoffer,(publish_maxQueue s m topic w).trans h.limit,fun hnone => ?_,?_⟩
    · cases hqueue.symm.trans hnone
    · intro q' hq'
      cases hqueue.symm.trans hq'
      refine ⟨?_,Bounded.length_offer_le hlength _⟩
      rw [hreceived, ← hheld]
      unfold Bounded.offer
      rw [List.length_map]
      split
      · exact List.map_append
      · rfl
  · have hsame : received (s.publish m topic w) a obj = received s a obj := by
      unfold received
      rw [(publish_frame s m topic w).2.2.2, publish_other_inbox m topic w hint]
    rw [hroutes, if_neg]
    · exact h.same (publish_maxQueue s m topic w) (publish_other_queue m topic w hint) hsame
    · intro hrouted
      obtain ⟨hdir,hrule⟩ := Bool.and_eq_true_iff.mp hrouted
      exact hint
        ⟨(intended_iff_byName hd m topic hdir).mpr hrule,(hd.registered a).symm.trans hdir⟩

/-- A first registration gives the agent an empty queue, and it has heard nothing before. -/
theorem register_mailbox (h : Mailbox size s a obj) (hs : Coherent s) (aid : AgentId) (n : Nat)
    (extra : List Topic) (hfresh : aid = a → s.broker.agentRefs a = none) :
    Keeps size s (s.step (.register aid n extra)) a obj [] := by
  by_cases ha : a = aid
  · subst ha
    have hnone : s.broker.agentQueues a = none := by
      have hattached := hs.attached a
      rw [hfresh rfl] at hattached
      simpa using hattached.symm
    have hqueue : (s.step (.register a n extra)).broker.agentQueues a = some [] :=
      Function.update_self _ _ _
    refine ⟨h.idle.symm,h.limit,fun hgone => ?_,?_⟩
    · cases hqueue.symm.trans hgone
    · intro q hq
      cases hqueue.symm.trans hq
      exact ⟨(h.unheard hnone).symm,Nat.zero_le _⟩
  · exact h.same rfl (Function.update_of_ne ha _ _) rfl

/-- Whatever an operation routes to an agent is kept if it fits. -/
theorem step_mailbox {dir : Directory} (h : Mailbox size s a obj) (hsize : 0 < size)
    (hs : Coherent s) (hd : Describes dir s) (op : BusOp β) (hidle : Unconsumed op)
    (hmine : ∀ n, s.broker.agentRefs a = some n → n = obj)
    (hfresh : registeredId op = some a → s.broker.agentRefs a = none) :
    Keeps size s (s.step op) a obj (routes Directory.byName dir a op) := by
  cases op with
  | register aid n extra => exact register_mailbox h hs aid n extra fun ha => hfresh (congrArg some ha)
  | publish m topic w => exact publish_mailbox h hsize hs hd hidle hmine
  | consume aid => exact absurd hidle id
  | consumeAll aid => exact absurd hidle id
  | popInbox aid n => exact h.same rfl rfl (popInbox_received s aid n a obj)
  | subscribe aid topic => exact h.same rfl rfl rfl
  | unsubscribe aid topic => exact h.same rfl rfl rfl

/-! ### Any number of operations -/

theorem run_mailbox (ops : List (BusOp β)) (dir : Directory) (h : Mailbox size s a obj)
    (hsize : 0 < size) (hs : Coherent s) (hd : Describes dir s) (hsingle : Single s ops)
    (hidle : ∀ op ∈ ops, Unconsumed op)
    (hend : (Runs.run System.step s ops).broker.agentRefs a = some obj) :
    received (Runs.run System.step s ops) a obj =
      (received s a obj ++ routed Directory.byName a dir ops).take size := by
  induction ops generalizing s dir with
  | nil => exact h.idle.symm
  | cons op ops ih =>
    obtain ⟨hop,hrest⟩ := List.forall_mem_cons.mp hidle
    have hfresh : registeredId op = some a → s.broker.agentRefs a = none := by
      intro hid
      refine hsingle.fresh a ?_
      rw [List.filterMap_cons_some hid]
      exact List.mem_cons_self
    obtain ⟨hreceived,hmailbox⟩ :=
      step_mailbox h hsize hs hd op hop (hsingle.object hend) hfresh
    calc received (Runs.run System.step s (op :: ops)) a obj
        = (received (s.step op) a obj ++ routed Directory.byName a (dir.step op) ops).take size :=
          ih (dir.step op) hmailbox (step_coherent s op hs) (step_describes dir s op hd)
            hsingle.tail hrest hend
      _ = (received s a obj ++ routed Directory.byName a dir (op :: ops)).take size := by
          rw [hreceived, Bounded.take_append_take, List.append_assoc]
          rfl

/-- In a program that never consumes, an agent receives the messages routed to it up to the size
of its queue, and none of those that follow. -/
theorem first_messages (size : Nat) (hsize : 0 < size) (ops : List (BusOp β)) (a : AgentId)
    (obj : Nat) (hsingle : (ops.filterMap registeredId).Nodup) (hidle : ∀ op ∈ ops, Unconsumed op)
    (hreg : (Runs.run System.step (.new size) ops).broker.agentRefs a = some obj) :
    received (Runs.run System.step (.new size) ops) a obj =
      (routed Directory.byName a .empty ops).take size := by
  have hmailbox : Mailbox size (System.new size : System β) a obj :=
    ⟨rfl,fun _ => rfl,fun q hq => by cases hq⟩
  exact run_mailbox ops .empty hmailbox hsize (new_coherent size) (new_describes size)
    ⟨hsingle,fun _ _ => rfl⟩ hidle hreg

/-- Two messages to an agent whose queue has one place. -/
def twoMessages : List (BusOp Unit) :=
  [.register "PA" 0 [], .publish (directMessage "EA" "PA" "m1") none plainly,
    .popInbox "PA" 0, .publish (directMessage "EA" "PA" "m2") none plainly]

theorem first_messages_one :
    received (Runs.run System.step (.new 1) twoMessages) "PA" 0 =
      (routed Directory.byName "PA" .empty twoMessages).take 1 := by
  refine first_messages 1 (by decide) twoMessages "PA" 0 (by decide) ?_ rfl
  intro op hop
  simp only [twoMessages, List.mem_cons, List.not_mem_nil, or_false] at hop
  rcases hop with rfl | rfl | rfl | rfl
  · trivial
  · exact fun _ => rfl
  · trivial
  · exact fun _ => rfl

end ManufacturingMas.Proofs.Mailboxes
