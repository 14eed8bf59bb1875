import ManufacturingMas.Proofs.Delivery

/-! Every agent receives, in order, exactly the messages routed to it. The
routing is stated over a directory of registrations and subscriptions alone. -/

namespace ManufacturingMas.Proofs.Routing
open Messaging System Delivery

variable {β : Type} {s : System β} {a : AgentId} {obj : Nat}

structure Directory where
  registered : AgentId → Bool
  subscribed : Topic → AgentId → Bool

namespace Directory

def empty : Directory := ⟨fun _ => false,fun _ _ => false⟩

def step (dir : Directory) : BusOp β → Directory
  | .register aid _ extra =>
    { registered := Function.update dir.registered aid true
      subscribed := fun t a =>
        dir.subscribed t a || (a = aid && t ∈ MessageBroker.registerTopics aid extra) }
  | .subscribe aid topic =>
    { dir with subscribed := fun t a => dir.subscribed t a || (a = aid && t = topic) }
  | .unsubscribe aid topic =>
    { dir with subscribed := fun t a => dir.subscribed t a && !(a = aid && t = topic) }
  | _ => dir

/-- A broadcast reaches the subscribers of its topic other than its sender. -/
def broadcasts (dir : Directory) (m : AgentMessage β) (topic : Option Topic) (a : AgentId) :
    Bool :=
  m.header.receiver = "ALL" && dir.subscribed (topic.getD (intentTopic m.intent)) a &&
    a ≠ m.header.sender

/-- The address decides alone. -/
def byAddress (dir : Directory) (m : AgentMessage β) (topic : Option Topic) (a : AgentId) :
    Bool := m.header.receiver = a || dir.broadcasts m topic a

/-- The address decides unless it is the broadcast address. -/
def byName (dir : Directory) (m : AgentMessage β) (topic : Option Topic) (a : AgentId) : Bool :=
  (m.header.receiver = a && a ≠ "ALL") || dir.broadcasts m topic a

end Directory

abbrev Rule (β : Type) := Directory → AgentMessage β → Option Topic → AgentId → Bool

/-- What one operation routes to `a`. -/
def routes (rule : Rule β) (dir : Directory) (a : AgentId) : BusOp β → List (AgentMessage β)
  | .publish m topic _ => if dir.registered a && rule dir m topic a then [m] else []
  | _ => []

/-- The messages routed to `a` in a run, in publish order. -/
def routed (rule : Rule β) (a : AgentId) : Directory → List (BusOp β) → List (AgentMessage β)
  | _, [] => []
  | dir, op :: ops => routes rule dir a op ++ routed rule a (dir.step op) ops

/-- Everything the agent object has taken out of its inbox or still has in it. -/
def received (s : System β) (a : AgentId) (obj : Nat) : List (AgentMessage β) :=
  s.popped a obj ++ s.inbox a obj

def registeredId : BusOp β → Option AgentId
  | .register aid _ _ => some aid
  | _ => none

/-- The directory describes the broker. -/
structure Describes (dir : Directory) (s : System β) : Prop where
  registered : ∀ a, dir.registered a = (s.broker.agentQueues a).isSome
  subscribed : ∀ t a, dir.subscribed t a = true ↔ a ∈ (s.broker.subscriptions t).ids

theorem step_describes (dir : Directory) (s : System β) (op : BusOp β) (h : Describes dir s) :
    Describes (dir.step op) (s.step op) := by
  obtain ⟨hreg,hsub⟩ := h
  cases op with
  | register aid obj extra =>
    constructor
    · intro a
      by_cases ha : a = aid
      · subst ha
        simp [Directory.step, System.step, MessageBroker.register]
      · simpa [Directory.step, System.step, MessageBroker.register, ha] using hreg a
    · intro t a
      by_cases ht : t ∈ MessageBroker.registerTopics aid extra
      · simp [Directory.step, System.step, MessageBroker.register, ht, hsub, or_comm]
      · simp [Directory.step, System.step, MessageBroker.register, ht, hsub]
  | subscribe aid topic =>
    refine ⟨hreg,?_⟩
    intro t a
    by_cases ht : t = topic
    · subst ht
      simp [Directory.step, System.step, MessageBroker.subscribe, hsub, or_comm]
    · simp [Directory.step, System.step, MessageBroker.subscribe, hsub, ht]
  | unsubscribe aid topic =>
    refine ⟨hreg,?_⟩
    intro t a
    by_cases ht : t = topic
    · subst ht
      simp [Directory.step, System.step, MessageBroker.unsubscribe, hsub, and_comm]
    · simp [Directory.step, System.step, MessageBroker.unsubscribe, hsub, ht]
  | publish m topic w =>
    constructor
    · intro a
      exact (hreg a).trans (publish_registered s m topic w a).symm
    · intro t a
      change _ ↔ a ∈ ((s.publish m topic w).broker.subscriptions t).ids
      rw [(publish_frame s m topic w).2.1]
      exact hsub t a
  | consume aid =>
    obtain ⟨hrest,_⟩ := consume_rest s.broker aid
    simp only [System.step]
    rw [hrest]
    refine ⟨?_,hsub⟩
    intro a
    exact (hreg a).trans (consume_attached s.broker aid a).1.symm
  | consumeAll aid =>
    obtain ⟨_,hrest⟩ := consume_rest s.broker aid
    simp only [System.step]
    rw [hrest]
    refine ⟨?_,hsub⟩
    intro a
    exact (hreg a).trans (consume_attached s.broker aid a).2.symm
  | popInbox aid obj => exact ⟨hreg,hsub⟩

/-- Under a directory that describes the broker, the rule by name is the
broker's own choice of receivers. -/
theorem intended_iff_byName {dir : Directory} (h : Describes dir s) (m : AgentMessage β)
    (topic : Option Topic) (hreg : dir.registered a = true) :
    Intended s m topic a ↔ dir.byName m topic a = true := by
  have hq : (s.broker.agentQueues a).isSome = true := (h.registered a).symm.trans hreg
  unfold Intended Directory.byName Directory.broadcasts
  by_cases hall : m.header.receiver = "ALL"
  · have hself : ¬ ("ALL" = a ∧ ¬ a = "ALL") := fun hc => hc.2 hc.1.symm
    simp [hall, ← h.subscribed, hq, hself]
  · simp only [hall, ↓reduceIte, decide_false, Bool.false_and, Bool.or_false, Bool.and_eq_true,
      decide_eq_true_eq]
    constructor
    · intro ha
      subst ha
      exact ⟨rfl,hall⟩
    · intro hc
      exact hc.1.symm

theorem enqueue_other_inbox {d : AgentId → Nat} {e : MessageEnvelope β} (rs : List AgentId)
    (h : s.broker.agentQueues a = none) :
    (rs.foldl (enqueue d e) s).inbox a = s.inbox a := by
  induction rs generalizing s with
  | nil => rfl
  | cons b rs ih =>
    by_cases hab : a = b
    · subst hab
      rw [List.foldl_cons, enqueue_unregistered h]
      exact ih h
    · have hv := enqueue_view (s := s) (d := d) (e := e) hab
      simp only [view, Prod.mk.injEq] at hv
      exact (ih (hv.1.trans h)).trans hv.2.1

/-- A publication leaves the inboxes alone of agents it is not meant for. -/
theorem publish_other_inbox (m : AgentMessage β) (topic : Option Topic) (w : Surroundings)
    (h : ¬ (Intended s m topic a ∧ (s.broker.agentQueues a).isSome = true)) :
    (s.publish m topic w).inbox a = s.inbox a := by
  by_cases hu : Unknown s m
  · rw [publish_unknown hu]
    rfl
  · rw [publish_known hu]
    cases hq : s.broker.agentQueues a with
    | none => exact enqueue_other_inbox (s := recorded s m topic) _ hq
    | some q =>
      have hreg : (s.broker.agentQueues a).isSome = true := by simp [hq]
      have hout : a ∉ targets s m topic w :=
        fun ht => h ⟨(intended_iff_target hreg).mpr ht,hreg⟩
      have hv := broadcast_view (s := recorded s m topic) (d := w.drained)
        (e := s.broker.envelope m topic) _ hout
      simp only [view, Prod.mk.injEq] at hv
      exact hv.2.1

theorem popInbox_received (s : System β) (aid : AgentId) (n : Nat) (a : AgentId) (obj : Nat) :
    received (s.popInbox aid n) a obj = received s a obj := by
  unfold received popInbox
  by_cases ha : a = aid
  · subst ha
    by_cases hn : obj = n
    · subst hn
      simp
    · simp [hn]
  · simp [ha]

/-- One operation adds to what an agent received exactly what it routes there. -/
theorem step_received {dir : Directory} (hs : Coherent s) (hd : Describes dir s) (op : BusOp β)
    (hroom : Uncongested s op) (hmine : ∀ n, s.broker.agentRefs a = some n → n = obj) :
    received (s.step op) a obj = received s a obj ++ routes Directory.byName dir a op := by
  cases op with
  | publish m topic w =>
    have hpopped := (publish_frame s m topic w).2.2.2
    change (s.publish m topic w).popped a obj ++ (s.publish m topic w).inbox a obj =
      s.popped a obj ++ s.inbox a obj ++
        (if (dir.registered a && dir.byName m topic a) = true then [m] else [])
    rw [hpopped]
    by_cases hreg : dir.registered a = true
    · have hq : (s.broker.agentQueues a).isSome = true := (hd.registered a).symm.trans hreg
      rw [hreg, Bool.true_and]
      by_cases hint : Intended s m topic a
      · obtain ⟨n,hn⟩ := Option.isSome_iff_exists.mp ((hs.attached a).trans hq)
        obtain rfl := hmine n hn
        have hin := (publish_delivers (w := w) hs hroom hint hq).2 n
        rw [if_pos hn] at hin
        rw [if_pos ((intended_iff_byName hd m topic hreg).mp hint), hin, List.append_assoc]
      · rw [if_neg (fun hr => hint ((intended_iff_byName hd m topic hreg).mpr hr)),
          List.append_nil, publish_other_inbox m topic w (fun hc => hint hc.1)]
    · have hq : ¬ (s.broker.agentQueues a).isSome = true :=
        fun hq => hreg ((hd.registered a).trans hq)
      rw [if_neg (by simp [hreg]), List.append_nil,
        publish_other_inbox m topic w (fun hc => hq hc.2)]
  | popInbox aid n => exact (popInbox_received s aid n a obj).trans (List.append_nil _).symm
  | _ => exact (List.append_nil _).symm

/-- Only a registration changes which object an id stands for. -/
theorem step_refs (s : System β) (op : BusOp β) (h : registeredId op ≠ some a) :
    (s.step op).broker.agentRefs a = s.broker.agentRefs a := by
  cases op with
  | register aid n extra =>
    have ha : a ≠ aid := fun ha => h (by rw [ha]; rfl)
    simp [System.step, MessageBroker.register, ha]
  | publish m topic w => exact congrFun (publish_frame s m topic w).1 a
  | consume aid =>
    simp only [System.step]
    rw [(consume_rest s.broker aid).1]
  | consumeAll aid =>
    simp only [System.step]
    rw [(consume_rest s.broker aid).2]
  | _ => rfl

theorem run_refs (ops : List (BusOp β)) (s : System β) (h : a ∉ ops.filterMap registeredId) :
    (Runs.run System.step s ops).broker.agentRefs a = s.broker.agentRefs a := by
  induction ops generalizing s with
  | nil => rfl
  | cons op ops ih =>
    rw [List.mem_filterMap, not_exists] at h
    have hop : registeredId op ≠ some a := fun hc => h op ⟨List.mem_cons_self,hc⟩
    refine (ih (s.step op) ?_).trans (step_refs s op hop)
    rw [List.mem_filterMap]
    intro h
    obtain ⟨op',hmem,hc⟩ := h
    exact h op' ⟨List.mem_cons_of_mem _ hmem,hc⟩

/-- Every id is registered at most once, and only ids without an object are. -/
structure Single (s : System β) (ops : List (BusOp β)) : Prop where
  nodup : (ops.filterMap registeredId).Nodup
  fresh : ∀ b ∈ ops.filterMap registeredId, s.broker.agentRefs b = none

theorem Single.tail {op : BusOp β} {ops : List (BusOp β)} (h : Single s (op :: ops)) :
    Single (s.step op) ops := by
  obtain ⟨hnodup,hfresh⟩ := h
  cases hid : registeredId op with
  | none =>
    rw [List.filterMap_cons_none hid] at hnodup hfresh
    exact ⟨hnodup,fun b hb => (step_refs s op (by simp [hid])).trans (hfresh b hb)⟩
  | some aid =>
    rw [List.filterMap_cons_some hid] at hnodup hfresh
    obtain ⟨hnew,hnodup⟩ := List.nodup_cons.mp hnodup
    refine ⟨hnodup,fun b hb => ?_⟩
    have hne : registeredId op ≠ some b := by
      rw [hid, ne_eq, Option.some.injEq]
      intro heq
      subst heq
      exact hnew hb
    exact (step_refs s op hne).trans (hfresh b (List.mem_cons_of_mem _ hb))

/-- The object an id ends up standing for is the only one it ever stood for. -/
theorem Single.object {ops : List (BusOp β)} (h : Single s ops)
    (hend : (Runs.run System.step s ops).broker.agentRefs a = some obj) (n : Nat)
    (hn : s.broker.agentRefs a = some n) : n = obj := by
  have hnot : a ∉ ops.filterMap registeredId := fun hm => by simp [h.fresh a hm] at hn
  rw [run_refs ops s hnot, hn, Option.some.injEq] at hend
  exact hend

theorem run_received (ops : List (BusOp β)) (dir : Directory) (hs : Coherent s)
    (hd : Describes dir s) (hsingle : Single s ops)
    (hroom : Runs.Along System.step Uncongested s ops)
    (hend : (Runs.run System.step s ops).broker.agentRefs a = some obj) :
    received (Runs.run System.step s ops) a obj =
      received s a obj ++ routed Directory.byName a dir ops := by
  induction ops generalizing s dir with
  | nil => exact (List.append_nil _).symm
  | cons op ops ih =>
    calc received (Runs.run System.step s (op :: ops)) a obj
        = received (s.step op) a obj ++ routed Directory.byName a (dir.step op) ops :=
          ih (dir.step op) (step_coherent s op hs) (step_describes dir s op hd) hsingle.tail
            hroom.2 hend
      _ = received s a obj ++ routed Directory.byName a dir (op :: ops) := by
          rw [step_received hs hd op hroom.1 (hsingle.object hend), List.append_assoc]
          rfl

theorem new_describes (maxQueue : Int) : Describes .empty (System.new maxQueue : System β) :=
  ⟨fun _ => rfl,fun _ _ => by simp [Directory.empty, System.new, MessageBroker.new]⟩

/-- While no intended receiver's queue is full, what an agent has received is
what was routed to it, in publish order. -/
theorem received_exactly_routed (maxQueue : Int) (ops : List (BusOp β)) (a : AgentId) (obj : Nat)
    (hsingle : (ops.filterMap registeredId).Nodup)
    (hroom : Runs.Along System.step Uncongested (.new maxQueue) ops)
    (hreg : (Runs.run System.step (.new maxQueue) ops).broker.agentRefs a = some obj) :
    received (Runs.run System.step (.new maxQueue) ops) a obj =
      routed Directory.byName a .empty ops :=
  run_received ops .empty (new_coherent maxQueue) (new_describes maxQueue)
    ⟨hsingle,fun _ _ => rfl⟩ hroom hreg

/-- Two agents; one sends to the other by name and to everyone. -/
def shortRun : List (BusOp Unit) :=
  [.register "QA" 0 [], .register "PA" 1 [],
    .publish (directMessage "PA" "QA" "m1") none plainly,
    .popInbox "QA" 0,
    .publish (directMessage "PA" "ALL" "m2") none plainly]

theorem received_exactly_routed_short :
    received (Runs.run System.step (.new 5) shortRun) "QA" 0 =
      routed Directory.byName "QA" .empty shortRun := by
  refine received_exactly_routed 5 shortRun "QA" 0 (by decide)
    ⟨trivial,trivial,?_,trivial,?_,trivial⟩ rfl
  · intro r hint hcongested
    obtain ⟨q,hq,hfull⟩ := hcongested
    obtain rfl : r = "QA" := hint
    cases hq
    exact absurd hfull (by decide)
  · intro r hint hcongested
    obtain ⟨hsub,_,hother⟩ := hint
    obtain ⟨q,hq,hfull⟩ := hcongested
    have hmem : r ∈ ["PA","QA"] := hsub
    rcases List.mem_cons.mp hmem with rfl | hmem
    · exact absurd rfl hother
    · obtain rfl := List.mem_singleton.mp hmem
      cases hq
      exact absurd hfull (by decide)

/-- An agent registered under the broadcast address and subscribed to nothing:
the message addressed to it goes to the subscribers of its topic instead. -/
def allRun : List (BusOp Unit) :=
  [.register "ALL" 0 [], .unsubscribe "ALL" .broadcast,
    .publish (directMessage "PA" "ALL" "m1") none plainly]

theorem broadcast_address_not_delivered :
    (allRun.filterMap registeredId).Nodup ∧
    Runs.Along System.step Uncongested (.new 5) allRun ∧
    (Runs.run System.step (.new 5) allRun).broker.agentRefs "ALL" = some 0 ∧
    received (Runs.run System.step (.new 5) allRun) "ALL" 0 = [] ∧
    routed Directory.byAddress "ALL" .empty allRun = [directMessage "PA" "ALL" "m1"] := by
  refine ⟨by decide,⟨trivial,trivial,?_,trivial⟩,rfl,by decide,by decide⟩
  intro r hint _
  obtain ⟨hsub,_,_⟩ := hint
  have hmem : r ∈ ([] : List AgentId) := hsub
  exact absurd hmem List.not_mem_nil

end ManufacturingMas.Proofs.Routing
