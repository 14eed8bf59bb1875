import ManufacturingMas.Api.Server

/-! What the event stream of one client carries, whatever the others do. -/

namespace ManufacturingMas.Proofs.StreamFanout
open Py Messaging Api MASApiServer Bounded

variable {s : MASApiServer} {c : Channel Dict} {id : Nat}

/-! ### One operation -/

/-- What an operation does to the queue of one client. -/
def traffic (id : Nat) (s : MASApiServer) (op : ServerOp) : List (Op Dict) :=
  match op with
  | .send reader => if reader = id then [.depart] else []
  | _ => (s.announces op).map .arrive

theorem stream_broadcast (h : s.stream id = some c) (event : Dict) :
    (s.broadcast event).stream id = some (c.step sseQueueSize (.arrive event)) := by
  unfold MASApiServer.stream at *
  obtain ⟨q,hq,hc⟩ := Option.map_eq_some_iff.mp h
  have hsame : ((fun q : SseQueue => decide (q.id = id)) ∘ SseQueue.put event) =
      fun q => decide (q.id = id) := rfl
  change ((s.sseQueues.map (SseQueue.put event)).find? fun q => q.id = id).map (·.channel) = _
  rw [List.find?_map, hsame, hq, ← hc]
  rfl

theorem stream_broadcasts (h : s.stream id = some c) (events : List Dict) :
    (events.foldl broadcast s).stream id =
      some (Runs.run (Channel.step sseQueueSize) c (events.map .arrive)) := by
  induction events generalizing s c with
  | nil => exact h
  | cons event events ih => exact ih (stream_broadcast h event)

theorem stream_send (h : s.stream id = some c) (reader : Nat) :
    (s.step (.send reader)).stream id = some (if reader = id then c.depart else c) := by
  unfold MASApiServer.stream at *
  obtain ⟨q,hq,hc⟩ := Option.map_eq_some_iff.mp h
  have hsame : ((fun q : SseQueue => decide (q.id = id)) ∘
      fun q => if q.id = reader then q.send else q) = fun q => decide (q.id = id) := by
    funext q
    rw [Function.comp_apply]
    split <;> rfl
  have hid : q.id = id := by simpa using List.find?_some hq
  change ((s.sseQueues.map fun q => if q.id = reader then q.send else q).find?
    fun q => q.id = id).map (·.channel) = _
  rw [List.find?_map, hsame, hq, Option.map_some, Option.map_some, hid]
  subst hc
  by_cases hreader : reader = id
  · rw [if_pos hreader.symm, if_pos hreader]
    rfl
  · rw [if_neg (Ne.symm hreader), if_neg hreader]

theorem stream_connect (h : s.stream id = some c) : (s.step .connect).stream id = some c := by
  unfold MASApiServer.stream MASApiServer.step at *
  obtain ⟨q,hq,hc⟩ := Option.map_eq_some_iff.mp h
  rw [List.find?_append, hq, Option.some_or, Option.map_some, hc]

theorem stream_leave (h : s.stream id = some c) {other : Nat} (hne : other ≠ id) :
    (s.step (.leave other)).stream id = some c := by
  unfold MASApiServer.stream MASApiServer.step at *
  have hsame : (fun q : SseQueue => decide (decide (q.id ≠ other) = true ∧
      decide (q.id = id) = true)) = fun q => decide (q.id = id) := by
    funext q
    by_cases hq : q.id = id
    · simp [hq, hne.symm]
    · simp [hq]
  rw [List.find?_filter, hsame]
  exact h

/-- The queue of a client goes through its own traffic, and nothing else. -/
theorem stream_step (h : s.stream id = some c) {op : ServerOp} (hstays : op ≠ .leave id) :
    (s.step op).stream id =
      some (Runs.run (Channel.step sseQueueSize) c (traffic id s op)) := by
  cases op with
  | bind => exact h
  | bus op => exact stream_broadcasts (s := { s with bus := s.bus.step op }) h _
  | pushEvent eventType data => exact stream_broadcast h _
  | connect => exact stream_connect h
  | send reader =>
    rw [stream_send h reader]
    change _ = some (Runs.run (Channel.step sseQueueSize) c (if reader = id then [.depart] else []))
    split <;> rfl
  | leave other => exact stream_leave h fun hsame => hstays (hsame ▸ rfl)

/-! ### The time of a connection -/

theorem run_append (c : Channel Dict) (ops ops' : List (Op Dict)) :
    Runs.run (Channel.step sseQueueSize) (Runs.run (Channel.step sseQueueSize) c ops) ops' =
      Runs.run (Channel.step sseQueueSize) c (ops ++ ops') := (Runs.run_append ops ops').symm

/-- While the client stays, its stream is a run of a queue of its own. -/
theorem stream_run (h : s.stream id = some c) (ops : List ServerOp)
    (hstays : ServerOp.leave id ∉ ops) :
    (Runs.run MASApiServer.step s ops).stream id =
      some (Runs.run (Channel.step sseQueueSize) c
        (Runs.outputs MASApiServer.step (traffic id) s ops)) := by
  induction ops generalizing s c with
  | nil => exact h
  | cons op ops ih =>
    obtain ⟨hop,hrest⟩ := not_or.mp (mt List.mem_cons.mpr hstays)
    rw [Runs.run_cons, ih (stream_step h (Ne.symm hop)) hrest, run_append]
    rfl

theorem arrivals_traffic (id : Nat) (s : MASApiServer) (op : ServerOp) :
    (traffic id s op).filterMap Channel.arrival = s.announces op := by
  have harrivals : ∀ events : List Dict,
      (events.map Op.arrive).filterMap Channel.arrival = events := by
    intro events
    rw [List.filterMap_map]
    exact List.filterMap_some
  cases op with
  | send reader =>
    change (if reader = id then [Op.depart] else []).filterMap Channel.arrival = []
    split <;> rfl
  | _ => exact harrivals _

theorem arrivals_run (id : Nat) (s : MASApiServer) (ops : List ServerOp) :
    (Runs.outputs MASApiServer.step (traffic id) s ops).filterMap Channel.arrival =
      Runs.outputs MASApiServer.step announces s ops := by
  induction ops generalizing s with
  | nil => rfl
  | cons op ops ih =>
    unfold Runs.outputs
    rw [List.filterMap_append, arrivals_traffic, ih]

/-- The numbers of the connections are not used again. -/
def Numbered (s : MASApiServer) : Prop := ∀ q ∈ s.sseQueues, q.id < s.connected

theorem broadcasts_numbered (h : Numbered s) (events : List Dict) :
    Numbered (events.foldl broadcast s) := by
  refine List.foldlRecOn (motive := Numbered) events broadcast h fun t ht event _ => ?_
  intro q hq
  obtain ⟨old,hold,rfl⟩ := List.mem_map.mp hq
  exact ht old hold

theorem step_numbered (s : MASApiServer) (op : ServerOp) (h : Numbered s) :
    Numbered (s.step op) := by
  cases op with
  | bind => exact h
  | bus op => exact broadcasts_numbered (s := { s with bus := s.bus.step op }) h _
  | pushEvent eventType data => exact broadcasts_numbered h [_]
  | connect =>
    intro q hq
    rcases List.mem_append.mp hq with hq | hq
    · exact Nat.lt_succ_of_lt (h q hq)
    · rw [List.mem_singleton.mp hq]
      exact Nat.lt_succ_self _
  | send reader =>
    intro q hq
    obtain ⟨old,hold,rfl⟩ := List.mem_map.mp hq
    split
    · exact h old hold
    · exact h old hold
  | leave other => exact fun q hq => h q (List.mem_filter.mp hq).1

theorem stream_connected (h : Numbered s) :
    (s.step .connect).stream s.connected = some Channel.empty := by
  have hnone : s.sseQueues.find? (fun q => q.id = s.connected) = none := by
    rw [List.find?_eq_none]
    intro q hq
    have hlt := h q hq
    simp only [decide_eq_true_eq]
    omega
  unfold MASApiServer.stream MASApiServer.step
  dsimp only
  rw [List.find?_append, hnone]
  simp

/-- The stream of a client that connects in a reachable state and stays: of everything that is
announced from then on it carries, in order, what found room in its queue, which is all of it
exactly if the client always reads in time. -/
theorem stream_carries (maxQueue : Int) (before ops : List ServerOp) :
    let s := Runs.run MASApiServer.step (.new maxQueue) before
    ServerOp.leave s.connected ∉ ops →
    ∃ c, (Runs.run MASApiServer.step (s.step .connect) ops).stream s.connected = some c ∧
      c.waiting.length ≤ sseQueueSize ∧
      c.admitted.Sublist (Runs.outputs MASApiServer.step announces (s.step .connect) ops) ∧
      (c.admitted = Runs.outputs MASApiServer.step announces (s.step .connect) ops ↔
        Runs.Along (Channel.step sseQueueSize) (Channel.Room sseQueueSize) .empty
          (Runs.outputs MASApiServer.step (traffic s.connected) (s.step .connect) ops)) := by
  intro s hstays
  have hnumbered : Numbered s :=
    Runs.run_invariant step_numbered (by intro q hq; cases hq)
  have hrun := stream_run (stream_connected hnumbered) ops hstays
  have hadmitted := Channel.run_admitted sseQueueSize
    (Runs.outputs MASApiServer.step (traffic s.connected) (s.step .connect) ops) Channel.empty
  have harrivals := arrivals_run s.connected (s.step .connect) ops
  refine ⟨_,hrun,Channel.run_bounded (Nat.zero_le _),?_,?_⟩
  · rw [hadmitted, ← harrivals]
    exact Channel.outputs_sublist _ _ _
  · rw [hadmitted, ← harrivals]
    exact Channel.lossless_iff _ _ _

def oneTick : List ServerOp := [.bind,.pushEvent "factory_tick" [],.send 0]

theorem stream_carries_tick :
    ∃ c, (Runs.run MASApiServer.step ((MASApiServer.new 5).step .connect) oneTick).stream 0 =
        some c ∧
      c.admitted.Sublist
        (Runs.outputs MASApiServer.step announces ((MASApiServer.new 5).step .connect) oneTick) := by
  obtain ⟨c,hstream,_,hsublist,_⟩ := stream_carries 5 [] oneTick (by simp [oneTick])
  exact ⟨c,hstream,hsublist⟩

end ManufacturingMas.Proofs.StreamFanout
