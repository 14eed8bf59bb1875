import ManufacturingMas.Intelligence.CollaborationView

/-! The counts at the edges of the collaboration map, against the messages of the log. -/

namespace ManufacturingMas.Proofs.EdgeCounts
open Messaging CollaborationView

variable {β : Type} {order : IterOrder} {log : List (MessageEnvelope β)} {p q : Pair}

/-- The envelope was sent by `source` to `target`, or to all others. -/
def SentTo (source target : AgentId) (env : MessageEnvelope β) : Prop :=
  env.message.header.sender = source ∧
    (env.message.header.receiver = target ∨
      env.message.header.receiver = "ALL" ∧ target ≠ source)

instance (source target : AgentId) (env : MessageEnvelope β) :
    Decidable (SentTo source target env) := by
  unfold SentTo
  infer_instance

/-- The messages from `source` to `target` among the last 600. -/
def messageCount (log : List (MessageEnvelope β)) (source target : AgentId) : Nat :=
  (log.rtake 600).countP fun env => SentTo source target env

def CountsExact (order : IterOrder) (broker : MessageBroker β) : Prop :=
  ∀ d ∈ (buildCollaborationPayload order (some broker)).edges,
    d.recentCount = messageCount broker.envelopeLog d.edge.source d.edge.target

/-- The pairs of the last 600 messages, in the order in which they are met. -/
def traffic (order : IterOrder) (log : List (MessageEnvelope β)) : List Pair :=
  (log.rtake 600).flatMap (countedPairs order)

/-- `p` ranks before `q`: it has more messages, or as many and was met earlier. -/
abbrev RanksBefore (pairs : List Pair) : Pair → Pair → Prop :=
  Ranking.Ahead (pairs.count ·) (pairs.idxOf ·)

/-- The pairs with traffic that rank before `p`. -/
def rank (pairs : List Pair) (p : Pair) : Nat :=
  pairs.eraseDups.countP fun q => RanksBefore pairs q p

/-! ### What one envelope counts for -/

theorem all_not_agent : "ALL" ∉ agentIds.ids := by decide

theorem countedPairs_agents {env : MessageEnvelope β} (h : p ∈ countedPairs order env) :
    p.1 ∈ agentIds.ids ∧ p.2 ∈ agentIds.ids := by
  unfold countedPairs at h
  dsimp only at h
  split at h
  · cases h
  · rename_i hsender
    split at h
    · rename_i hreceiver
      rw [List.mem_singleton.mp h]
      exact ⟨not_not.mp hsender,hreceiver⟩
    · split at h
      · obtain ⟨aid,haid,rfl⟩ := List.mem_map.mp h
        exact ⟨not_not.mp hsender,(order.mem_visit _ _).mp (List.mem_of_mem_filter haid)⟩
      · cases h

theorem nodup_countedPairs (env : MessageEnvelope β) : (countedPairs order env).Nodup := by
  unfold countedPairs
  dsimp only
  split
  · exact List.nodup_nil
  · split
    · exact List.nodup_singleton _
    · split
      · refine ((order.nodup_visit agentIds).filter _).map ?_
        intro a b hab
        exact congrArg Prod.snd hab
      · exact List.nodup_nil

/-- An agent's pair is counted for what the one has sent to the other or to all. -/
theorem mem_countedPairs {env : MessageEnvelope β} {source target : AgentId}
    (hsource : source ∈ agentIds.ids) (htarget : target ∈ agentIds.ids) :
    (source, target) ∈ countedPairs order env ↔ SentTo source target env := by
  have hall : "ALL" ≠ target := fun heq => all_not_agent (heq ▸ htarget)
  unfold countedPairs SentTo
  dsimp only
  split
  · rename_i hsender
    refine iff_of_false List.not_mem_nil fun h => hsender ?_
    rw [h.1]
    exact hsource
  · split
    · rename_i hreceiver
      have hnotall : env.message.header.receiver ≠ "ALL" :=
        fun heq => all_not_agent (heq ▸ hreceiver)
      rw [List.mem_singleton, Prod.mk.injEq]
      constructor
      · rintro ⟨rfl,rfl⟩
        exact ⟨rfl,.inl rfl⟩
      · rintro ⟨rfl,rfl | ⟨h,_⟩⟩
        · exact ⟨rfl,rfl⟩
        · exact absurd h hnotall
    · rename_i hreceiver
      split
      · rename_i hbroadcast
        simp only [List.mem_map, List.mem_filter, order.mem_visit, Prod.mk.injEq, hbroadcast]
        constructor
        · rintro ⟨aid,⟨_,hother⟩,rfl,rfl⟩
          exact ⟨rfl,.inr ⟨trivial,of_decide_eq_true hother⟩⟩
        · rintro ⟨rfl,h | ⟨_,hother⟩⟩
          · exact absurd h hall
          · exact ⟨target,⟨htarget,decide_eq_true hother⟩,rfl,rfl⟩
      · rename_i hdirect
        refine iff_of_false List.not_mem_nil ?_
        rintro ⟨_,h | ⟨h,_⟩⟩
        · exact hreceiver (h ▸ htarget)
        · exact hdirect h

/-- The traffic of a pair of agents is the number of its messages. -/
theorem count_traffic {source target : AgentId} (hsource : source ∈ agentIds.ids)
    (htarget : target ∈ agentIds.ids) (log : List (MessageEnvelope β)) :
    (traffic order log).count (source, target) = messageCount log source target := by
  unfold traffic messageCount
  generalize log.rtake 600 = envs
  induction envs with
  | nil => rfl
  | cons env envs ih =>
    rw [List.flatMap_cons, List.count_append, ih, List.countP_cons,
      (nodup_countedPairs env).count, Nat.add_comm]
    simp only [mem_countedPairs hsource htarget, decide_eq_true_eq]

theorem traffic_agents (h : p ∈ traffic order log) :
    p.1 ∈ agentIds.ids ∧ p.2 ∈ agentIds.ids := by
  obtain ⟨env,_,henv⟩ := List.mem_flatMap.mp h
  exact countedPairs_agents henv

/-! ### The activity list -/

/-- The table of the pairs, from which the ranking is made. -/
def table (pairs : List Pair) : List (Pair × Nat) :=
  pairs.eraseDups.map fun p => (p, pairs.count p)

def ranked (pairs : List Pair) : List (Pair × Nat) :=
  Ranking.sortDescending (fun a b => decide (a < b)) (·.2) (table pairs)

theorem activity_eq (order : IterOrder) (broker : MessageBroker β) :
    (aggregateEdgeActivity order (some broker)).1 =
      (ranked (traffic order broker.envelopeLog)).take 24 := by
  unfold ranked table aggregateEdgeActivity limit shownPairs
  rw [← Tally.foldl_add, traffic, List.foldl_flatMap]

theorem mem_ranked {pairs : List Pair} {n : Nat} :
    (p, n) ∈ ranked pairs ↔ p ∈ pairs ∧ n = pairs.count p := by
  rw [ranked, (Ranking.sortDescending_perm _ _ _).mem_iff, table, List.mem_map]
  constructor
  · rintro ⟨q,hq,heq⟩
    cases heq
    exact ⟨List.mem_eraseDups.mp hq,rfl⟩
  · rintro ⟨hp,rfl⟩
    exact ⟨p,List.mem_eraseDups.mpr hp,rfl⟩

/-- The entries of the ranking stand in the order of the pairs' ranks. -/
theorem ranked_ahead (pairs : List Pair) :
    (ranked pairs).Pairwise (Ranking.Ahead (·.2) (fun x => pairs.idxOf x.1)) := by
  refine Ranking.sortDescending_ahead ?_
  rw [table, List.pairwise_map]
  exact Tally.pairwise_idxOf pairs

/-- A pair is on the list if it has traffic and fewer than 24 rank before it. -/
theorem mem_activity {pairs : List Pair} (hp : p ∈ pairs) :
    (p, pairs.count p) ∈ (ranked pairs).take 24 ↔ rank pairs p < 24 := by
  have hmem : (p, pairs.count p) ∈ ranked pairs := mem_ranked.mpr ⟨hp,rfl⟩
  rw [Ranking.mem_take_iff (fun _ _ => Ranking.Ahead.asymm) (ranked_ahead pairs) hmem]
  have hrank : (ranked pairs).countP (fun x =>
      Ranking.Ahead (·.2) (fun x => pairs.idxOf x.1) x (p, pairs.count p)) = rank pairs p := by
    rw [ranked, (Ranking.sortDescending_perm _ _ _).countP_eq, table, List.countP_map]
    rfl
  rw [hrank]

/-! ### The lookup at the drawn edges -/

/-- The ids have the same length, so that a key can be taken apart. -/
theorem edgeKey_injective {a b c d : AgentId} (ha : a ∈ agentIds.ids) (hc : c ∈ agentIds.ids)
    (h : edgeKey a b = edgeKey c d) : a = c ∧ b = d := by
  have htwo : ∀ id ∈ agentIds.ids, id.toList.length = 2 := by decide
  have htext := congrArg String.toList h
  simp only [edgeKey, String.toList_append, List.append_assoc] at htext
  obtain ⟨hac,hrest⟩ := List.append_inj htext ((htwo a ha).trans (htwo c hc).symm)
  obtain ⟨_,hbd⟩ := List.append_inj hrest rfl
  exact ⟨String.toList_inj.mp hac,String.toList_inj.mp hbd⟩

/-- The table the drawn edges are looked up in. -/
def actMap (activity : List (Pair × Nat)) : List (String × Nat) :=
  Assoc.update [] (activity.map fun x => (edgeKey x.1.1 x.1.2, x.2))

def BetweenAgents (pairs : List Pair) : Prop :=
  ∀ q ∈ pairs, q.1 ∈ agentIds.ids ∧ q.2 ∈ agentIds.ids

variable {activity : List (Pair × Nat)}

theorem actMap_of_mem (hagents : BetweenAgents (activity.map Prod.fst))
    (hnodup : (activity.map Prod.fst).Nodup) {n : Nat}
    (h : (p, n) ∈ activity) : Assoc.get (actMap activity) (edgeKey p.1 p.2) = some n := by
  have hkeys : ((activity.map fun x => (edgeKey x.1.1 x.1.2, x.2)).map Prod.fst).Nodup := by
    have hcomp : (activity.map fun x => (edgeKey x.1.1 x.1.2, x.2)).map Prod.fst =
        (activity.map Prod.fst).map fun q => edgeKey q.1 q.2 := by
      rw [List.map_map, List.map_map]
      rfl
    rw [hcomp]
    refine hnodup.map_on ?_
    intro q hq r hr heq
    obtain ⟨hfrom,hto⟩ := edgeKey_injective (hagents q hq).1 (hagents r hr).1 heq
    exact Prod.ext hfrom hto
  refine Assoc.get_update_of_get hkeys (Assoc.get_of_mem hkeys ?_)
  exact List.mem_map.mpr ⟨(p, n),h,rfl⟩

theorem actMap_of_not_mem (hagents : BetweenAgents (activity.map Prod.fst)) (hp : p.1 ∈ agentIds.ids)
    (h : p ∉ activity.map Prod.fst) :
    Assoc.get (actMap activity) (edgeKey p.1 p.2) = none := by
  rw [actMap, Assoc.get_update_of_not_mem]
  · rfl
  · intro hkey
    obtain ⟨e,he,heq⟩ := List.mem_map.mp hkey
    obtain ⟨x,hx,rfl⟩ := List.mem_map.mp he
    have hmem : x.1 ∈ activity.map Prod.fst := List.mem_map_of_mem hx
    obtain ⟨hfrom,hto⟩ := edgeKey_injective (hagents x.1 hmem).1 hp heq
    rw [Prod.ext hfrom hto] at hmem
    exact h hmem

theorem ranked_keys_nodup (pairs : List Pair) : ((ranked pairs).map Prod.fst).Nodup := by
  have hperm : ((ranked pairs).map Prod.fst).Perm ((table pairs).map Prod.fst) :=
    (Ranking.sortDescending_perm _ _ _).map _
  have hkeys : (table pairs).map Prod.fst = pairs.eraseDups := by
    rw [table, List.map_map]
    exact List.map_id _
  rw [hperm.nodup_iff, hkeys]
  exact Tally.nodup_eraseDups pairs

/-- A pair of agents is looked up with its traffic if fewer than 24 rank before it,
and with nothing otherwise. -/
theorem lookup_eq {pairs : List Pair} (hpairs : BetweenAgents pairs) (hp : p.1 ∈ agentIds.ids) :
    (Assoc.get (actMap ((ranked pairs).take 24)) (edgeKey p.1 p.2)).getD 0 =
      if p ∈ pairs ∧ rank pairs p < 24 then pairs.count p else 0 := by
  have hagents : BetweenAgents (((ranked pairs).take 24).map Prod.fst) := by
    intro q hq
    obtain ⟨x,hx,rfl⟩ := List.mem_map.mp hq
    exact hpairs x.1 (mem_ranked.mp (List.mem_of_mem_take hx)).1
  have hnodup : (((ranked pairs).take 24).map Prod.fst).Nodup :=
    (ranked_keys_nodup pairs).sublist ((List.take_sublist _ _).map _)
  split
  · rename_i hshown
    rw [actMap_of_mem hagents hnodup ((mem_activity hshown.1).mpr hshown.2), Option.getD_some]
  · rename_i hhidden
    rw [actMap_of_not_mem hagents hp, Option.getD_none]
    intro hmem
    obtain ⟨x,hx,rfl⟩ := List.mem_map.mp hmem
    obtain ⟨q,n⟩ := x
    obtain ⟨hq,rfl⟩ := mem_ranked.mp (List.mem_of_mem_take hx)
    exact hhidden ⟨hq,(mem_activity hq).mp hx⟩

theorem edges_between_agents :
    ∀ e ∈ collaborationEdges, e.source ∈ agentIds.ids ∧ e.target ∈ agentIds.ids := by decide

/-- The count at one drawn edge. -/
theorem recentCount_exact_iff (order : IterOrder) (broker : MessageBroker β)
    {e : CollaborationEdge} (he : e ∈ collaborationEdges) :
    (Assoc.get (actMap (aggregateEdgeActivity order (some broker)).1)
        (edgeKey e.source e.target)).getD 0 = messageCount broker.envelopeLog e.source e.target ↔
      ((e.source, e.target) ∈ traffic order broker.envelopeLog →
        rank (traffic order broker.envelopeLog) (e.source, e.target) < 24) := by
  obtain ⟨hsource,htarget⟩ := edges_between_agents e he
  rw [activity_eq, lookup_eq (p := (e.source, e.target)) (fun _ => traffic_agents) hsource,
    ← @count_traffic β order _ _ hsource htarget]
  generalize traffic order broker.envelopeLog = pairs
  by_cases hmem : (e.source, e.target) ∈ pairs
  · by_cases hrank : rank pairs (e.source, e.target) < 24
    · rw [if_pos ⟨hmem,hrank⟩]
      exact iff_of_true rfl fun _ => hrank
    · have hpos : 0 < pairs.count (e.source, e.target) := List.count_pos_iff.mpr hmem
      rw [if_neg fun h => hrank h.2]
      exact iff_of_false hpos.ne fun h => hrank (h hmem)
  · rw [if_neg fun h => hmem h.1, List.count_eq_zero.mpr hmem]
    exact iff_of_true rfl fun h => absurd h hmem

/-- The counts at the drawn edges are exact exactly when before each of them that has
traffic fewer than 24 pairs rank. -/
theorem counts_exact_iff (order : IterOrder) (broker : MessageBroker β) :
    CountsExact order broker ↔ ∀ e ∈ collaborationEdges,
      (e.source, e.target) ∈ traffic order broker.envelopeLog →
        rank (traffic order broker.envelopeLog) (e.source, e.target) < 24 := by
  have hedges : (buildCollaborationPayload order (some broker)).edges =
      collaborationEdges.map fun e =>
        { edge := e, recentCount := (Assoc.get
          (actMap (aggregateEdgeActivity order (some broker)).1)
          (edgeKey e.source e.target)).getD 0 } := by
    unfold buildCollaborationPayload actMap
    rfl
  unfold CountsExact
  rw [hedges, List.forall_mem_map]
  constructor
  · intro h e he
    have hedge := h e he
    dsimp only at hedge
    exact (recentCount_exact_iff order broker he).mp hedge
  · intro h e he
    dsimp only
    exact (recentCount_exact_iff order broker he).mpr (h e he)

/-! ### Twenty-five messages -/

/-- The pairs of different agents, but for the one from SA to IA. -/
def busyPairs : List Pair :=
  (agentIds.ids.flatMap fun s => (agentIds.ids.filter (· ≠ s)).map fun r => (s, r)).filter
    (· ≠ ("SA", "IA"))

def sent (p : Pair) : MessageEnvelope Unit :=
  { seq := 0, message := .create p.1 p.2 .inform () none "c" "t" "m", topic := .broadcast }

/-- One message for each of 24 pairs, and then one from SA to IA. -/
def busyBroker : MessageBroker Unit :=
  { MessageBroker.new 100 with
    envelopeLog := (busyPairs.take 24 ++ [("SA", "IA")]).map sent }

def saToIa : CollaborationEdge := ⟨"SA","IA","자재 ↔ WIP 흐름","cross",true⟩

theorem late_message_not_shown :
    messageCount busyBroker.envelopeLog "SA" "IA" = 1 ∧
    ⟨saToIa,0⟩ ∈ (buildCollaborationPayload .inserted (some busyBroker)).edges ∧
    ¬ CountsExact .inserted busyBroker := by
  have hcount : messageCount busyBroker.envelopeLog "SA" "IA" = 1 := by decide +kernel
  have hdrawn : ⟨saToIa,0⟩ ∈ (buildCollaborationPayload .inserted (some busyBroker)).edges := by
    decide +kernel
  refine ⟨hcount,hdrawn,fun h => ?_⟩
  have hexact : 0 = messageCount busyBroker.envelopeLog "SA" "IA" := h _ hdrawn
  rw [hcount] at hexact
  cases hexact

end ManufacturingMas.Proofs.EdgeCounts
