import ManufacturingMas.Lib.Runs
import ManufacturingMas.Messaging.MqttSession

/-! The broker's session against the bridge's subscriptions, whatever the threads that subscribe
and the network thread do between each other's steps. -/

namespace ManufacturingMas.Proofs.SessionFilters
open Py MqttBridge MqttSession State

variable {σ β : Type} {link : Link β} {limit : Nat → Nat} {s : State σ β} {c : Caller}
  {p : String} {ps : List String} {b : β}

/-! ### Requests -/

/-- Every filter is a pattern, at the quality of service of its topic. -/
def Wanted (link : Link β) (limit : Nat → Nat) (ps : List String) (b : β) : Prop :=
  ∀ p q, link.granted b p = some q → p ∈ ps ∧ q = limit (topicQos p)

theorem wanted_grant (hlink : link.Lawful limit) (h : Wanted link limit ps b) (hp : p ∈ ps)
    (hvalid : link.valid p) : Wanted link limit ps (link.grant b p (topicQos p)) := by
  intro r q hget
  by_cases hr : r = p
  · subst hr
    rw [hlink.granted b r _ hvalid] at hget
    exact ⟨hp,(Option.some.inj hget).symm⟩
  · rw [hlink.others b p _ r hr] at hget
    exact h r q hget

/-- What has been granted stays granted. -/
theorem granted_grant (hlink : link.Lawful limit) (hvalid : link.valid p) {r : String}
    (h : r = p ∨ link.granted b r ≠ none) (q : Nat) : link.granted (link.grant b p q) r ≠ none := by
  by_cases hr : r = p
  · subst hr
    rw [hlink.granted b r q hvalid]
    exact Option.some_ne_none _
  · rw [hlink.others b p q r hr]
    exact h.resolve_left hr

/-! ### What every step keeps -/

/-- Some call of `subscribe` for the pattern has still to make its request. -/
def Owes (s : State σ β) (p : String) : Prop := .check p ∈ s.callers ∨ .request p ∈ s.callers

/-- The patterns that the network thread has still to ask for, unless it has to begin with all of
them or has ended. -/
def toAsk : Network → Option (List String)
  | .idle => some []
  | .resubscribe left => some left
  | .onConnect | .connected | .ended => none

structure Kept (link : Link β) (limit : Nat → Nat) (s : State σ β) : Prop where
  tables : s.bridge.localCallbacks = s.bridge.subscriptions
  down : s.lost = true → s.session = none
  flagged : s.network ≠ .onConnect → s.session ≠ none → s.connected = true
  begun : s.callers ≠ [] → s.enabled = true
  alive : s.network = .ended → ∃ p ∈ s.patterns, ¬ link.valid p
  known : ∀ p, Owes s p → p ∈ s.patterns
  left : ∀ left, s.network = .resubscribe left → ∀ p ∈ left, p ∈ s.patterns
  wanted : ∀ b, s.session = some b → Wanted link limit s.patterns b
  covered : ∀ b, s.session = some b → ∀ left, toAsk s.network = some left →
    ∀ p ∈ s.patterns, link.valid p → link.granted b p ≠ none ∨ Owes s p ∨ p ∈ left

theorem new_kept : Kept link limit (.new : State σ β) where
  tables := rfl
  down h := by cases h
  flagged _ h := absurd rfl h
  begun h := absurd rfl h
  alive h := by cases h
  known p h := by simp [Owes, State.new] at h
  left left h := by cases h
  wanted b h := by cases h
  covered b h := by cases h

theorem mem_addCallback {table : List (String × List (Callback σ))} {pattern : String}
    {cb : Callback σ} :
    p ∈ (addCallback table pattern cb).map Prod.fst ↔ p = pattern ∨ p ∈ table.map Prod.fst := by
  unfold addCallback
  generalize (Assoc.get table pattern).getD [] ++ [cb] = cbs
  induction table with
  | nil => simp [Assoc.set]
  | cons entry table ih =>
    obtain ⟨r,rs⟩ := entry
    unfold Assoc.set
    by_cases hr : r = pattern
    · simp [hr]
    · rw [if_neg hr]
      simp only [List.map_cons, List.mem_cons, ih]
      tauto

theorem register_kept (h : Kept link limit s) (henabled : s.enabled = true) (pattern : String)
    (cb : Callback σ) : Kept link limit (s.register pattern cb) := by
  have hpatterns : ∀ p, p ∈ (s.register pattern cb).patterns ↔ p = pattern ∨ p ∈ s.patterns :=
    fun p => mem_addCallback
  have howes : ∀ p, Owes (s.register pattern cb) p ↔ p = pattern ∨ Owes s p := by
    intro p
    simp only [Owes, register, List.mem_append, List.mem_singleton, Caller.check.injEq, reduceCtorEq,
      or_false]
    tauto
  constructor
  · simp [register, h.tables]
  · exact h.down
  · exact h.flagged
  · exact fun _ => henabled
  · intro hended
    obtain ⟨p,hp,hinvalid⟩ := h.alive hended
    exact ⟨p,(hpatterns p).mpr (.inr hp),hinvalid⟩
  · intro p hp
    rw [hpatterns]
    exact ((howes p).mp hp).imp_right (h.known p)
  · intro left hleft p hp
    exact (hpatterns p).mpr (.inr (h.left left hleft p hp))
  · intro b hb r q hget
    obtain ⟨hr,hq⟩ := h.wanted b hb r q hget
    exact ⟨(hpatterns r).mpr (.inr hr),hq⟩
  · intro b hb left hleft p hp hvalid
    rw [howes]
    rcases (hpatterns p).mp hp with rfl | hp
    · exact .inr (.inl (.inl rfl))
    · exact (h.covered b hb left hleft p hp hvalid).imp_right (.imp_left .inr)

/-- What `register` does to the tables is what `subscribe` does to them while the lock is free. -/
theorem subscribe_registers {w : World σ} (hfree : w.bridge.locked = false)
    (hbridge : s.bridge = w.bridge) (pattern : String) (cb : Callback σ) :
    subscribe w pattern cb = .returned { w with bridge := (s.register pattern cb).bridge } := by
  simp [subscribe, register, hfree, hbridge]

/-! ### Calls past the lock -/

/-- Other calls in progress, if those that still owe a request do so in both states. -/
theorem Kept.withCallers (h : Kept link limit s) {cs : List Caller}
    (henabled : cs ≠ [] → s.enabled = true) (hback : ∀ p, Owes { s with callers := cs } p → Owes s p)
    (howed : ∀ b, s.session = some b → s.network ≠ .onConnect → ∀ p, link.valid p → Owes s p →
      link.granted b p ≠ none ∨ Owes { s with callers := cs } p) :
    Kept link limit { s with callers := cs } where
  tables := h.tables
  down := h.down
  flagged := h.flagged
  begun := henabled
  alive := h.alive
  known p hp := h.known p (hback p hp)
  left := h.left
  wanted := h.wanted
  covered b hb left hleft p hp hvalid := by
    have hbegun : s.network ≠ .onConnect := by
      intro heq
      rw [heq] at hleft
      cases hleft
    rcases h.covered b hb left hleft p hp hvalid with hhas | howes | hmem
    · exact .inl hhas
    · exact (howed b hb hbegun p hvalid howes).imp_right .inl
    · exact .inr (.inr hmem)

theorem Kept.ask (hlink : link.Lawful limit) (h : Kept link limit s) (hp : p ∈ s.patterns)
    (hvalid : link.valid p) : Kept link limit (s.ask link p) where
  tables := h.tables
  down hlost := by simp [State.ask, h.down hlost]
  flagged hnetwork hup := h.flagged hnetwork fun hnone => hup (by simp [State.ask, hnone])
  begun := h.begun
  alive := h.alive
  known := h.known
  left := h.left
  wanted b hb := by
    obtain ⟨old,hold,rfl⟩ := Option.map_eq_some_iff.mp hb
    exact wanted_grant hlink (h.wanted old hold) hp hvalid
  covered b hb left hleft r hr hrvalid := by
    obtain ⟨old,hold,rfl⟩ := Option.map_eq_some_iff.mp hb
    exact (h.covered old hold left hleft r hr hrvalid).imp_left fun hhas =>
      granted_grant hlink hvalid (.inr hhas) _

theorem mem_erase {i : Nat} {cs : List Caller} (hc : cs[i]? = some c) (c' : Caller) :
    c' ∈ cs ↔ c' = c ∨ c' ∈ cs.eraseIdx i := by
  obtain ⟨hi,rfl⟩ := List.getElem?_eq_some_iff.mp hc
  rw [← (List.getElem_cons_eraseIdx_perm hi).mem_iff, List.mem_cons]

theorem owes_erase {i : Nat} (hc : s.callers[i]? = some c) (p : String) :
    Owes s p ↔ (.check p = c ∨ .request p = c) ∨
      Owes { s with callers := s.callers.eraseIdx i } p := by
  simp only [Owes, mem_erase hc]
  tauto

theorem owes_append (s : State σ β) (cs : List Caller) (c : Caller) (p : String) :
    Owes { s with callers := cs ++ [c] } p ↔ (.check p = c ∨ .request p = c) ∨
      Owes { s with callers := cs } p := by
  simp only [Owes, List.mem_append, List.mem_singleton]
  tauto

section
variable {i : Nat}

theorem enabled_of_caller (h : Kept link limit s) (hc : s.callers[i]? = some c) :
    s.enabled = true := h.begun fun hnil => by simp [hnil] at hc

theorem check_kept (h : Kept link limit s) (hc : s.callers[i]? = some (.check p)) :
    Kept link limit (State.resume link { s with callers := s.callers.eraseIdx i } (.check p)) := by
  have henabled := enabled_of_caller h hc
  by_cases hflags : (s.enabled && s.connected) = true
  · rw [State.resume, if_pos hflags]
    have hsame : ∀ r, Owes { s with callers := s.callers.eraseIdx i ++ [.request p] } r ↔
        Owes s r := by
      intro r
      rw [owes_append, owes_erase hc r]
      simp
    exact h.withCallers (fun _ => henabled) (fun r => (hsame r).mp)
      fun _ _ _ r _ howes => .inr ((hsame r).mpr howes)
  · rw [State.resume, if_neg hflags]
    refine h.withCallers (fun _ => henabled) (fun r howes => (owes_erase hc r).mpr (.inr howes))
      fun b hb hbegun _ _ _ => ?_
    -- where the check fails, `_on_connect` is still to come
    have hconnected := h.flagged hbegun (by simp [hb])
    simp [henabled, hconnected] at hflags

theorem request_kept (hlink : link.Lawful limit) (h : Kept link limit s)
    (hc : s.callers[i]? = some (.request p)) :
    Kept link limit (State.resume link { s with callers := s.callers.eraseIdx i } (.request p)) := by
  have henabled := enabled_of_caller h hc
  have hp : p ∈ s.patterns := h.known p ((owes_erase hc p).mpr (.inl (.inr rfl)))
  by_cases hvalid : link.valid p = true
  · rw [State.resume, if_pos hvalid]
    have hless : ∀ r, Owes { s with callers := s.callers.eraseIdx i ++ [.count] } r ↔
        Owes { s with callers := s.callers.eraseIdx i } r := by
      intro r
      rw [owes_append]
      simp
    refine (h.ask hlink hp hvalid).withCallers (fun _ => henabled)
      (fun r howes => (owes_erase hc r).mpr (.inr ((hless r).mp howes))) fun b hb _ r _ howes => ?_
    obtain ⟨old,_,rfl⟩ := Option.map_eq_some_iff.mp hb
    by_cases hrp : r = p
    · exact .inl (granted_grant hlink hvalid (.inl hrp) _)
    · rcases (owes_erase hc r).mp howes with (hcheck | hrequest) | hrest
      · cases hcheck
      · exact absurd (Caller.request.inj hrequest) hrp
      · exact .inr ((hless r).mpr hrest)
  · rw [State.resume, if_neg hvalid]
    refine h.withCallers (fun _ => henabled) (fun r howes => (owes_erase hc r).mpr (.inr howes))
      fun _ _ _ r hr howes => .inr ?_
    -- only the call that raises owes nothing any more
    rcases (owes_erase hc r).mp howes with (hcheck | hrequest) | hrest
    · cases hcheck
    · cases hrequest
      exact absurd hr hvalid
    · exact hrest

theorem count_kept (h : Kept link limit s) (hc : s.callers[i]? = some .count) :
    Kept link limit (State.resume link { s with callers := s.callers.eraseIdx i } .count) := by
  have henabled := enabled_of_caller h hc
  have hsame : ∀ r, Owes { s with callers := s.callers.eraseIdx i } r ↔ Owes s r := by
    intro r
    rw [owes_erase hc r]
    simp
  have hcounted : Kept link limit { s with topicsActive := s.bridge.subscriptions.length } :=
    ⟨h.tables,h.down,h.flagged,h.begun,h.alive,h.known,h.left,h.wanted,h.covered⟩
  exact hcounted.withCallers (fun _ => henabled) (fun r => (hsame r).mp)
    fun _ _ _ r _ howes => .inr ((hsame r).mpr howes)

theorem resume_kept (hlink : link.Lawful limit) (h : Kept link limit s)
    (hc : s.callers[i]? = some c) :
    Kept link limit (State.resume link { s with callers := s.callers.eraseIdx i } c) := by
  cases c with
  | check p => exact check_kept h hc
  | request p => exact request_kept hlink h hc
  | count => exact count_kept h hc

end

/-! ### The network thread -/

/-- The network thread somewhere else, where it has to ask for no less than before. -/
theorem Kept.withNetwork (h : Kept link limit s) {network : Network}
    (hbegun : s.network ≠ .onConnect)
    (halive : network = .ended → ∃ p ∈ s.patterns, ¬ link.valid p)
    (hleft : ∀ left, network = .resubscribe left → ∀ p ∈ left, p ∈ s.patterns)
    (hcovered : ∀ b, s.session = some b → ∀ left, toAsk network = some left →
      ∀ p ∈ s.patterns, link.valid p → link.granted b p ≠ none ∨ Owes s p ∨ p ∈ left) :
    Kept link limit { s with network := network } where
  tables := h.tables
  down := h.down
  flagged _ hup := h.flagged hbegun hup
  begun := h.begun
  alive := halive
  known := h.known
  left := hleft
  wanted := h.wanted
  covered := hcovered

theorem resubscribe_kept (hlink : link.Lawful limit) (h : Kept link limit s)
    {left : List String} (hnetwork : s.network = .resubscribe left) :
    Kept link limit (s.resubscribe link left) := by
  have hbegun : s.network ≠ .onConnect := by simp [hnetwork]
  have hleft := h.left left hnetwork
  cases left with
  | nil =>
    refine h.withNetwork hbegun (fun hended => by cases hended) (fun _ heq => by cases heq) ?_
    intro b hb left heq
    cases heq
    exact h.covered b hb [] (by rw [hnetwork]; rfl)
  | cons p left =>
    obtain ⟨hp,hrest⟩ := List.forall_mem_cons.mp hleft
    by_cases hvalid : link.valid p = true
    · rw [State.resubscribe, if_pos hvalid]
      have hasked : Kept link limit { s.ask link p with topicsActive := s.topicsActive + 1 } :=
        let h := h.ask hlink hp hvalid
        ⟨h.tables,h.down,h.flagged,h.begun,h.alive,h.known,h.left,h.wanted,h.covered⟩
      refine hasked.withNetwork hbegun (fun hended => by cases hended) ?_ ?_
      · intro _ heq
        cases heq
        exact hrest
      · intro b hb _ heq r hr hrvalid
        cases heq
        rcases hasked.covered b hb (p :: left) (by simp [ask, hnetwork, toAsk]) r hr hrvalid with
          hhas | howes | hmem
        · exact .inl hhas
        · exact .inr (.inl howes)
        · rcases List.mem_cons.mp hmem with rfl | hmem
          · -- the pattern of this round has just been granted
            obtain ⟨old,_,rfl⟩ := Option.map_eq_some_iff.mp hb
            exact .inl (granted_grant hlink hvalid (.inl rfl) _)
          · exact .inr (.inr hmem)
    · rw [State.resubscribe, if_neg hvalid]
      exact h.withNetwork hbegun (fun _ => ⟨p,hp,hvalid⟩) (fun _ heq => by cases heq)
        fun _ _ _ heq => by cases heq

theorem stepNetwork_kept (hlink : link.Lawful limit) (h : Kept link limit s) :
    Kept link limit (s.stepNetwork link) := by
  have hcovered := h.covered
  unfold State.stepNetwork
  cases hnetwork : s.network with
  | onConnect =>
    refine ⟨h.tables,h.down,fun _ _ => rfl,h.begun,?_,h.known,?_,h.wanted,?_⟩
    · intro hended
      cases hended
    · intro _ heq
      cases heq
    · intro _ _ _ heq
      cases heq
  | connected =>
    refine h.withNetwork (by simp [hnetwork]) (fun hended => by cases hended) ?_ ?_
    · intro _ heq
      cases heq
      exact fun _ hp => hp
    · intro b _ _ heq p hp _
      cases heq
      exact .inr (.inr hp)
  | resubscribe left => exact resubscribe_kept hlink h hnetwork
  | idle =>
    simp only
    split
    · rename_i hlost
      refine ⟨h.tables,?_,fun _ hup => absurd (h.down hlost) hup,h.begun,?_,h.known,?_,h.wanted,?_⟩
      · intro hfalse
        cases hfalse
      · intro hended
        cases hended
      · intro _ heq
        cases heq
      · rw [hnetwork] at hcovered
        exact hcovered
    · exact h
  | ended => exact h

/-! ### Any order of steps -/

theorem accept_kept (hlink : link.Lawful limit) (h : Kept link limit s) :
    Kept link limit (Event.apply link s (.accept : Event σ)) := by
  rw [Event.apply]
  split
  · rename_i hfree
    simp only [Bool.and_eq_true, decide_eq_true_eq, Bool.not_eq_eq_eq_not, Bool.not_true] at hfree
    refine ⟨h.tables,?_,fun hne => absurd rfl hne,h.begun,?_,h.known,?_,?_,?_⟩
    · intro hlost
      simp [hfree.2] at hlost
    · intro hended
      cases hended
    · intro _ heq
      cases heq
    · rintro b hb p q hget
      cases hb
      rw [hlink.fresh] at hget
      cases hget
    · intro _ _ _ heq
      cases heq
  · exact h

theorem apply_kept (hlink : link.Lawful limit) (s : State σ β) (e : Event σ)
    (h : Kept link limit s) : Kept link limit (e.apply link s) := by
  cases e with
  | construct =>
    exact ⟨h.tables,h.down,fun _ _ => rfl,fun _ => rfl,h.alive,h.known,h.left,h.wanted,h.covered⟩
  | subscribe pattern cb =>
    rw [Event.apply]
    split
    · rename_i hfree
      exact register_kept h (Bool.and_eq_true_iff.mp hfree).1 pattern cb
    · exact h
  | advance i =>
    rw [Event.apply]
    split
    · rename_i c hc
      exact resume_kept hlink h hc
    · exact h
  | accept => exact accept_kept hlink h
  | network => exact stepNetwork_kept hlink h
  | drop =>
    refine ⟨h.tables,fun _ => rfl,fun _ hup => absurd rfl hup,h.begun,h.alive,h.known,h.left,
      ?_,?_⟩
    all_goals
      intro b hb
      cases hb

/-! ### Settling -/

/-- No thread has a step of its own left. -/
structure Settled (s : State σ β) : Prop where
  built : s.enabled = true
  calls : s.callers = []
  idle : s.network = .idle
  attended : s.lost = false

/-- A step of a thread that is under way already. -/
def Own : Event σ → Prop
  | .construct | .advance _ | .network => True
  | .subscribe .. | .accept | .drop => False

/-- The same subscriptions, and a connection or none as before. -/
def SameLink (s t : State σ β) : Prop :=
  t.patterns = s.patterns ∧ t.session.isSome = s.session.isSome

theorem SameLink.trans {t u : State σ β} (h : SameLink s t) (h' : SameLink t u) : SameLink s u :=
  ⟨h'.1.trans h.1,h'.2.trans h.2⟩

theorem stepNetwork_link (link : Link β) (s : State σ β) : SameLink s (s.stepNetwork link) ∧
    (s.stepNetwork link).enabled = s.enabled := by
  unfold State.stepNetwork SameLink
  cases s.network with
  | onConnect | connected | ended => exact ⟨⟨rfl,rfl⟩,rfl⟩
  | resubscribe left =>
    cases left with
    | nil => exact ⟨⟨rfl,rfl⟩,rfl⟩
    | cons p left =>
      simp only [State.resubscribe]
      split
      · exact ⟨⟨rfl,by simp [State.ask]⟩,rfl⟩
      · exact ⟨⟨rfl,rfl⟩,rfl⟩
  | idle =>
    simp only
    split <;> exact ⟨⟨rfl,rfl⟩,rfl⟩

/-- Steps of the network thread alone. -/
def networkRun (link : Link β) (s : State σ β) (k : Nat) : State σ β :=
  Runs.run (Event.apply link) s (List.replicate k .network)

theorem networkRun_link (link : Link β) (s : State σ β) (k : Nat) :
    SameLink s (networkRun link s k) ∧ (networkRun link s k).enabled = s.enabled := by
  induction k generalizing s with
  | zero => exact ⟨⟨rfl,rfl⟩,rfl⟩
  | succ k ih =>
    obtain ⟨hone,henabled⟩ := stepNetwork_link link s
    obtain ⟨hrest,henabled'⟩ := ih (s.stepNetwork link)
    exact ⟨hone.trans hrest,henabled'.trans henabled⟩

/-- The loop ends if the client accepts all that is left. -/
theorem loop_ends {left : List String} (hvalid : ∀ p ∈ left, link.valid p)
    (h : s.network = .resubscribe left) : ∃ k, (networkRun link s k).network = .idle := by
  induction left generalizing s with
  | nil =>
    refine ⟨1,?_⟩
    change (s.stepNetwork link).network = _
    simp [State.stepNetwork, h, State.resubscribe]
  | cons p left ih =>
    obtain ⟨hp,hvalid⟩ := List.forall_mem_cons.mp hvalid
    have hstep : (s.stepNetwork link).network = .resubscribe left := by
      simp [State.stepNetwork, h, State.resubscribe, hp]
    obtain ⟨k,hk⟩ := ih hvalid hstep
    exact ⟨k + 1,hk⟩

/-- A network thread that runs comes to rest, from wherever it is. -/
theorem network_idle (hkept : Kept link limit s) (hvalid : ∀ p ∈ s.patterns, link.valid p) :
    ∃ k, (networkRun link s k).network = .idle := by
  have hloop : ∀ {t : State σ β}, t.patterns = s.patterns → t.network = .connected →
      ∃ k, (networkRun link t k).network = .idle := by
    intro t hpatterns hnetwork
    have hstep : (t.stepNetwork link).network = .resubscribe s.patterns := by
      simp [State.stepNetwork, hnetwork, hpatterns]
    obtain ⟨k,hk⟩ := loop_ends hvalid hstep
    exact ⟨k + 1,hk⟩
  cases hnetwork : s.network with
  | idle => exact ⟨0,hnetwork⟩
  | onConnect =>
    have hstep : (s.stepNetwork link).network = .connected := by
      simp [State.stepNetwork, hnetwork]
    obtain ⟨k,hk⟩ := hloop (stepNetwork_link link s).1.1 hstep
    exact ⟨k + 1,hk⟩
  | connected => exact hloop rfl hnetwork
  | resubscribe left =>
    exact loop_ends (fun p hp => hvalid p (hkept.left left hnetwork p hp)) hnetwork
  | ended =>
    obtain ⟨p,hp,hinvalid⟩ := hkept.alive hnetwork
    exact absurd (hvalid p hp) hinvalid

theorem attend (h : s.network = .idle) :
    (s.stepNetwork link).network = .idle ∧ (s.stepNetwork link).lost = false := by
  unfold State.stepNetwork
  by_cases hlost : s.lost = true
  · simp [h, hlost]
  · simp [h, hlost]

theorem network_rests (hkept : Kept link limit s) (hvalid : ∀ p ∈ s.patterns, link.valid p) :
    ∃ k, (networkRun link s k).network = .idle ∧ (networkRun link s k).lost = false := by
  obtain ⟨k,hidle⟩ := network_idle hkept hvalid
  refine ⟨k + 1,?_⟩
  unfold networkRun
  rw [List.replicate_succ', Runs.run_append]
  exact attend hidle

def work : Caller → Nat
  | .check _ => 3
  | .request _ => 2
  | .count => 1

theorem resume_link (link : Link β) (s : State σ β) (c : Caller) :
    SameLink s (s.resume link c) ∧ (s.resume link c).network = s.network ∧
      (s.resume link c).lost = s.lost ∧ (s.resume link c).enabled = s.enabled ∧
      ((s.resume link c).callers.map work).sum < (s.callers.map work).sum + work c := by
  cases c with
  | check p =>
    rw [State.resume]
    split
    · exact ⟨⟨rfl,rfl⟩,rfl,rfl,rfl,by simp [work]⟩
    · exact ⟨⟨rfl,rfl⟩,rfl,rfl,rfl,by simp [work]⟩
  | request p =>
    rw [State.resume]
    split
    · exact ⟨⟨rfl,by simp [State.ask]⟩,rfl,rfl,rfl,by simp [work]⟩
    · exact ⟨⟨rfl,rfl⟩,rfl,rfl,rfl,by simp [work]⟩
  | count => exact ⟨⟨rfl,rfl⟩,rfl,rfl,rfl,by simp [State.resume, work]⟩

/-- The calls of `subscribe` come to an end, whatever each of them has left. -/
theorem calls_end (link : Link β) (s : State σ β) : ∃ k,
    let t := Runs.run (Event.apply link) s (List.replicate k (.advance 0))
    t.callers = [] ∧ SameLink s t ∧ t.network = s.network ∧ t.lost = s.lost ∧
      t.enabled = s.enabled := by
  induction hwork : (s.callers.map work).sum using Nat.strongRecOn generalizing s with
  | ind n ih =>
    cases hcallers : s.callers with
    | nil => exact ⟨0,hcallers,⟨rfl,rfl⟩,rfl,rfl,rfl⟩
    | cons c rest =>
      obtain ⟨⟨hpatterns,hup⟩,hnetwork,hlost,henabled,hless⟩ :=
        resume_link link { s with callers := rest } c
      have hstep : (Event.advance 0 : Event σ).apply link s =
          State.resume link { s with callers := rest } c := by
        simp [Event.apply, hcallers]
      rw [hcallers, List.map_cons, List.sum_cons] at hwork
      obtain ⟨k,hend,⟨hpatterns',hup'⟩,hnetwork',hlost',henabled'⟩ :=
        ih _ (by simp only at hless; omega) (State.resume link { s with callers := rest } c) rfl
      refine ⟨k + 1,?_⟩
      simp only [List.replicate_succ, Runs.run_cons, hstep]
      exact ⟨hend,⟨hpatterns'.trans hpatterns,hup'.trans hup⟩,hnetwork'.trans hnetwork,
        hlost'.trans hlost,henabled'.trans henabled⟩

/-- The steps under way lead to a state without any, and lose no connection. -/
theorem settles (hlink : link.Lawful limit) (hkept : Kept link limit s)
    (hvalid : ∀ p ∈ s.patterns, link.valid p) :
    ∃ es : List (Event σ), (∀ e ∈ es, Own e) ∧
      Settled (Runs.run (Event.apply link) s es) ∧
      SameLink s (Runs.run (Event.apply link) s es) := by
  let built : State σ β := { s with enabled := true, connected := true }
  have hbuilt : Kept link limit built := apply_kept hlink s .construct hkept
  obtain ⟨j,hidle,hattended⟩ := network_rests hbuilt hvalid
  obtain ⟨hrest,henabled⟩ := networkRun_link link built j
  obtain ⟨k,hcalls,hlast,hnetwork,hlost,hstays⟩ := calls_end link (networkRun link built j)
  refine ⟨.construct :: (List.replicate j .network ++ List.replicate k (.advance 0)),?_,?_,?_⟩
  · intro e he
    rcases List.mem_cons.mp he with rfl | he
    · trivial
    · rcases List.mem_append.mp he with he | he
      all_goals
        rw [List.eq_of_mem_replicate he]
        trivial
  · rw [Runs.run_cons, Runs.run_append]
    exact ⟨hstays.trans henabled,hcalls,hnetwork.trans hidle,hlost.trans hattended⟩
  · rw [Runs.run_cons, Runs.run_append]
    exact SameLink.trans hrest hlast

/-! ### What the broker has been asked for -/

structure Covers (link : Link β) (limit : Nat → Nat) (s : State σ β) : Prop where
  tables : s.bridge.localCallbacks = s.bridge.subscriptions
  wanted : ∀ b, s.session = some b → Wanted link limit s.patterns b
  settled : Settled s → ∀ b, s.session = some b → s.connected = true ∧
    ∀ p ∈ s.patterns, link.valid p → link.granted b p = some (limit (topicQos p))

theorem Kept.covers (h : Kept link limit s) : Covers link limit s where
  tables := h.tables
  wanted := h.wanted
  settled hsettled b hb := by
    refine ⟨h.flagged (by simp [hsettled.idle]) (by simp [hb]),fun p hp hvalid => ?_⟩
    rcases h.covered b hb [] (by rw [hsettled.idle]; rfl) p hp hvalid with hhas | howes | hmem
    · obtain ⟨q,hq⟩ := Option.ne_none_iff_exists'.mp hhas
      rw [hq, (h.wanted b hb p q hq).2]
    · simp [Owes, hsettled.calls] at howes
    · cases hmem

/-- The steps under way, without a new call or a lost connection, can bring every thread to
rest. -/
def CanSettle (link : Link β) (s : State σ β) : Prop :=
  ∃ own : List (Event σ), (∀ e ∈ own, Own e) ∧ Settled (Runs.run (Event.apply link) s own) ∧
    SameLink s (Runs.run (Event.apply link) s own)

/-- In any order of the steps the filters of a session are patterns somebody subscribed, at the
quality of service of their topics, and once the threads have done what they are at they are
all the valid ones; while all are valid, the threads always can. -/
theorem session_covers (link : Link β) {limit : Nat → Nat} (hlink : link.Lawful limit)
    (es : List (Event σ)) :
    Covers link limit (Runs.run (Event.apply link) .new es) ∧
      ((∀ p ∈ (Runs.run (Event.apply link) .new es).patterns, link.valid p) →
        CanSettle link (Runs.run (Event.apply link) .new es)) := by
  have hkept : Kept link limit (Runs.run (Event.apply link) .new es) :=
    Runs.run_invariant (apply_kept hlink) new_kept
  exact ⟨hkept.covers,settles hlink hkept⟩

/-- Wildcards stand for whole levels, and the one for several levels is the last. -/
def validFilter (pattern : String) : Bool :=
  let ps := levels pattern
  pattern ≠ "" && ps.all (fun p => p.length ≤ 1 || !(p.contains '+' || p.contains '#')) &&
    ps.dropLast.all (fun p => p ≠ multi)

/-- A broker that keeps a table of filters and grants what is asked for. -/
def tableLink : Link (List (String × Nat)) :=
  { valid := validFilter, fresh := [], grant := Assoc.set, granted := Assoc.get }

theorem tableLink_lawful : tableLink.Lawful id where
  fresh _ := rfl
  granted _ _ _ _ := Assoc.get_set_self
  others _ _ _ _ hr := Assoc.get_set_of_ne hr

/-- A connection, and a call of `subscribe` that comes to its end. -/
def alertSteps : List (Event Unit) :=
  [.construct, .accept, .network, .network, .network,
    .subscribe "factory/alert" ⟨0,fun _ _ => .done⟩, .advance 0, .advance 0, .advance 0]

theorem session_covers_alert :
    let s := Runs.run (Event.apply tableLink) .new alertSteps
    s.session = some [("factory/alert", 1)] ∧ Covers tableLink id s ∧ CanSettle tableLink s := by
  obtain ⟨hcovers,hsettles⟩ := session_covers tableLink tableLink_lawful alertSteps
  refine ⟨by decide +kernel,hcovers,hsettles ?_⟩
  decide +kernel

end ManufacturingMas.Proofs.SessionFilters
