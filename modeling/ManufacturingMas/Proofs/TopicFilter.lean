import ManufacturingMas.Messaging.MqttBridge

/-! The topics that a pattern matches: the relation level by level, and the filters of
MQTT 3.1.1. -/

namespace ManufacturingMas.Proofs.TopicFilter
open MqttBridge

/-- A level of a pattern that is no `#` matches any level, or its own text. -/
def LevelMatches (p t : Level) : Prop := p = single ∨ p = t

/-- The two lists have the same length, and the levels match in pairs. -/
abbrev AllMatch (ps ts : List Level) : Prop := List.Forall₂ LevelMatches ps ts

/-- Up to the first `#` of the pattern the levels match, or all of them if it has none. -/
def Levelwise (ps ts : List Level) : Prop :=
  (multi ∉ ps ∧ AllMatch ps ts) ∨
    (multi ∈ ps ∧ ps.idxOf multi ≤ ts.length ∧
      AllMatch (ps.take (ps.idxOf multi)) (ts.take (ps.idxOf multi)))

/-- The filter relation of MQTT 3.1.1: `#` ends a filter and stands for any number of
levels, none included; `+` stands for one level. -/
inductive Filters : List Level → List Level → Prop
  | nil : Filters [] []
  | multi (ts : List Level) : Filters [multi] ts
  | single {ps ts : List Level} (t : Level) : Filters ps ts → Filters (single :: ps) (t :: ts)
  | literal {ps ts : List Level} {t : Level} :
    t ≠ multi → Filters ps ts → Filters (t :: ps) (t :: ts)

variable {ps ts : List Level} {p t : Level}

/-! ### The loop -/

theorem levelwise_nil : Levelwise [] ts ↔ ts = [] := by
  simp [Levelwise]

theorem levelwise_multi : Levelwise (multi :: ps) ts := by
  simp [Levelwise]

theorem allMatch_cons : AllMatch (p :: ps) (t :: ts) ↔ LevelMatches p t ∧ AllMatch ps ts :=
  List.forall₂_cons

theorem not_levelwise_short (hp : p ≠ multi) : ¬ Levelwise (p :: ps) [] := by
  have hidx : (p :: ps).idxOf multi = ps.idxOf multi + 1 := List.idxOf_cons_ne ps hp
  rintro (⟨_,hall⟩ | ⟨_,hlen,_⟩)
  · cases hall
  · rw [hidx] at hlen
    exact absurd hlen (Nat.not_succ_le_zero _)

theorem levelwise_cons (hp : p ≠ multi) :
    Levelwise (p :: ps) (t :: ts) ↔ LevelMatches p t ∧ Levelwise ps ts := by
  have hidx : (p :: ps).idxOf multi = ps.idxOf multi + 1 := List.idxOf_cons_ne ps hp
  have hmem : multi ∈ p :: ps ↔ multi ∈ ps := by
    rw [List.mem_cons]
    exact or_iff_right hp.symm
  unfold Levelwise
  rw [hidx, hmem, List.take_succ_cons, List.take_succ_cons, allMatch_cons, allMatch_cons,
    List.length_cons, Nat.succ_le_succ_iff]
  tauto

theorem partsMatch_multi : partsMatch (multi :: ps) ts = true := if_pos rfl

theorem partsMatch_short (hp : p ≠ multi) : partsMatch (p :: ps) [] = false := if_neg hp

theorem partsMatch_cons (hp : p ≠ multi) :
    partsMatch (p :: ps) (t :: ts) = true ↔ LevelMatches p t ∧ partsMatch ps ts = true := by
  simp only [partsMatch, if_neg hp, LevelMatches]
  split
  · rename_i hno
    simp [hno.1, hno.2]
  · rename_i hlevel
    have hmatch : p = single ∨ p = t := by
      by_contra hnone
      exact hlevel (not_or.mp hnone)
    exact (and_iff_right hmatch).symm

theorem partsMatch_iff (ps ts : List Level) : partsMatch ps ts = true ↔ Levelwise ps ts := by
  induction ps generalizing ts with
  | nil => rw [levelwise_nil, partsMatch, List.isEmpty_iff]
  | cons p ps ih =>
    by_cases hp : p = multi
    · subst hp
      exact iff_of_true partsMatch_multi levelwise_multi
    · cases ts with
      | nil =>
        rw [partsMatch_short hp]
        exact iff_of_false Bool.false_ne_true (not_levelwise_short hp)
      | cons t ts => rw [partsMatch_cons hp, levelwise_cons hp, ih]

/-! ### Filters -/

/-- With `#` at its end only, the first `#` of a pattern is its end. -/
theorem filters_iff (hps : multi ∉ ps.dropLast) : Filters ps ts ↔ Levelwise ps ts := by
  induction ps generalizing ts with
  | nil =>
    rw [levelwise_nil]
    constructor
    · intro h
      cases h
      rfl
    · rintro rfl
      exact .nil
  | cons p ps ih =>
    by_cases hp : p = multi
    · subst hp
      have hend : ps = [] := by
        cases ps with
        | nil => rfl
        | cons q qs => exact absurd List.mem_cons_self hps
      subst hend
      exact iff_of_true (.multi ts) levelwise_multi
    · have hrest : multi ∉ ps.dropLast := by
        cases ps with
        | nil => exact List.not_mem_nil
        | cons q qs => exact fun h => hps (List.mem_cons_of_mem _ h)
      cases ts with
      | nil =>
        refine iff_of_false ?_ (not_levelwise_short hp)
        intro h
        cases h
        exact hp rfl
      | cons t ts =>
        rw [levelwise_cons hp, ← ih hrest]
        constructor
        · intro h
          cases h with
          | multi => exact absurd rfl hp
          | single _ h => exact ⟨.inl rfl,h⟩
          | literal _ h => exact ⟨.inr rfl,h⟩
        · rintro ⟨rfl | rfl,h⟩
          · exact .single t h
          · exact .literal hp h

/-- A topic is matched level by level by itself, unless it has a `#`. -/
theorem levelwise_self (hts : multi ∉ ts) : Levelwise ts ts :=
  .inl ⟨hts,List.forall₂_same.mpr fun _ _ => .inr rfl⟩

theorem levels_parent (topic : String) : levels (topic ++ "/#") = levels topic ++ [multi] := by
  have htext : (topic ++ "/#").toList = topic.toList ++ '/' :: ['#'] := by simp
  unfold levels
  rw [htext, List.splitOn_append_cons_self]
  rfl

theorem partsMatch_parent (ts : List Level) : partsMatch (ts ++ [multi]) ts = true := by
  induction ts with
  | nil => rfl
  | cons t ts ih =>
    by_cases ht : t = multi
    · subst ht
      exact partsMatch_multi
    · exact (partsMatch_cons ht).mpr ⟨.inr rfl,ih⟩

theorem topicMatches_iff_or (pattern topic : String) :
    topicMatches pattern topic = true ↔
      Levelwise (levels pattern) (levels topic) ∨ pattern = topic := by
  unfold topicMatches
  split
  · rename_i hsame
    exact iff_of_true rfl (.inr hsame)
  · rename_i hother
    rw [partsMatch_iff]
    exact (or_iff_left hother).symm

/-- A pattern matches a topic level by level up to its first `#`, or as the same text.
With `#` at the end of the pattern only and none in the topic that is the filter
relation of MQTT 3.1.1, under which `a/#` also matches `a`. -/
theorem topicMatches_iff (pattern topic : String) :
    (topicMatches pattern topic = true ↔
      Levelwise (levels pattern) (levels topic) ∨ pattern = topic) ∧
    (multi ∉ (levels pattern).dropLast → multi ∉ levels topic →
      (topicMatches pattern topic = true ↔ Filters (levels pattern) (levels topic))) ∧
    topicMatches (topic ++ "/#") topic = true := by
  refine ⟨topicMatches_iff_or pattern topic,?_,?_⟩
  · intro hpattern htopic
    rw [topicMatches_iff_or, filters_iff hpattern]
    constructor
    · rintro (h | rfl)
      · exact h
      · exact levelwise_self htopic
    · exact .inl
  · rw [topicMatches_iff_or, levels_parent, ← partsMatch_iff]
    exact .inl (partsMatch_parent _)

example : topicMatches "mas/agents/+/status" "mas/agents/PA/status" = true := by decide
example : topicMatches "factory/+" "factory/line3/press-01" = false := by decide

end ManufacturingMas.Proofs.TopicFilter
