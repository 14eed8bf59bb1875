import Mathlib.Data.List.DropRight

/-! Python's white space and small letters, and what is stripped from a text. -/

namespace Py

/-- `c.isspace()`. -/
def isWhitespace (c : Char) : Bool :=
  let n := c.toNat
  n = 0x20 || (0x09 ≤ n && n ≤ 0x0d) || (0x1c ≤ n && n ≤ 0x1f) || n = 0x85 || n = 0xa0 ||
    n = 0x1680 || (0x2000 ≤ n && n ≤ 0x200a) || n = 0x2028 || n = 0x2029 || n = 0x202f ||
    n = 0x205f || n = 0x3000

/-- `s.strip()` of some characters. -/
def stripBy (p : Char → Bool) (s : List Char) : List Char := (s.dropWhile p).rdropWhile p

/-- `s.strip()`. -/
def strip (s : List Char) : List Char := stripBy isWhitespace s

def stripText (s : String) : String := String.ofList (strip s.toList)

def lower (s : String) : List Char := s.toList.map Char.toLower

/-- `sub in s`. -/
def contains (sub : List Char) : List Char → Bool
  | [] => sub.isEmpty
  | c :: cs => sub.isPrefixOf (c :: cs) || contains sub cs

/-! ### Texts that nothing is stripped from -/

variable {p : Char → Bool} {s : List Char}

/-- Neither end of the text is to be stripped. -/
def Tight (p : Char → Bool) (s : List Char) : Prop :=
  (∀ c ∈ s.head?, p c = false) ∧ ∀ c ∈ s.getLast?, p c = false

theorem stripBy_tight (h : Tight p s) : stripBy p s = s := by
  have hhead : s.dropWhile p = s := by
    cases s with
    | nil => rfl
    | cons c cs =>
      have hc := h.1 c rfl
      rw [List.dropWhile_cons, if_neg (by simp [hc])]
  unfold stripBy
  rw [hhead, List.rdropWhile_eq_self_iff]
  intro hne
  rw [h.2 _ (List.getLast?_eq_some_getLast hne)]
  simp

theorem tight_stripBy (p : Char → Bool) (s : List Char) : Tight p (stripBy p s) := by
  constructor
  · intro c hc
    -- what is left is the beginning of what the left end leaves
    obtain ⟨rest,hrest⟩ := List.rdropWhile_prefix (p := p) (l := s.dropWhile p)
    cases hleft : stripBy p s with
    | nil =>
      rw [hleft] at hc
      cases hc
    | cons d ds =>
      rw [hleft] at hc
      cases hc
      have hfirst : s.dropWhile p = c :: (ds ++ rest) := by
        rw [← hrest]
        change stripBy p s ++ rest = _
        rw [hleft]
        rfl
      have hnot := List.head?_dropWhile_not p s
      rw [hfirst] at hnot
      simpa using hnot
  · intro c hc
    unfold stripBy at hc
    have hne : (s.dropWhile p).rdropWhile p ≠ [] := by
      intro hnil
      rw [hnil] at hc
      cases hc
    have hlast := List.rdropWhile_last_not p (s.dropWhile p) hne
    rw [List.getLast?_eq_some_getLast hne] at hc
    cases hc
    simpa using hlast

@[simp] theorem stripBy_stripBy (p : Char → Bool) (s : List Char) :
    stripBy p (stripBy p s) = stripBy p s := stripBy_tight (tight_stripBy p s)

/-- Only a text of nothing else is stripped to nothing. -/
theorem of_stripBy_nil (h : stripBy p s = []) : ∀ c ∈ s, p c = true := by
  have hright := List.rdropWhile_eq_nil_iff.mp h
  have hleft : s.dropWhile p = [] := by
    cases hdrop : s.dropWhile p with
    | nil => rfl
    | cons c cs =>
      have hnot := List.head?_dropWhile_not p s
      rw [hdrop] at hnot
      exact absurd (hright c (by rw [hdrop]; exact List.mem_cons_self)) (by simpa using hnot)
  exact List.dropWhile_eq_nil_iff.mp hleft

theorem mem_of_mem_stripBy {c : Char} (h : c ∈ stripBy p s) : c ∈ s :=
  (List.dropWhile_sublist p).subset ((List.rdropWhile_prefix _ _).subset h)

/-! ### Texts whose lower-case form is known -/

def isAsciiLower (c : Char) : Bool := 'a' ≤ c && c ≤ 'z'

theorem toLower_eq_self_or (c : Char) :
    c.toLower = c ∨ (65 ≤ c.toNat ∧ c.toNat ≤ 90 ∧ isAsciiLower c.toLower = true) := by
  unfold Char.toLower
  split
  · rename_i h
    have hlo : 65 ≤ c.val.toNat := h.1
    have hhi : c.val.toNat ≤ 90 := h.2
    refine .inr ⟨hlo,hhi,?_⟩
    have hval : (c.val + ('a'.val - 'A'.val)).toNat = c.val.toNat + 32 := by
      rw [UInt32.toNat_add]
      exact Nat.mod_eq_of_lt (show c.val.toNat + 32 < 2 ^ 32 by omega)
    simp only [isAsciiLower, Bool.and_eq_true, decide_eq_true_eq, Char.le_def,
      UInt32.le_iff_toNat_le, hval]
    exact ⟨show 97 ≤ c.val.toNat + 32 by omega,show c.val.toNat + 32 ≤ 122 by omega⟩
  · exact .inl rfl

theorem toLower_of_isWhitespace {c : Char} (h : isWhitespace c = true) : c.toLower = c := by
  rcases toLower_eq_self_or c with heq | ⟨hlo,hhi,-⟩
  · exact heq
  · exfalso
    simp only [isWhitespace, Bool.or_eq_true, Bool.and_eq_true, decide_eq_true_eq] at h
    omega

/-- A text is its lower-case form where that has no letter with a capital. -/
theorem eq_of_map_toLower {s l : List Char} (h : s.map Char.toLower = l)
    (hl : l.any isAsciiLower = false) : s = l := by
  subst h
  refine (List.map_id s).symm.trans (List.map_congr_left fun c hc => ?_)
  rcases toLower_eq_self_or c with heq | ⟨-,-,hlower⟩
  · exact heq.symm
  · exact absurd hlower (List.any_eq_false.mp hl _ (List.mem_map_of_mem hc))

/-- Lowering neither makes nor removes white space. -/
theorem strip_of_lower {s l : List Char} (h : s.map Char.toLower = l)
    (hl : l.any isWhitespace = false) : strip s = s := by
  have hnone : ∀ c ∈ s, isWhitespace c = false := by
    intro c hc
    by_contra hspace
    have hmem : c.toLower ∈ l := h ▸ List.mem_map_of_mem hc
    rw [toLower_of_isWhitespace (Bool.not_eq_false _ ▸ hspace)] at hmem
    exact hspace (Bool.eq_false_iff.mpr (List.any_eq_false.mp hl c hmem))
  exact stripBy_tight ⟨fun c hc => hnone c (List.mem_of_mem_head? hc),
    fun c hc => hnone c (List.mem_of_mem_getLast? hc)⟩

theorem contains_iff {sub s : List Char} : contains sub s = true ↔ sub <:+: s := by
  induction s with
  | nil => simp [contains]
  | cons c cs ih => simp [contains, ih, List.infix_cons_iff]

theorem not_contains_of_lower {sub s l : List Char} (h : s.map Char.toLower = l)
    (hsub : contains (sub.map Char.toLower) l = false) : contains sub s = false := by
  subst h
  rw [← Bool.not_eq_true, contains_iff] at hsub ⊢
  exact fun hin => hsub (hin.map Char.toLower)

end Py
