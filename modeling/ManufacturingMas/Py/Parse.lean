import ManufacturingMas.Py.Float
import ManufacturingMas.Py.Text

/-! Numbers read from texts. -/

namespace Py

/-! ### Texts of digits and blanks in ASCII -/

/-- Where the scripts of the Unicode database have their digit zero. -/
def scriptZeros : List Nat :=
  [0x30, 0x660, 0x6f0, 0x7c0, 0x966, 0x9e6, 0xa66, 0xae6, 0xb66, 0xbe6, 0xc66, 0xce6, 0xd66,
    0xde6, 0xe50, 0xed0, 0xf20, 0x1040, 0x1090, 0x17e0, 0x1810, 0x1946, 0x19d0, 0x1a80, 0x1a90,
    0x1b50, 0x1bb0, 0x1c40, 0x1c50, 0xa620, 0xa8d0, 0xa900, 0xa9d0, 0xa9f0, 0xaa50, 0xabf0,
    0xff10, 0x104a0, 0x10d30, 0x11066, 0x110f0, 0x11136, 0x111d0, 0x112f0, 0x11450, 0x114d0,
    0x11650, 0x116c0, 0x11730, 0x118e0, 0x11950, 0x11c50, 0x11d50, 0x11da0, 0x16a60, 0x16ac0,
    0x16b50, 0x1d7ce, 0x1d7d8, 0x1d7e2, 0x1d7ec, 0x1d7f6, 0x1e140, 0x1e2f0, 0x1e950, 0x1fbf0]

/-- A character as numbers are read: blanks and decimal digits of any script stand for those of
ASCII, all else beyond it for nothing that a number has. -/
def asciiChar (c : Char) : Char :=
  if c.toNat < 127 then c
  else if isWhitespace c then ' '
  else match scriptZeros.find? fun zero => zero ≤ c.toNat && c.toNat < zero + 10 with
    | some zero => Char.ofNat ('0'.toNat + (c.toNat - zero))
    | none => '?'

def isAsciiSpace (c : Char) : Bool := c = ' ' || ('\t' ≤ c && c ≤ '\r')

/-- What `float` and `int` read a number from. -/
def numberText (s : String) : List Char := stripBy isAsciiSpace (s.toList.map asciiChar)

/-! ### Numbers -/

/-- The longest run of digits, in which a single underscore may stand between two. -/
def digits : Bool → List Char → List Nat × List Char
  | _, [] => ([], [])
  | after, c :: cs =>
    if c.isDigit then
      let (ds, rest) := digits true cs
      ((c.toNat - '0'.toNat) :: ds, rest)
    else if after && c = '_' && cs.head?.any Char.isDigit then digits false cs
    else ([], c :: cs)

def natOf (ds : List Nat) : Nat := ds.foldl (fun n d => 10 * n + d) 0

/-- An optional sign. -/
def signed : List Char → Bool × List Char
  | '-' :: cs => (true, cs)
  | '+' :: cs => (false, cs)
  | cs => (false, cs)

/-- The rest of a number after its mantissa: nothing, or an exponent. -/
def exponentOf : List Char → Option ℤ
  | [] => some 0
  | c :: cs =>
    if c = 'e' || c = 'E' then
      let (negative, cs) := signed cs
      match digits false cs with
      | (d :: ds, []) => some (if negative then -natOf (d :: ds) else natOf (d :: ds))
      | _ => none
    else none

def decimalOf (cs : List Char) : Option ℚ :=
  let (whole, rest) := digits false cs
  let (fraction, rest) := match rest with
    | '.' :: rest => digits false rest
    | rest => ([], rest)
  if whole.isEmpty && fraction.isEmpty then none
  else (exponentOf rest).map fun e =>
    (natOf (whole ++ fraction) : ℚ) * 10 ^ (e - (fraction.length : ℤ))

/-- `float(s)`. -/
def parseFloat (s : String) : Except PyErr PyFloat :=
  let (negative, cs) := signed (numberText s)
  let word := String.ofList (cs.map Char.toLower)
  if word = "inf" || word = "infinity" then .ok (if negative then .negInf else .posInf)
  else if word = "nan" then .ok .nan
  else match decimalOf cs with
    | some q => .ok (PyFloat.nearest (if negative then -q else q))
    | none => .error .valueError

/-- A text is a number, or raises a ValueError. -/
theorem parseFloat_cases (s : String) :
    (∃ x, parseFloat s = .ok x ∧ ∀ q, x = .fin q → IsDouble q ∧ |q| < PyFloat.limit) ∨
      parseFloat s = .error .valueError := by
  unfold parseFloat
  dsimp only
  split
  · split
    · exact .inl ⟨_,rfl,by simp⟩
    · exact .inl ⟨_,rfl,by simp⟩
  · split
    · exact .inl ⟨_,rfl,by simp⟩
    · split
      · exact .inl ⟨_,rfl,fun _ h => PyFloat.double_of_nearest h⟩
      · exact .inr rfl

/-- `int(s)`. -/
def parseInt (s : String) : Except PyErr ℤ :=
  let (negative, cs) := signed (numberText s)
  match digits false cs with
  | (d :: ds, []) => .ok (if negative then -natOf (d :: ds) else natOf (d :: ds))
  | _ => .error .valueError

/-! ### Blank texts -/

theorem asciiChar_blank {c : Char} (h : isWhitespace c = true) :
    isWhitespace (asciiChar c) = true := by
  unfold asciiChar
  split
  · exact h
  · rfl

theorem numberText_blank {s : String} (h : ∀ c ∈ s.toList, isWhitespace c = true) :
    ∀ c ∈ numberText s, isWhitespace c = true := by
  intro c hc
  obtain ⟨d,hd,rfl⟩ := List.mem_map.mp (mem_of_mem_stripBy hc)
  exact asciiChar_blank (h d hd)

theorem not_digit_of_blank {c : Char} (h : isWhitespace c = true) : c.isDigit = false := by
  by_contra hdigit
  have hrange : 48 ≤ c.toNat ∧ c.toNat ≤ 57 := by
    simpa [Char.isDigit, UInt32.le_iff_toNat_le] using hdigit
  simp only [isWhitespace, Bool.or_eq_true, Bool.and_eq_true, decide_eq_true_eq] at h
  omega

/-- White space begins neither with a sign nor with a digit or a point. -/
theorem reads_nothing {cs : List Char} (h : ∀ c ∈ cs, isWhitespace c = true) :
    signed cs = (false, cs) ∧ digits false cs = ([], cs) ∧ decimalOf cs = none := by
  cases cs with
  | nil => exact ⟨rfl,rfl,rfl⟩
  | cons c cs =>
    have hc := h c List.mem_cons_self
    have hne : ∀ d, isWhitespace d = false → c ≠ d := by
      rintro d hd rfl
      rw [hc] at hd
      cases hd
    have hdigits : digits false (c :: cs) = ([], c :: cs) := by
      simp [digits, not_digit_of_blank hc]
    have hpoint := hne '.' rfl
    refine ⟨?_,hdigits,?_⟩
    · unfold signed
      split
      · rename_i heq
        exact absurd (List.cons.inj heq).1 (hne '-' rfl)
      · rename_i heq
        exact absurd (List.cons.inj heq).1 (hne '+' rfl)
      · rfl
    · unfold decimalOf
      rw [hdigits]
      dsimp only
      split
      · rename_i heq
        exact absurd (List.cons.inj heq).1 hpoint
      · rfl

theorem parseInt_blank {s : String} (h : ∀ c ∈ s.toList, isWhitespace c = true) :
    parseInt s = .error .valueError := by
  obtain ⟨hsign,hdigits,_⟩ := reads_nothing (numberText_blank h)
  unfold parseInt
  rw [hsign]
  dsimp only
  rw [hdigits]

theorem parseFloat_blank {s : String} (h : ∀ c ∈ s.toList, isWhitespace c = true) :
    parseFloat s = .error .valueError := by
  have hblank := numberText_blank h
  obtain ⟨hsign,_,hdecimal⟩ := reads_nothing hblank
  have hlower : (numberText s).map Char.toLower = numberText s :=
    (List.map_congr_left fun c hc => toLower_of_isWhitespace (hblank c hc)).trans (List.map_id _)
  have hword : ∀ c (word : String), c ∈ word.toList → isWhitespace c = false →
      String.ofList (numberText s) ≠ word := by
    rintro c _ hc hnot rfl
    rw [hblank c (by simpa using hc)] at hnot
    cases hnot
  unfold parseFloat
  rw [hsign]
  dsimp only
  rw [hlower, hdecimal, if_neg, if_neg (hword 'n' "nan" (by decide) rfl)]
  simp [hword 'i' "inf" (by decide) rfl, hword 'i' "infinity" (by decide) rfl]

-- full-width digits, and an infinity between blanks of another script
example : parseInt (String.ofList [Char.ofNat 0xff11, Char.ofNat 0xff12]) = .ok 12 := by
  decide +kernel
example : parseFloat (String.ofList [Char.ofNat 0xa0, 'i', 'n', 'f']) = .ok .posInf := by
  decide +kernel

end Py
