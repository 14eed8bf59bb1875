import ManufacturingMas.Py.Text

/-! Python texts cut into lines. -/

namespace Py

/-- A character that `splitlines` ends a line at. -/
def isLineBreak (c : Char) : Bool :=
  let n := c.toNat
  (0x0a ≤ n && n ≤ 0x0d) || (0x1c ≤ n && n ≤ 0x1e) || n = 0x85 || n = 0x2028 || n = 0x2029

/-- `s.splitlines()`, from within a line; a line feed after a carriage return ends no other. -/
def splitLines : Bool → List Char → List Char → List (List Char)
  | _, line, [] => if line.isEmpty then [] else [line]
  | returned, line, c :: cs =>
    if returned && c = '\n' then splitLines false line cs
    else if isLineBreak c then line :: splitLines (c = '\r') [] cs
    else splitLines false (line ++ [c]) cs

/-! ### Lines that were put together -/

theorem splitLines_append {line : List Char} (h : ∀ c ∈ line, isLineBreak c = false)
    (before rest : List Char) (returned : Bool) (hfirst : line = [] → returned = false) :
    splitLines returned before (line ++ rest) = splitLines false (before ++ line) rest := by
  induction line generalizing before returned with
  | nil => simp [hfirst rfl]
  | cons c line ih =>
    obtain ⟨hc,hline⟩ := List.forall_mem_cons.mp h
    have hfeed : c ≠ '\n' := by
      rintro rfl
      cases hc
    rw [List.cons_append, splitLines, if_neg (by simp [hfeed]), if_neg (by simp [hc]),
      ih hline _ _ fun _ => rfl, List.append_assoc, List.singleton_append]

/-- How a line ends in a file, with a carriage return or without. -/
def newline (returned : Bool) : List Char := if returned then ['\r','\n'] else ['\n']

theorem splitLines_lines {lines : List (List Char)} (returned : Bool)
    (h : ∀ line ∈ lines, ∀ c ∈ line, isLineBreak c = false) :
    splitLines false [] (lines.flatMap (· ++ newline returned)) = lines := by
  induction lines with
  | nil => rfl
  | cons line lines ih =>
    obtain ⟨hline,hlines⟩ := List.forall_mem_cons.mp h
    have hrest := ih hlines
    rw [List.flatMap_cons, List.append_assoc, splitLines_append hline _ _ _ fun _ => rfl,
      List.nil_append]
    cases returned with
    | false => exact congrArg (line :: ·) hrest
    | true => exact congrArg (line :: ·) hrest

end Py
