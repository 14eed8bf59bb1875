import ManufacturingMas.Core.Config

/-! What the environment file gives its variables, and that a file written in the plain form is
read back as it was written. -/

namespace ManufacturingMas.Proofs.EnvironmentFile
open Py Config

/-- The value of a variable, unless it is blank. -/
def visible (environ : Environ) (key : String) : Option String :=
  (Assoc.get environ key).filter fun v => !isBlank v

/-- The values that lines give to one variable. -/
def given (lines : List (List Char)) (key : String) : List String :=
  lines.filterMap fun line => (assignment line).bind fun p => if p.1 = key then some p.2 else none

/-- The value a variable has after it has been offered some: the first that is not blank, its
own before all others; if all are blank, the last. -/
def resolve (own : Option String) (values : List String) : Option String :=
  match own.filter (fun v => !isBlank v) with
  | some v => some v
  | none =>
    match values.find? fun v => !isBlank v with
    | some v => some v
    | none => values.getLast?.or own

variable {environ environ' : Environ} {lines : List (List Char)} {line text : List Char}
  {key : String}

/-! ### One line -/

theorem setVariable_ok {val : String} (h : setVariable environ key val = .ok environ') :
    environ' = Assoc.set environ key val := by
  unfold setVariable at h
  split at h
  · cases h
  · cases h
    rfl

/-- A variable that is blank or not set takes the value it is offered. -/
theorem resolve_concat (own : Option String) (values : List String) (v : String) :
    resolve own (values ++ [v]) =
      if (resolve own values).all isBlank then some v else resolve own values := by
  unfold resolve
  cases hown : own.filter fun v => !isBlank v with
  | some w =>
    have hw : isBlank w = false := by simpa using (Option.filter_eq_some_iff.mp hown).2
    simp [hw]
  | none =>
    have hblank : own.all isBlank = true := by
      cases own with
      | none => rfl
      | some w =>
        rw [Option.filter_some] at hown
        split at hown
        · cases hown
        · rename_i hnot
          simpa using hnot
    dsimp only
    rw [List.find?_append]
    cases hfound : values.find? fun v => !isBlank v with
    | some w =>
      have hw : isBlank w = false := by simpa using List.find?_some hfound
      simp [hw]
    | none =>
      have hall : (values.getLast?.or own).all isBlank = true := by
        cases hlast : values.getLast? with
        | none => exact hblank
        | some w =>
          have hnot := List.find?_eq_none.mp hfound w (List.mem_of_getLast? hlast)
          simpa using hnot
      rw [hall, if_pos rfl, Option.none_or, List.find?_singleton]
      cases hv : isBlank v with
      | true => simp
      | false => simp

theorem resolve_nil (own : Option String) : resolve own [] = own := by
  cases own with
  | none => rfl
  | some v =>
    unfold resolve
    rw [Option.filter_some]
    cases isBlank v <;> rfl

theorem loadLine_get (h : loadLine environ line = .ok environ') (key : String) :
    Assoc.get environ' key = resolve (Assoc.get environ key) (given [line] key) := by
  unfold loadLine at h
  unfold given
  rw [List.filterMap_cons, List.filterMap_nil]
  cases hline : assignment line with
  | none =>
    rw [hline] at h
    cases h
    exact (resolve_nil _).symm
  | some p =>
    obtain ⟨other,val⟩ := p
    rw [hline] at h
    dsimp only at h ⊢
    by_cases hkey : other = key
    · subst hkey
      have hone : resolve (Assoc.get environ other) [val] =
          if (Assoc.get environ other).all isBlank then some val else Assoc.get environ other := by
        rw [← List.nil_append [val], resolve_concat, resolve_nil]
      simp only [Option.bind_some, ↓reduceIte]
      rw [hone]
      split at h
      · rename_i hunset
        rw [setVariable_ok h, Assoc.get_set_self, if_pos hunset]
      · rename_i hset
        cases h
        rw [if_neg hset]
    · simp only [Option.bind_some, if_neg hkey]
      rw [resolve_nil]
      split at h
      · rw [setVariable_ok h, Assoc.get_set_of_ne (Ne.symm hkey)]
      · cases h
        rfl

/-! ### All lines -/

theorem resolve_append (own : Option String) (values more : List String) :
    resolve own (values ++ more) = resolve (resolve own values) more := by
  induction more using List.reverseRecOn with
  | nil => rw [List.append_nil, resolve_nil]
  | append_singleton more v ih => rw [← List.append_assoc, resolve_concat, resolve_concat, ih]

theorem given_cons (line : List Char) (lines : List (List Char)) (key : String) :
    given (line :: lines) key = given [line] key ++ given lines key :=
  List.filterMap_append (l := [line])

theorem loadLines_get (h : lines.foldlM loadLine environ = .ok environ') (key : String) :
    Assoc.get environ' key = resolve (Assoc.get environ key) (given lines key) := by
  induction lines generalizing environ with
  | nil =>
    cases h
    exact (resolve_nil _).symm
  | cons line lines ih =>
    rw [List.foldlM_cons] at h
    obtain ⟨next,hline,hlines⟩ := Traverse.bind_ok_iff.mp h
    rw [given_cons, resolve_append, ih hlines, loadLine_get hline]

theorem visible_resolve (own : Option String) (values : List String) :
    (resolve own values).filter (fun v => !isBlank v) =
      (own.filter fun v => !isBlank v).or (values.find? fun v => !isBlank v) := by
  unfold resolve
  cases hown : own.filter fun v => !isBlank v with
  | some v =>
    have hv : isBlank v = false := by simpa using (Option.filter_eq_some_iff.mp hown).2
    simp [hv]
  | none =>
    cases hfound : values.find? fun v => !isBlank v with
    | some v =>
      have hv : isBlank v = false := by simpa using List.find?_some hfound
      simp [hv]
    | none =>
      cases hlast : values.getLast? with
      | none => simpa using hown
      | some v =>
        have hnot := List.find?_eq_none.mp hfound v (List.mem_of_getLast? hlast)
        simpa using hnot

/-- The second environment has a value that is not blank wherever the first has one. -/
def Covers (first second : Environ) : Prop :=
  ∀ key, (Assoc.get second key).all isBlank = true → (Assoc.get first key).all isBlank = true

/-- What is refused is refused whatever the other variables are. -/
theorem setVariable_other {key val : String} (h : setVariable environ key val = .ok environ')
    (other : Environ) : setVariable other key val = .ok (Assoc.set other key val) := by
  unfold setVariable at h ⊢
  split at h
  · cases h
  · rename_i hnull
    rw [if_neg hnull]

theorem loadLine_covers {other : Environ} (h : loadLine environ line = .ok environ')
    (hcovers : Covers environ other) :
    ∃ other', loadLine other line = .ok other' ∧ Covers environ' other' := by
  unfold loadLine at h ⊢
  cases hline : assignment line with
  | none =>
    rw [hline] at h
    cases h
    exact ⟨other,rfl,hcovers⟩
  | some p =>
    obtain ⟨key,val⟩ := p
    rw [hline] at h
    dsimp only at h ⊢
    by_cases hother : (Assoc.get other key).all isBlank = true
    · -- the variable is unset in both, so that both are given the value
      rw [if_pos (hcovers key hother)] at h
      rw [if_pos hother, setVariable_other h other, setVariable_ok h]
      refine ⟨_,rfl,fun k hk => ?_⟩
      by_cases hsame : k = key
      · subst hsame
        rw [Assoc.get_set_self] at hk ⊢
        exact hk
      · rw [Assoc.get_set_of_ne hsame] at hk ⊢
        exact hcovers k hk
    · rw [if_neg hother]
      refine ⟨other,rfl,fun k hk => ?_⟩
      have hne : k ≠ key := by
        rintro rfl
        exact hother hk
      split at h
      · rw [setVariable_ok h, Assoc.get_set_of_ne hne]
        exact hcovers k hk
      · cases h
        exact hcovers k hk

theorem loadLines_covers {other : Environ} (h : lines.foldlM loadLine environ = .ok environ')
    (hcovers : Covers environ other) : ∃ other', lines.foldlM loadLine other = .ok other' := by
  induction lines generalizing environ other with
  | nil => exact ⟨other,rfl⟩
  | cons line lines ih =>
    rw [List.foldlM_cons] at h
    obtain ⟨next,hline,hlines⟩ := Traverse.bind_ok_iff.mp h
    obtain ⟨other',hother,hcovers'⟩ := loadLine_covers hline hcovers
    obtain ⟨last,hlast⟩ := ih hlines hcovers'
    rw [List.foldlM_cons]
    exact ⟨last,Traverse.bind_ok_iff.mpr ⟨other',hother,hlast⟩⟩

theorem resolve_resolve (own : Option String) (values : List String) :
    resolve (resolve own values) values = resolve own values := by
  cases hown : (resolve own values).filter fun v => !isBlank v with
  | some v =>
    have hsome := (Option.filter_eq_some_iff.mp hown).1
    rw [hsome] at hown ⊢
    unfold resolve
    rw [hown]
  | none =>
    -- nothing offered is better than blank, and the last offer was taken before
    have hnone := visible_resolve own values
    rw [hown] at hnone
    obtain ⟨hfirst,hfound⟩ := Option.or_eq_none_iff.mp hnone.symm
    unfold resolve at hown ⊢
    rw [hfirst, hfound] at hown ⊢
    dsimp only at hown ⊢
    rw [hown]
    dsimp only
    cases values.getLast? <;> rfl

/-- After the file has been loaded, a variable that was not blank has kept its value, and any
other has the first value that the file gives it and that is not blank, if there is one.
Loading the file once more succeeds and changes no variable. -/
theorem dotenv_visible (h : loadDotenv environ text = .ok environ') :
    (∀ key, visible environ' key =
      (visible environ key).or ((given (fileLines text) key).find? fun v => !isBlank v)) ∧
    ∃ again, loadDotenv environ' text = .ok again ∧
      ∀ key, Assoc.get again key = Assoc.get environ' key := by
  have hget := fun key => loadLines_get h key
  constructor
  · intro key
    unfold visible
    rw [hget key]
    exact visible_resolve _ _
  · have hcovers : Covers environ environ' := by
      intro key hblank
      have hvisible := visible_resolve (Assoc.get environ key) (given (fileLines text) key)
      rw [← hget key] at hvisible
      cases hvalue : Assoc.get environ key with
      | none => rfl
      | some v =>
        by_contra hnot
        have hv : isBlank v = false := by simpa using hnot
        rw [hvalue, Option.filter_some, if_pos (by simp [hv]), Option.some_or] at hvisible
        obtain ⟨hsome,_⟩ := Option.filter_eq_some_iff.mp hvisible
        rw [hsome] at hblank
        simp [hv] at hblank
    obtain ⟨again,hagain⟩ := loadLines_covers h hcovers
    refine ⟨again,hagain,fun key => ?_⟩
    rw [loadLines_get hagain, hget key]
    exact resolve_resolve _ _

theorem dotenv_visible_blank :
    visible [("A","1"),("B","3")] "A" = some "1" ∧
    ∃ again, loadDotenv [("A","1"),("B","3")] "A=\nA='1'\r\n#A=2\nB=4".toList = .ok again ∧
      ∀ key, Assoc.get again key = Assoc.get [("A","1"),("B","3")] key := by
  have hload : loadDotenv [("A"," "),("B","3")] "A=\nA='1'\r\n#A=2\nB=4".toList =
      .ok [("A","1"),("B","3")] := by decide +kernel
  obtain ⟨hvisible,hagain⟩ := dotenv_visible hload
  refine ⟨?_,hagain⟩
  rw [hvisible]
  decide +kernel

/-! ### A file as it is written -/

/-- A line of a file: a remark, or a variable with its value, in quotation marks or not. -/
inductive Item
  | remark (text : List Char)
  | entry (quoted : Bool) (key val : String)

def quote (quoted : Bool) (val : List Char) : List Char :=
  if quoted then doubleQuote :: val ++ [doubleQuote] else val

def Item.shown : Item → List Char
  | .remark text => '#' :: text
  | .entry quoted key val => key.toList ++ '=' :: quote quoted val.toList

def Item.assigned : Item → Option (String × String)
  | .remark _ => none
  | .entry _ key val => some (key,val)

/-- A character that can stand in a line and in a variable. -/
def Ordinary (c : Char) : Prop := isLineBreak c = false ∧ c ≠ Char.ofNat 0

/-- A variable that can be written down: white space around the value is kept only in quotation
marks, and marks around the value are never kept. -/
structure Writable (quoted : Bool) (key val : List Char) : Prop where
  key_some : key ≠ []
  key_tight : Tight isWhitespace key
  key_first : ∀ c ∈ key.head?, c ≠ '#' ∧ c ≠ Char.ofNat 0xfeff
  key_sign : '=' ∉ key
  key_ordinary : ∀ c ∈ key, Ordinary c
  val_ordinary : ∀ c ∈ val, Ordinary c
  val_tight : quoted = true ∨ Tight isWhitespace val
  val_double : Tight (· = doubleQuote) val
  val_single : Tight (· = singleQuote) val

def Item.Writable : Item → Prop
  | .remark text => ∀ c ∈ text, isLineBreak c = false
  | .entry quoted key val => EnvironmentFile.Writable quoted key.toList val.toList

/-- A file of such lines. -/
def written (returned : Bool) (items : List Item) : List Char :=
  (items.map Item.shown).flatMap (· ++ newline returned)

/-- A text that begins with something that is not strip still begins with it. -/
theorem stripBy_head {p : Char → Bool} {c : Char} (hc : p c = false) (s : List Char) :
    (stripBy p (c :: s)).head? = some c := by
  have hleft : (c :: s).dropWhile p = c :: s := List.dropWhile_cons_of_neg (by simp [hc])
  unfold stripBy
  rw [hleft]
  have hne : (c :: s).rdropWhile p ≠ [] := by
    intro hnil
    have hall := List.rdropWhile_eq_nil_iff.mp hnil c List.mem_cons_self
    rw [hc] at hall
    cases hall
  obtain ⟨rest,hrest⟩ := List.rdropWhile_prefix (p := p) (l := c :: s)
  cases hleft : (c :: s).rdropWhile p with
  | nil => exact absurd hleft hne
  | cons d ds =>
    rw [hleft] at hrest
    cases hrest
    rfl

theorem stripBy_quoted {val : List Char} (h : Tight (· = doubleQuote) val) :
    stripBy (· = doubleQuote) (doubleQuote :: val ++ [doubleQuote]) = val := by
  unfold stripBy
  rw [List.cons_append, List.dropWhile_cons_of_pos (by simp)]
  cases val with
  | nil => rfl
  | cons c cs =>
    have hc : (decide (c = doubleQuote)) = false := h.1 c rfl
    rw [List.cons_append, List.dropWhile_cons_of_neg (by simp [hc]), ← List.cons_append,
      List.rdropWhile_concat_pos _ _ _ (by simp)]
    have htight := stripBy_tight h
    unfold stripBy at htight
    rwa [List.dropWhile_cons_of_neg (by simp [hc])] at htight

theorem quote_tight {quoted : Bool} {key val : List Char} (h : Writable quoted key val) :
    Tight isWhitespace (quote quoted val) := by
  cases quoted with
  | true =>
    constructor
    · rintro c ⟨⟩
      rfl
    · intro c hc
      unfold quote at hc
      rw [if_pos rfl, List.getLast?_concat] at hc
      cases hc
      rfl
  | false => exact h.val_tight.resolve_left Bool.false_ne_true

/-- What is read from the value of a line. -/
theorem quote_stripped {quoted : Bool} {key val : List Char} (h : Writable quoted key val) :
    stripBy (· = singleQuote) (stripBy (· = doubleQuote) (strip (quote quoted val))) = val := by
  unfold strip
  rw [stripBy_tight (quote_tight h)]
  cases quoted with
  | true =>
    unfold quote
    rw [if_pos rfl, stripBy_quoted h.val_double, stripBy_tight h.val_single]
  | false =>
    unfold quote
    rw [if_neg Bool.false_ne_true, stripBy_tight h.val_double, stripBy_tight h.val_single]

theorem line_tight {quoted : Bool} {key val : List Char} (h : Writable quoted key val) :
    Tight isWhitespace (key ++ '=' :: quote quoted val) := by
  constructor
  · intro c hc
    rw [List.head?_append_of_ne_nil _ h.key_some] at hc
    exact h.key_tight.1 c hc
  · intro c hc
    rw [List.getLast?_append_of_ne_nil _ (List.cons_ne_nil _ _)] at hc
    cases hquote : quote quoted val with
    | nil =>
      rw [hquote] at hc
      cases hc
      rfl
    | cons d ds =>
      rw [hquote, List.getLast?_cons_cons, ← hquote] at hc
      exact (quote_tight h).2 c hc

/-- A line gives the variable that was written in it. -/
theorem assignment_line {item : Item} (h : item.Writable) :
    assignment item.shown = item.assigned := by
  cases item with
  | remark text =>
    have hhead := stripBy_head (p := isWhitespace) (c := '#') rfl text
    unfold assignment Item.shown Item.assigned strip
    simp [hhead]
  | entry quoted key val =>
    change Writable quoted key.toList val.toList at h
    obtain ⟨c,cs,hkey⟩ := List.exists_cons_of_ne_nil h.key_some
    have hmark : c ≠ '#' := (h.key_first c (by rw [hkey]; rfl)).1
    have hsign : ∀ d ∈ key.toList, decide (d ≠ '=') = true := by
      intro d hd
      rw [decide_eq_true_iff]
      rintro rfl
      exact h.key_sign hd
    have hline : strip (Item.entry quoted key val).shown =
        key.toList ++ '=' :: quote quoted val.toList := stripBy_tight (line_tight h)
    have htake : (key.toList ++ '=' :: quote quoted val.toList).takeWhile (· ≠ '=') =
        key.toList := by
      rw [List.takeWhile_append_of_pos hsign, List.takeWhile_cons_of_neg (by simp),
        List.append_nil]
    have hdrop : ((key.toList ++ '=' :: quote quoted val.toList).dropWhile (· ≠ '=')).drop 1 =
        quote quoted val.toList := by
      rw [List.dropWhile_append_of_pos hsign, List.dropWhile_cons_of_neg (by simp)]
      rfl
    have hstripped : strip key.toList = key.toList := stripBy_tight h.key_tight
    unfold assignment
    dsimp only
    rw [hline, htake, hdrop, hstripped, quote_stripped h]
    rw [if_neg (by simp [hkey, hmark]), if_neg (by simp), if_neg (by simp [hkey])]
    rw [String.ofList_toList, String.ofList_toList]
    rfl

theorem line_breaks {item : Item} (h : item.Writable) :
    ∀ c ∈ item.shown, isLineBreak c = false := by
  cases item with
  | remark text =>
    intro c hc
    obtain rfl | hc := List.mem_cons.mp hc
    · rfl
    · exact h c hc
  | entry quoted key val =>
    change Writable quoted key.toList val.toList at h
    intro c hc
    obtain hc | hc := List.mem_append.mp hc
    · exact (h.key_ordinary c hc).1
    obtain rfl | hc := List.mem_cons.mp hc
    · rfl
    unfold quote at hc
    cases quoted with
    | true =>
      rw [if_pos rfl, List.cons_append] at hc
      obtain rfl | hc := List.mem_cons.mp hc
      · rfl
      obtain hc | hc := List.mem_append.mp hc
      · exact (h.val_ordinary c hc).1
      · cases List.mem_singleton.mp hc
        rfl
    | false => exact (h.val_ordinary c hc).1

theorem withoutMark_written {items : List Item} (h : ∀ item ∈ items, item.Writable)
    (returned : Bool) : withoutMark (written returned items) = written returned items := by
  unfold written
  cases items with
  | nil => rfl
  | cons item items =>
    have hitem := h item List.mem_cons_self
    rw [List.map_cons, List.flatMap_cons]
    cases item with
    | remark text => rfl
    | entry quoted key val =>
      change Writable quoted key.toList val.toList at hitem
      obtain ⟨c,cs,hkey⟩ := List.exists_cons_of_ne_nil hitem.key_some
      have hmark := (hitem.key_first c (by rw [hkey]; rfl)).2
      have hshown : (Item.entry quoted key val).shown =
          c :: (cs ++ '=' :: quote quoted val.toList) := by
        change key.toList ++ '=' :: quote quoted val.toList = _
        rw [hkey, List.cons_append]
      rw [hshown]
      exact if_neg hmark

/-! ### What is read from it -/

theorem set_new {environ : Environ} {key : String} (h : key ∉ environ.map Prod.fst)
    (val : String) : Assoc.set environ key val = environ ++ [(key,val)] := by
  induction environ with
  | nil => rfl
  | cons p environ ih =>
    obtain ⟨k,v⟩ := p
    rw [List.map_cons, List.mem_cons, not_or] at h
    unfold Assoc.set
    rw [if_neg (Ne.symm h.1), ih h.2]
    rfl

theorem get_new {environ : Environ} {key : String} (h : key ∉ environ.map Prod.fst) :
    Assoc.get environ key = none := by
  cases hget : Assoc.get environ key with
  | none => rfl
  | some v => exact absurd (List.mem_map_of_mem (f := Prod.fst) (Assoc.mem_of_get hget)) h

theorem loadLine_entry {quoted : Bool} {key val : String}
    (h : (Item.entry quoted key val).Writable) (hnew : key ∉ environ.map Prod.fst) :
    loadLine environ (Item.entry quoted key val).shown = .ok (environ ++ [(key,val)]) := by
  have hnull : ¬(Char.ofNat 0 ∈ key.toList ∨ Char.ofNat 0 ∈ val.toList) := by
    rintro (hkey | hval)
    · exact (h.key_ordinary _ hkey).2 rfl
    · exact (h.val_ordinary _ hval).2 rfl
  unfold loadLine
  rw [assignment_line h]
  dsimp only [Item.assigned]
  rw [get_new hnew, Option.all_none, if_pos rfl]
  unfold setVariable
  rw [if_neg hnull, set_new hnew]

theorem loadLines_written {items : List Item} (h : ∀ item ∈ items, item.Writable)
    (hnew : (environ.map Prod.fst ++ (items.filterMap Item.assigned).map Prod.fst).Nodup) :
    (items.map Item.shown).foldlM loadLine environ =
      .ok (environ ++ items.filterMap Item.assigned) := by
  induction items generalizing environ with
  | nil => simp [pure, Except.pure]
  | cons item items ih =>
    obtain ⟨hitem,hitems⟩ := List.forall_mem_cons.mp h
    rw [List.map_cons, List.foldlM_cons]
    cases item with
    | remark text =>
      have hline : loadLine environ (Item.remark text).shown = .ok environ := by
        unfold loadLine
        rw [assignment_line hitem]
        rfl
      rw [hline]
      exact ih hitems hnew
    | entry quoted key val =>
      have hentry : (Item.entry quoted key val :: items).filterMap Item.assigned =
          (key,val) :: items.filterMap Item.assigned := rfl
      rw [hentry, List.map_cons] at hnew
      have hkey : key ∉ environ.map Prod.fst := by
        intro hmem
        exact (List.nodup_append.mp hnew).2.2 key hmem key List.mem_cons_self rfl
      rw [loadLine_entry hitem hkey, hentry]
      have hrest : (items.map Item.shown).foldlM loadLine (environ ++ [(key,val)]) =
          .ok (environ ++ [(key,val)] ++ items.filterMap Item.assigned) := by
        apply ih hitems
        rw [List.map_append, List.append_assoc]
        exact hnew
      rw [List.append_assoc] at hrest
      exact hrest

/-- A file of remarks and of different variables that the process does not have adds exactly
the variables that were written in it, in their order. -/
theorem read_written {items : List Item} (h : ∀ item ∈ items, item.Writable)
    (hnew : (environ.map Prod.fst ++ (items.filterMap Item.assigned).map Prod.fst).Nodup)
    (returned : Bool) :
    loadDotenv environ (written returned items) =
      .ok (environ ++ items.filterMap Item.assigned) := by
  have hlines : fileLines (written returned items) = items.map Item.shown := by
    unfold fileLines
    rw [withoutMark_written h]
    apply splitLines_lines
    intro line hline
    obtain ⟨item,hmem,rfl⟩ := List.mem_map.mp hline
    exact line_breaks (h item hmem)
  unfold loadDotenv
  rw [hlines]
  exact loadLines_written h hnew

theorem read_written_quoted :
    loadDotenv [("A","1")]
      (written true [.remark [],.entry true "B" " ",.entry false "C" ""]) =
    .ok [("A","1"),("B"," "),("C","")] := by
  have hwritable : ∀ item ∈ ([.remark [],.entry true "B" " ",.entry false "C" ""] : List Item),
      item.Writable := by
    intro item hitem
    simp only [List.mem_cons, List.not_mem_nil, or_false] at hitem
    obtain rfl | rfl | rfl := hitem
    · exact fun c hc => absurd hc List.not_mem_nil
    · change Writable true ['B'] [' ']
      exact {
        key_some := by decide
        key_tight := ⟨by rintro c ⟨⟩; rfl,by rintro c ⟨⟩; rfl⟩
        key_first := by rintro c ⟨⟩; decide
        key_sign := by decide
        key_ordinary := by simp [Ordinary, isLineBreak]
        val_ordinary := by simp [Ordinary, isLineBreak]
        val_tight := .inl rfl
        val_double := ⟨by rintro c ⟨⟩; rfl,by rintro c ⟨⟩; rfl⟩
        val_single := ⟨by rintro c ⟨⟩; rfl,by rintro c ⟨⟩; rfl⟩ }
    · change Writable false ['C'] []
      exact {
        key_some := by decide
        key_tight := ⟨by rintro c ⟨⟩; rfl,by rintro c ⟨⟩; rfl⟩
        key_first := by rintro c ⟨⟩; decide
        key_sign := by decide
        key_ordinary := by simp [Ordinary, isLineBreak]
        val_ordinary := fun c hc => absurd hc List.not_mem_nil
        val_tight := .inr ⟨nofun,nofun⟩
        val_double := ⟨nofun,nofun⟩
        val_single := ⟨nofun,nofun⟩ }
  exact read_written hwritable (by decide) true

end ManufacturingMas.Proofs.EnvironmentFile
