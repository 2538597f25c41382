import TabularAudit.Text.Ranges

/-! Blank characters, and texts trimmed of them. -/

namespace TabularAudit.Text

def blankRanges : Ranges :=
  [(9,13), (28,32), (133,133), (160,160), (5760,5760), (8192,8202), (8232,8233), (8239,8239),
    (8287,8287), (12288,12288)]

def isBlank (c : Char) : Bool := blankRanges.has c.toNat

theorem isBlank_of_isWhitespace {c : Char} (h : c.isWhitespace = true) : isBlank c = true := by
  simp only [Char.isWhitespace, Bool.or_eq_true, decide_eq_true_eq] at h
  rcases h with ((h | h) | h) | h <;> subst h <;> decide

theorem forall_of_isBlank {p : Char → Prop} (all : ∀ n ∈ blankRanges.codes, p (Char.ofNat n)) {c : Char}
    (blank : isBlank c = true) : p c := by
  have here := all c.toNat (Ranges.mem_codes_of_has blank)
  rwa [Char.ofNat_toNat] at here

def stripStart (cs : List Char) : List Char := cs.dropWhile isBlank
def stripEnd (cs : List Char) : List Char := (cs.reverse.dropWhile isBlank).reverse
def strip (cs : List Char) : List Char := stripEnd (stripStart cs)

def trimStart (s : String) : String := String.ofList (stripStart s.toList)
def trimEnd (s : String) : String := String.ofList (stripEnd s.toList)
def trim (s : String) : String := String.ofList (strip s.toList)

theorem stripStart_cons_of_isBlank {c : Char} (cs : List Char) (h : isBlank c = true) :
    stripStart (c :: cs) = stripStart cs := by
  simp [stripStart, h]

theorem stripStart_eq_nil_iff {cs : List Char} : stripStart cs = [] ↔ ∀ c ∈ cs, isBlank c = true := by
  induction cs with
  | nil => simp [stripStart]
  | cons c cs ih =>
      by_cases h : isBlank c = true
      · rw [stripStart_cons_of_isBlank cs h, ih]
        simp [h]
      · simp [stripStart, h]

theorem stripEnd_append_of_isBlank (cs : List Char) {blanks : List Char} (blank : ∀ c ∈ blanks, isBlank c = true) :
    stripEnd (cs ++ blanks) = stripEnd cs := by
  rw [stripEnd, List.reverse_append, List.dropWhile_append_of_pos, stripEnd]
  simpa using blank

theorem ink_of_class {p : Char → Bool} (apart : ∀ n ∈ blankRanges.codes, p (Char.ofNat n) = false) {c : Char}
    (holds : p c = true) : isBlank c = false := by
  rw [Bool.eq_false_iff]
  intro blank
  rw [forall_of_isBlank (p := fun c => p c = false) apart blank] at holds
  cases holds

def EndsInked (cs : List Char) : Prop := ∀ c ∈ cs.getLast?, isBlank c = false

theorem endsInked_of_forall {cs : List Char} (ink : ∀ c ∈ cs, isBlank c = false) : EndsInked cs :=
  fun c last => ink c (List.mem_of_getLast? last)

theorem EndsInked.of_append (front : List Char) {rest : List Char} (inked : EndsInked (front ++ rest)) :
    EndsInked rest := by
  intro c last
  refine inked c ?_
  rw [Option.mem_def] at last ⊢
  rw [List.getLast?_append, last, Option.some_or]

theorem EndsInked.stripEnd {cs : List Char} (inked : EndsInked cs) : stripEnd cs = cs := by
  rcases List.eq_nil_or_concat cs with rfl | ⟨front, c, rfl⟩
  · rfl
  · have ink := inked c (by simp)
    simp [Text.stripEnd, ink]

theorem endsInked_stripEnd (cs : List Char) : EndsInked (stripEnd cs) := by
  intro c last
  have stopped := List.head?_dropWhile_not isBlank cs.reverse
  rw [stripEnd, Option.mem_def, List.getLast?_reverse] at last
  rw [last] at stopped
  exact stopped

theorem strip_append_of_isBlank (cs : List Char) {blanks : List Char} (blank : ∀ c ∈ blanks, isBlank c = true) :
    strip (cs ++ blanks) = strip cs := by
  have none : blanks.dropWhile isBlank = [] := stripStart_eq_nil_iff.2 blank
  rw [strip, strip, stripStart, stripStart, List.dropWhile_append]
  split
  · next all => rw [List.isEmpty_iff.1 all, none]
  · exact stripEnd_append_of_isBlank _ blank

theorem strip_of_ends {c d : Char} (cs : List Char) (first : isBlank c = false) (last : isBlank d = false) :
    strip (c :: cs ++ [d]) = c :: cs ++ [d] := by
  simp [strip, stripStart, stripEnd, first, last]

theorem exists_blanks (cs : List Char) : ∃ blanks, (∀ c ∈ blanks, isBlank c = true) ∧ cs = stripEnd cs ++ blanks := by
  refine ⟨(cs.reverse.takeWhile isBlank).reverse, ?_, ?_⟩
  · intro c member
    exact List.all_eq_true.1 List.all_takeWhile c (List.mem_reverse.1 member)
  · rw [stripEnd, ← List.reverse_append, List.takeWhile_append_dropWhile, List.reverse_reverse]

end TabularAudit.Text
