import TabularAudit.Proofs.Lexing.Cover
import TabularAudit.Proofs.Lexing.Spacing
import TabularAudit.Proofs.Parsing.Recovery

/-!
Texts between parentheses. If all quotes of a text are closed, what stands around it changes neither its normal form nor
its tokens, but for where they stand.
-/

namespace TabularAudit.Expr

section
variable {start length : Nat} {sign : Bool} {c : Char} {cs tail : List Char} {l : Lexeme}

def ReadsOn (tail : List Char) (start : Nat) (sign : Bool) (cs : List Char) : Prop :=
  tokensFrom start sign 0 (cs ++ tail) =
    (tokensFrom start sign 0 cs).bind fun ts => (tokensFrom (start + cs.length) true 0 tail).map (ts ++ ·)

theorem ReadsOn.cons (ink : Text.isBlank c = false) (read : lexemeAt sign c cs = .ok (l, length))
    (whole : lexemeAt sign c (cs ++ tail) = .ok (l, length))
    (dropped : (cs ++ tail).drop (length - 1) = cs.drop (length - 1) ++ tail)
    (later : ReadsOn tail (start + 1 + (length - 1)) l.expectsValue (cs.drop (length - 1))) :
    ReadsOn tail start sign (c :: cs) := by
  obtain ⟨source, rest, same, size, -⟩ := takes_of_lexemeAt ink read
  have size : length + rest.length = cs.length + 1 := by
    rw [← size, ← List.length_append, ← same, List.length_cons]
  have stop : start + 1 + (length - 1) + (cs.drop (length - 1)).length = start + (c :: cs).length := by
    rw [List.length_drop, List.length_cons]
    omega
  rw [ReadsOn, stop] at later
  rw [ReadsOn, List.cons_append, tokensFrom_cons ink read, tokensFrom_cons ink whole,
    tokensFrom_skip _ _ _ (cs ++ tail), tokensFrom_skip _ _ _ cs, dropped, later]
  cases tokensFrom (start + 1 + (length - 1)) l.expectsValue 0 (cs.drop (length - 1)) with
  | error fault => rfl
  | ok ts => cases tokensFrom (start + (c :: cs).length) true 0 tail <;> rfl

/-- Behind a text whose quotes are closed, another one is read as on its own. -/
theorem tokensFrom_append (free : BeginsWithout (fun c => isLink c || isTwin c) tail)
    (alone : ∀ start sign, tokensFrom start sign 0 tail = tokensFrom start true 0 tail)
    (closed : unquoted? (.outside false) cs ≠ none) : ReadsOn tail start sign cs := by
  induction sign, cs using lexing_induction generalizing start with
  | nil sign =>
      rw [ReadsOn, List.nil_append, alone, tokensFrom]
      change _ = (tokensFrom start true 0 tail).map id
      cases tokensFrom start true 0 tail <;> rfl
  | blank sign c cs blank ih =>
      rw [unquoted?_cons (unquoted_of_isBlank blank), ne_eq, Option.map_eq_none_iff] at closed
      rw [ReadsOn, List.cons_append, tokensFrom_blank blank, tokensFrom_blank blank, ih closed, List.length_cons,
        Nat.add_right_comm, Nat.add_assoc]
  | and sign cs ih =>
      rw [unquoted?_cons rfl, unquoted?_cons rfl, ne_eq, Option.map_eq_none_iff, Option.map_eq_none_iff] at closed
      have read : ∀ us, lexemeAt sign '&' ('&' :: us) = .ok (.conjunction "&&", 2) := fun _ => rfl
      exact .cons (by decide) (read cs) (read (cs ++ tail)) rfl (ih closed)
  | or sign cs ih =>
      rw [unquoted?_cons rfl, unquoted?_cons rfl, ne_eq, Option.map_eq_none_iff, Option.map_eq_none_iff] at closed
      have read : ∀ us, lexemeAt sign '|' ('|' :: us) = .ok (.disjunction "||", 2) := fun _ => rfl
      exact .cons (by decide) (read cs) (read (cs ++ tail)) rfl (ih closed)
  | string sign c body rest quotes closes ih =>
      rw [unquoted?_string quotes closes, ne_eq, Option.map_eq_none_iff] at closed
      have whole := lexemeAt_string quotes closes sign (rest ++ tail)
      rw [← List.append_assoc] at whole
      refine .cons (ink_of_isQuote quotes) (lexemeAt_string quotes closes sign rest) whole ?_ ?_
      · rw [Nat.add_sub_cancel, List.append_assoc, List.drop_left, List.drop_left]
      · rw [Nat.add_sub_cancel, List.drop_left]
        exact ih closed
  | unclosed sign c cs quotes never => exact absurd (unquoted?_unclosed quotes never) closed
  | other sign c cs l length ink unquoted single read ih =>
      obtain ⟨same, rest⟩ := lexemeAt_append free sign unquoted single
      rw [unquoted?_lexeme unquoted read, ne_eq, Option.map_eq_none_iff] at closed
      exact .cons ink read (same.symm.trans read) (rest l length read) (ih closed)
  | fault sign c cs fault ink unquoted single read =>
      obtain ⟨same, -⟩ := lexemeAt_append free sign unquoted single
      rw [ReadsOn, List.cons_append, tokensFrom_fault ink (same.symm.trans read), tokensFrom_fault ink read]
      rfl

theorem lexemes_append (free : BeginsWithout (fun c => isLink c || isTwin c) tail)
    (alone : ∀ start sign, tokensFrom start sign 0 tail = tokensFrom start true 0 tail)
    (closed : unquoted? (.outside false) cs ≠ none) :
    lexemes sign (cs ++ tail) = (lexemes sign cs).bind fun ls => (lexemes true tail).map (ls ++ ·) := by
  have tokens : ReadsOn tail 0 sign cs := tokensFrom_append free alone closed
  rw [lexemes_eq 0 sign (cs ++ tail), lexemes_eq 0 sign cs, lexemes_eq (0 + cs.length) true tail, tokens]
  cases tokensFrom 0 sign 0 cs with
  | error fault => rfl
  | ok ts =>
      cases tokensFrom (0 + cs.length) true 0 tail with
      | error fault => rfl
      | ok us => simp [Except.map, Except.bind]

theorem tokensFrom_between {left right : List Char} {ts : List Token} (read : tokensFrom 0 true 0 cs = .ok ts)
    (closed : unquoted? (.outside false) cs ≠ none) (blankLeft : ∀ c ∈ left, Text.isBlank c = true)
    (blankRight : ∀ c ∈ right, Text.isBlank c = true) (start : Nat) :
    tokensFrom start true 0 (left ++ (cs ++ right)) = .ok (ts.map (Token.moved (start + left.length))) := by
  have free : BeginsWithout (fun c => isLink c || isTwin c) right := by
    intro c head
    have first := blankRight c (List.mem_of_mem_head? head)
    simp [isLink_of_isBlank first, isTwin_of_isBlank first]
  have none : ∀ start sign, tokensFrom start sign 0 right = .ok [] := by
    intro start sign
    have passed := tokensFrom_blanks blankRight start sign []
    rwa [List.append_nil, tokensFrom] at passed
  have on : ReadsOn right (start + left.length) true cs :=
    tokensFrom_append free (fun start sign => by rw [none, none]) closed
  have moved := tokensFrom_moved 0 (start + left.length) true 0 cs
  rw [Nat.zero_add, read] at moved
  rw [tokensFrom_blanks blankLeft, on, moved, none]
  exact congrArg Except.ok (List.append_nil _)

theorem tokensFrom_opening (start : Nat) (sign : Bool) (cs : List Char) :
    tokensFrom start sign 0 ('(' :: cs) = (tokensFrom (start + 1) true 0 cs).map (⟨.opening, start⟩ :: ·) := by
  have read : lexemeAt sign '(' cs = .ok (.opening, 1) := rfl
  exact tokensFrom_cons (by decide) read start

theorem tokensFrom_closing (start : Nat) (sign : Bool) (cs : List Char) :
    tokensFrom start sign 0 (')' :: cs) = (tokensFrom (start + 1) false 0 cs).map (⟨.closing, start⟩ :: ·) := by
  have read : lexemeAt sign ')' cs = .ok (.closing, 1) := rfl
  exact tokensFrom_cons (by decide) read start

theorem tokensFrom_group (closed : unquoted? (.outside false) cs ≠ none) (start : Nat) (sign : Bool)
    (tail : List Char) :
    tokensFrom start sign 0 ('(' :: (cs ++ ')' :: tail)) =
      (tokensFrom (start + 1) true 0 cs).bind fun ts =>
        (tokensFrom (start + 1 + cs.length + 1) false 0 tail).map (group start (start + 1 + cs.length) ts ++ ·) := by
  have free : BeginsWithout (fun c => isLink c || isTwin c) (')' :: tail) := (beginsWithout_cons _ _ _).2 (by decide)
  have alone : ∀ start sign, tokensFrom start sign 0 (')' :: tail) = tokensFrom start true 0 (')' :: tail) :=
    fun start sign => by rw [tokensFrom_closing, tokensFrom_closing]
  have inside : ReadsOn (')' :: tail) (start + 1) true cs := tokensFrom_append free alone closed
  rw [tokensFrom_opening, inside, tokensFrom_closing]
  cases tokensFrom (start + 1) true 0 cs with
  | error fault => rfl
  | ok ts =>
      cases tokensFrom (start + 1 + cs.length + 1) false 0 tail with
      | error fault => rfl
      | ok us => simp [Except.map, Except.bind, group]

theorem lexemes_group (closed : unquoted? (.outside false) cs ≠ none) (sign : Bool) (tail : List Char) :
    lexemes sign ('(' :: (cs ++ ')' :: tail)) =
      (lexemes true cs).bind fun ls => (lexemes false tail).map fun ms => .opening :: (ls ++ .closing :: ms) := by
  rw [lexemes_eq 0 sign ('(' :: (cs ++ ')' :: tail)), lexemes_eq (0 + 1) true cs,
    lexemes_eq (0 + 1 + cs.length + 1) false tail, tokensFrom_group closed]
  cases tokensFrom (0 + 1) true 0 cs with
  | error fault => rfl
  | ok ts =>
      cases tokensFrom (0 + 1 + cs.length + 1) false 0 tail with
      | error fault => rfl
      | ok us => simp [Except.map, Except.bind, group]

theorem closed_cons {x : Except Fault (List Lexeme)} {ls : List Lexeme} {closed : Prop} (shut : l.isOpen = false)
    (later : ∀ {ms}, x = .ok ms → (closed ↔ ∀ m ∈ ms, m.isOpen = false)) (read : x.map (l :: ·) = .ok ls) :
    closed ↔ ∀ m ∈ ls, m.isOpen = false := by
  cases x with
  | error fault => cases read
  | ok ms =>
      cases read
      rw [later rfl, List.forall_mem_cons]
      exact (and_iff_right shut).symm

theorem closed_iff {ls : List Lexeme} (read : lexemes sign cs = .ok ls) :
    unquoted? (.outside false) cs ≠ none ↔ ∀ l ∈ ls, l.isOpen = false := by
  induction sign, cs using lexing_induction generalizing ls with
  | nil sign =>
      rw [lexemes] at read
      cases read
      simp [unquoted?]
  | blank sign c cs blank ih =>
      rw [lexemes_blank blank] at read
      rw [unquoted?_cons (unquoted_of_isBlank blank), ne_eq, Option.map_eq_none_iff]
      exact ih read
  | and sign cs ih =>
      rw [lexemes_and] at read
      rw [unquoted?_cons rfl, unquoted?_cons rfl, ne_eq, Option.map_eq_none_iff, Option.map_eq_none_iff]
      exact closed_cons rfl ih read
  | or sign cs ih =>
      rw [lexemes_or] at read
      rw [unquoted?_cons rfl, unquoted?_cons rfl, ne_eq, Option.map_eq_none_iff, Option.map_eq_none_iff]
      exact closed_cons rfl ih read
  | string sign c body rest quotes closes ih =>
      rw [lexemes_string quotes closes] at read
      rw [unquoted?_string quotes closes, ne_eq, Option.map_eq_none_iff]
      exact closed_cons rfl ih read
  | unclosed sign c cs quotes never =>
      rw [lexemes_unclosed quotes never] at read
      cases read
      simp [unquoted?_unclosed quotes never, Lexeme.isOpen, quotes]
  | other sign c cs l length ink unquoted single read' ih =>
      rw [lexemes_cons ink read'] at read
      rw [unquoted?_lexeme unquoted read', ne_eq, Option.map_eq_none_iff]
      exact closed_cons (isPlain_of_lexemeAt sign ink unquoted single read').closed ih read
  | fault sign c cs fault ink unquoted single read' =>
      rw [lexemes_fault ink read'] at read
      cases read

end

section
variable {cs tail : List Char} {place : Place}

theorem unquoted?_gap (gap gap' : Bool) (cs : List Char) :
    unquoted? (.outside gap) cs = unquoted? (.outside gap') cs := by
  induction cs with
  | nil => rfl
  | cons c cs ih =>
      rw [unquoted?, unquoted?]
      split
      · rfl
      · rw [ih]

theorem normalizeFrom_sign {c : Char} (ink : Text.isBlank c = false) (unquoted : isQuote c = false)
    (single : isTwin c = false) (gap : Bool) (cs : List Char) :
    normalizeFrom (.outside gap) (c :: cs) = c :: normalizeFrom (.outside false) cs :=
  normalizeFrom_of_ink gap ink unquoted (by simp [single])

theorem normalizeFrom_space (cs : List Char) :
    normalizeFrom (.outside false) (' ' :: cs) = ' ' :: normalizeFrom (.outside true) cs := by
  have single : ¬(isTwin ' ' = true ∧ cs.head? = some ' ') := by simp [isTwin]
  rw [normalizeFrom_cons single]
  rfl

section
variable {c : Char} {more : List Char} {l : Lexeme} (operator : IsOperator c more l)
include operator

theorem IsOperator.tokensFrom (start : Nat) (sign : Bool) (cs : List Char) :
    tokensFrom start sign 0 (c :: (more ++ ' ' :: cs)) =
      (tokensFrom (start + more.length + 2) l.expectsValue 0 cs).map (⟨l, start⟩ :: ·) := by
  have stop : start + 1 + more.length + 1 = start + more.length + 2 := by omega
  rw [tokensFrom_cons (plain_of_isAsciiLetter operator.letter).1 (operator.lexemeAt sign cs), Nat.add_sub_cancel,
    tokensFrom_skip, List.drop_left, tokensFrom_blank (by decide), stop]

theorem IsOperator.normalizeFrom (gap : Bool) (cs : List Char) :
    normalizeFrom (.outside gap) (c :: (more ++ ' ' :: cs)) =
      c :: (more ++ ' ' :: normalizeFrom (.outside true) cs) := by
  have letters : ∀ us : List Char, (∀ d ∈ us, Text.isAsciiLetter d = true) →
      Expr.normalizeFrom (.outside false) (us ++ ' ' :: cs) = us ++ ' ' :: Expr.normalizeFrom (.outside true) cs := by
    intro us letters
    induction us with
    | nil => exact normalizeFrom_space cs
    | cons d us ih =>
        rw [List.forall_mem_cons] at letters
        obtain ⟨ink, unquoted, single, -⟩ := plain_of_isAsciiLetter letters.1
        rw [List.cons_append, normalizeFrom_sign ink unquoted single, ih letters.2, List.cons_append]
  obtain ⟨ink, unquoted, single, -⟩ := plain_of_isAsciiLetter operator.letter
  rw [normalizeFrom_sign ink unquoted single, letters more operator.letters]

end

theorem normalizeFrom_closing (closed : unquoted? place cs ≠ none) (tail : List Char) :
    normalizeFrom place (cs ++ ')' :: tail) = normalizeFrom place cs ++ ')' :: normalizeFrom (.outside false) tail := by
  have alone : ∀ {c cs}, (∀ us, c = '&' → cs = '&' :: us → False) → (∀ us, c = '|' → cs = '|' :: us → False) →
      ¬(isTwin c = true ∧ (cs ++ ')' :: tail).head? = some c) := by
    rintro c cs both either ⟨twin, head⟩
    cases cs with
    | nil =>
        cases head
        cases twin
    | cons d cs =>
        rcases eq_of_twins twin head with ⟨us, rfl, same⟩ | ⟨us, rfl, same⟩
        · cases same
          exact both _ rfl rfl
        · cases same
          exact either _ rfl rfl
  have plain : ∀ {c gap cs}, isQuote c = false → unquoted? (.outside gap) (c :: cs) ≠ none →
      ∀ gap', unquoted? (.outside gap') cs ≠ none := by
    intro c gap cs unquoted closed gap'
    rw [unquoted?_gap gap false, unquoted?_cons unquoted, ne_eq, Option.map_eq_none_iff] at closed
    rwa [unquoted?_gap gap' false]
  fun_induction normalizeFrom place cs with
  | case1 place =>
      cases place with
      | outside gap => exact normalizeFrom_sign (by decide) (by decide) (by decide) gap tail
      | inside quote => exact absurd rfl closed
      | escaped quote => exact absurd rfl closed
  | case2 quote c cs state ih => exact congrArg (c :: ·) (ih closed)
  | case3 quote c cs ih => exact congrArg (c :: ·) (ih closed)
  | case4 gap cs ih =>
      rw [List.cons_append, List.cons_append, normalizeFrom, ih (plain rfl (plain rfl closed false) true)]
      simp
  | case5 gap cs ih =>
      rw [List.cons_append, List.cons_append, normalizeFrom, ih (plain rfl (plain rfl closed false) true)]
      simp
  | case6 gap c cs both either quotes ih =>
      have quotes : isQuote c = true := by simpa [isQuote] using quotes
      rw [unquoted?, if_pos quotes, ne_eq, Option.map_eq_none_iff] at closed
      rw [List.cons_append, normalizeFrom_cons (alone both either), if_pos quotes, ih closed, List.cons_append]
  | case7 gap c cs both either unquoted blank ih =>
      have unquoted : isQuote c = false := unquoted_of_isBlank blank
      rw [List.cons_append, normalizeFrom_cons (alone both either), unquoted, if_neg Bool.false_ne_true, if_pos blank,
        ih (plain unquoted closed true), List.append_assoc]
  | case8 gap c cs both either unquoted ink ih =>
      have unquoted : isQuote c = false := by simpa [isQuote] using unquoted
      rw [List.cons_append, normalizeFrom_cons (alone both either), unquoted, if_neg Bool.false_ne_true, if_neg ink,
        ih (plain unquoted closed false), List.cons_append]

theorem normalizeFrom_group (closed : unquoted? (.outside false) cs ≠ none) (gap : Bool) (tail : List Char) :
    normalizeFrom (.outside gap) ('(' :: (cs ++ ')' :: tail)) =
      '(' :: (normalizeFrom (.outside false) cs ++ ')' :: normalizeFrom (.outside false) tail) := by
  rw [normalizeFrom_sign (by decide) (by decide) (by decide), normalizeFrom_closing closed]

theorem normalizeFrom_gap (cs : List Char) : ∃ blanks, (∀ c ∈ blanks, Text.isBlank c = true) ∧
    normalizeFrom (.outside false) cs = blanks ++ normalizeFrom (.outside true) cs := by
  have space : ∀ c ∈ [' '], Text.isBlank c = true := List.forall_mem_singleton.2 rfl
  have same : ∀ {us : List Char}, us = [] ++ us := rfl
  cases cs with
  | nil => exact ⟨[], List.forall_mem_nil _, same⟩
  | cons c cs =>
      by_cases twins : isTwin c = true ∧ cs.head? = some c
      · rcases eq_of_twins twins.1 twins.2 with ⟨us, rfl, rfl⟩ | ⟨us, rfl, rfl⟩
        · exact ⟨[' '], space, rfl⟩
        · exact ⟨[' '], space, rfl⟩
      · rw [normalizeFrom_cons twins, normalizeFrom_cons twins]
        split
        · exact ⟨[], List.forall_mem_nil _, same⟩
        · split
          · exact ⟨[' '], space, rfl⟩
          · exact ⟨[], List.forall_mem_nil _, same⟩

theorem exists_normalizeChars (cs : List Char) : ∃ left right,
    (∀ c ∈ left, Text.isBlank c = true) ∧ (∀ c ∈ right, Text.isBlank c = true) ∧
      normalizeFrom (.outside false) cs = left ++ (normalizeChars cs ++ right) := by
  obtain ⟨first, blank, same⟩ := normalizeFrom_gap cs
  obtain ⟨right, blankRight, whole⟩ := Text.exists_blanks (Text.stripStart (normalizeFrom (.outside true) cs))
  refine ⟨first ++ (normalizeFrom (.outside true) cs).takeWhile Text.isBlank, right, ?_, blankRight, ?_⟩
  · rw [List.forall_mem_append]
    exact ⟨blank, List.all_eq_true.1 List.all_takeWhile⟩
  · rw [normalizeChars, Text.strip, ← whole, Text.stripStart, List.append_assoc, List.takeWhile_append_dropWhile, same]

theorem isOpen_spelledOut (l : Lexeme) : l.spelledOut.isOpen = l.isOpen := by
  cases l <;> rfl

theorem rendered_of_closed {ls : List Lexeme} (closed : ∀ l ∈ ls, l.isOpen = false) :
    rendered ls = ls.map Lexeme.spelledOut := by
  induction ls with
  | nil => rfl
  | cons l ls ih =>
      rw [List.forall_mem_cons] at closed
      rw [rendered_cons closed.1, ih closed.2, List.map_cons]

theorem closed_normalize {ls : List Lexeme} (read : lexemes true cs = .ok ls)
    (closed : unquoted? (.outside false) cs ≠ none) :
    unquoted? (.outside false) (normalizeChars cs) ≠ none ∧
      unquoted? (.outside false) (normalizeFrom (.outside false) cs) ≠ none := by
  have shut := (closed_iff read).1 closed
  have spelled : ∀ l ∈ ls.map Lexeme.spelledOut, l.isOpen = false := by
    simpa only [List.forall_mem_map, isOpen_spelledOut] using shut
  have trimmed := lexemes_normalizeChars true cs
  have whole := lexemes_normalizeFrom true false cs
  rw [map_trimmed_lexemes, read] at trimmed
  rw [read] at whole
  refine ⟨(closed_iff trimmed).2 ?_, (closed_iff whole).2 spelled⟩
  rwa [rendered_of_closed shut]

end

end TabularAudit.Expr
