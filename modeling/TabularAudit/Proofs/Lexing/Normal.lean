import TabularAudit.Expr.Source
import TabularAudit.Proofs.Lexing.Lexemes

/-!
Normal form changes no lexeme: the signs `&&` and `||` become the words `and` and `or`, and the blanks behind a
quote that is never closed are dropped.
-/

namespace TabularAudit.Expr

def Lexeme.spelledOut : Lexeme → Lexeme
  | .conjunction w => .conjunction (if w = "&&" then "and" else w)
  | .disjunction w => .disjunction (if w = "||" then "or" else w)
  | l => l

def Lexeme.trimmed : Lexeme → Lexeme
  | .stray source => .stray (Text.trimEnd source)
  | l => l

def rendered : List Lexeme → List Lexeme
  | [] => []
  | [l] => [if l.isOpen then l.trimmed else l.spelledOut]
  | l :: ls => l.spelledOut :: rendered ls

section
variable {cs : List Char}

theorem normalizeFrom_cons {c : Char} (single : ¬(isTwin c = true ∧ cs.head? = some c)) (gap : Bool) :
    normalizeFrom (.outside gap) (c :: cs) =
      if isQuote c then c :: normalizeFrom (.inside c) cs
      else if Text.isBlank c then spaceUnless gap ++ normalizeFrom (.outside true) cs
      else c :: normalizeFrom (.outside false) cs := by
  rw [Expr.normalizeFrom]
  · simp [isQuote]
  · rintro us rfl rfl
    exact single ⟨rfl, rfl⟩
  · rintro us rfl rfl
    exact single ⟨rfl, rfl⟩

/-- Where a lexeme can be cut off, the normal form goes on with the same character or with a space. -/
theorem sideBySide_normalizeFrom : SideBySide fun cs ds => ds = normalizeFrom (.outside false) cs := by
  rintro cs ds rfl
  have space : (isLink ' ' || isTwin ' ') = false := by decide
  cases cs with
  | nil => exact .inr ⟨beginsWithout_nil _, beginsWithout_nil _⟩
  | cons c cs =>
      by_cases twins : isTwin c = true ∧ cs.head? = some c
      · rcases eq_of_twins twins.1 twins.2 with ⟨us, rfl, rfl⟩ | ⟨us, rfl, rfl⟩
        · exact .inr ⟨(beginsWithout_cons _ _ _).2 (by decide), (beginsWithout_cons _ _ _).2 space⟩
        · exact .inr ⟨(beginsWithout_cons _ _ _).2 (by decide), (beginsWithout_cons _ _ _).2 space⟩
      · rw [normalizeFrom_cons twins]
        split
        · next quotes =>
          have link := isLink_of_isQuote quotes
          have twin : isTwin c = false := by rcases eq_of_isQuote quotes with rfl | rfl <;> decide
          exact .inr ⟨(beginsWithout_cons _ _ _).2 link, (beginsWithout_cons _ _ _).2 (by simp [link, twin])⟩
        · split
          · next blank =>
            exact .inr ⟨(beginsWithout_cons _ _ _).2 (isLink_of_isBlank blank), (beginsWithout_cons _ _ _).2 space⟩
          · exact .inl ⟨c, cs, _, rfl, rfl, rfl⟩

end

section
variable (sign gap : Bool) (cs : List Char)

theorem lexemes_spaceUnless : lexemes sign (spaceUnless gap ++ cs) = lexemes sign cs := by
  cases gap with
  | true => rfl
  | false => exact lexemes_blank (by decide) sign cs

structure Lexeme.IsPlain (l : Lexeme) : Prop where
  closed : l.isOpen = false
  spelledOut : l.spelledOut = l
  trimmed : l.trimmed = l

theorem isPlain_wordLexeme {w : String} (letters : w ≠ "&&" ∧ w ≠ "||") : (wordLexeme w).IsPlain := by
  rcases wordLexeme_cases w with ⟨-, same⟩ | ⟨-, same⟩ | ⟨-, same⟩ | same
  · rw [same]
    exact ⟨rfl, by rw [Lexeme.spelledOut, if_neg letters.1], rfl⟩
  · rw [same]
    exact ⟨rfl, by rw [Lexeme.spelledOut, if_neg letters.2], rfl⟩
  · rw [same]
    exact ⟨rfl, rfl, rfl⟩
  · rw [same]
    exact ⟨rfl, rfl, rfl⟩

theorem Spelled.isPlain {c : Char} {more rest : List Char} {l : Lexeme} (spelled : Spelled c more rest l)
    (ink : Text.isBlank c = false) (unquoted : isQuote c = false) (single : ¬(isTwin c = true ∧ more.head? = some c)) :
    l.IsPlain := by
  cases spelled with
  | number v digits => exact ⟨rfl, rfl, rfl⟩
  | word start chars ends =>
      refine isPlain_wordLexeme ⟨?_, ?_⟩ <;> intro same
      · rw [(List.cons.inj (String.ofList_injective same)).1] at start
        cases start
      · rw [(List.cons.inj (String.ofList_injective same)).1] at start
        cases start
  | conjunction first second =>
      subst first
      exact absurd ⟨rfl, by rw [second]; rfl⟩ single
  | disjunction first second =>
      subst first
      exact absurd ⟨rfl, by rw [second]; rfl⟩ single
  | relation symbol chars => exact ⟨rfl, rfl, rfl⟩
  | sign other alone =>
      have stray : (Lexeme.stray (String.ofList [c])).IsPlain := by
        refine ⟨by simp [Lexeme.isOpen, unquoted], rfl, ?_⟩
        simp [Lexeme.trimmed, Text.trimEnd, Text.stripEnd, ink]
      unfold signOf
      split <;> first | exact stray | exact ⟨rfl, rfl, rfl⟩

theorem isPlain_of_lexemeAt {c : Char} {cs : List Char} {l : Lexeme} {length : Nat} (ink : Text.isBlank c = false)
    (unquoted : isQuote c = false) (single : ¬(isTwin c = true ∧ cs.head? = some c))
    (read : lexemeAt sign c cs = .ok (l, length)) : l.IsPlain := by
  refine (spelled_of_lexemeAt unquoted read).isPlain ink unquoted ?_
  rintro ⟨twin, head⟩
  rw [List.head?_take] at head
  split at head
  · cases head
  · exact single ⟨twin, head⟩

structure IsOperator (c : Char) (more : List Char) (l : Lexeme) : Prop where
  letter : Text.isAsciiLetter c = true
  letters : ∀ d ∈ more, Text.isAsciiLetter d = true
  word : wordLexeme (String.ofList (c :: more)) = l

theorem isOperator_and : IsOperator 'a' ['n', 'd'] (.conjunction "and") :=
  ⟨by decide, List.all_eq_true.1 (by decide), by decide⟩

theorem isOperator_or : IsOperator 'o' ['r'] (.disjunction "or") :=
  ⟨by decide, List.all_eq_true.1 (by decide), by decide⟩

theorem isOperator_not : IsOperator 'n' ['o', 't'] (.negation "not") :=
  ⟨by decide, List.all_eq_true.1 (by decide), by decide⟩

theorem isWordStart_of_isAsciiLetter {c : Char} (letter : Text.isAsciiLetter c = true) : isWordStart c = true := by
  rw [isWordStart, letter, Bool.true_or]

theorem plain_of_isAsciiLetter {c : Char} (letter : Text.isAsciiLetter c = true) :
    Text.isBlank c = false ∧ isQuote c = false ∧ isTwin c = false ∧ ∀ sign us, startsNumber sign (c :: us) = false := by
  have plain := forall_of_isWordStart
    (p := fun c => Text.isBlank c = false ∧ isQuote c = false ∧ isTwin c = false ∧ Text.isDigit c = false ∧ c ≠ '-')
    (by decide) (isWordStart_of_isAsciiLetter letter)
  obtain ⟨ink, unquoted, single, digit, minus⟩ := plain
  exact ⟨ink, unquoted, single, fun sign us => (startsNumber_cons minus sign us).trans digit⟩

theorem IsOperator.lexemeAt {c : Char} {more : List Char} {l : Lexeme} (operator : IsOperator c more l) :
    Expr.lexemeAt sign c (more ++ ' ' :: cs) = .ok (l, more.length + 1) := by
  obtain ⟨-, unquoted, -, number⟩ := plain_of_isAsciiLetter operator.letter
  have chars : ∀ d ∈ more, isWordChar d = true := fun d member => by
    rw [isWordChar, isWordStart_of_isAsciiLetter (operator.letters d member), Bool.true_or]
  have ends : BeginsWithout isWordChar (' ' :: cs) := (beginsWithout_cons _ _ _).2 (by decide)
  rw [lexemeAt_word (Text.isLetter_of_isAsciiLetter operator.letter) (isWordStart_of_isAsciiLetter operator.letter)
    ⟨unquoted, number _ _⟩ chars ends, operator.word]

theorem IsOperator.lexemes {c : Char} {more : List Char} {l : Lexeme} (operator : IsOperator c more l) :
    Expr.lexemes sign (c :: (more ++ ' ' :: cs)) = (Expr.lexemes l.expectsValue cs).map (l :: ·) := by
  rw [lexemes_cons (plain_of_isAsciiLetter operator.letter).1 (operator.lexemeAt sign cs), Nat.add_sub_cancel,
    List.drop_left, lexemes_blank (by decide)]

theorem lexemes_and_word :
    lexemes sign ('a' :: 'n' :: 'd' :: ' ' :: cs) = (lexemes true cs).map (.conjunction "and" :: ·) :=
  isOperator_and.lexemes sign cs

theorem lexemes_or_word :
    lexemes sign ('o' :: 'r' :: ' ' :: cs) = (lexemes true cs).map (.disjunction "or" :: ·) :=
  isOperator_or.lexemes sign cs

theorem lexemes_not_word :
    lexemes sign ('n' :: 'o' :: 't' :: ' ' :: cs) = (lexemes true cs).map (.negation "not" :: ·) :=
  isOperator_not.lexemes sign cs

theorem map_map_cons (x : Except Fault (List Lexeme)) (l : Lexeme) (f : Lexeme → Lexeme) :
    (x.map (l :: ·)).map (List.map f) = (x.map (List.map f)).map (f l :: ·) := by
  cases x <;> rfl

theorem normalizeFrom_of_ink {c : Char} {cs : List Char} (gap : Bool) (ink : Text.isBlank c = false)
    (unquoted : isQuote c = false) (single : ¬(isTwin c = true ∧ cs.head? = some c)) :
    normalizeFrom (.outside gap) (c :: cs) = c :: normalizeFrom (.outside false) cs := by
  rw [normalizeFrom_cons single, unquoted, ink]
  rfl

theorem lexemeAt_normalizeFrom {c : Char} (ink : Text.isBlank c = false) (unquoted : isQuote c = false)
    (single : ¬(isTwin c = true ∧ cs.head? = some c)) :
    ReadsAlike (fun us vs => vs = normalizeFrom (.outside false) us) cs (normalizeFrom (.outside false) cs)
      (lexemeAt sign c cs) (lexemeAt sign c (normalizeFrom (.outside false) cs)) := by
  have side := sideBySide_normalizeFrom
  refine lexemeAt_alongside side (normalizeFrom_of_ink false ink unquoted single).symm rfl sign unquoted ?_
  rintro ⟨twin, head | head⟩
  · exact single ⟨twin, head⟩
  · rcases side (Eq.refl (normalizeFrom (.outside false) cs)) with ⟨d, us, vs, rfl, same, -⟩ | ⟨-, free⟩
    · rw [same] at head
      exact single ⟨twin, head⟩
    · have off := free c head
      simp [twin] at off

theorem lexemes_normalizeFrom :
    lexemes sign (normalizeFrom (.outside gap) cs) = (lexemes sign cs).map (List.map Lexeme.spelledOut) := by
  induction sign, cs using lexing_induction generalizing gap with
  | nil sign => rw [normalizeFrom, lexemes]; rfl
  | blank sign c cs blank ih =>
      have single : ¬(isTwin c = true ∧ cs.head? = some c) := by simp [isTwin_of_isBlank blank]
      rw [normalizeFrom_cons single, unquoted_of_isBlank blank, if_neg Bool.false_ne_true, if_pos blank,
        lexemes_spaceUnless, ih, lexemes_blank blank]
  | and sign cs ih =>
      rw [normalizeFrom, lexemes_spaceUnless, lexemes_and_word, lexemes_and, ih, map_map_cons]
      rfl
  | or sign cs ih =>
      rw [normalizeFrom, lexemes_spaceUnless, lexemes_or_word, lexemes_or, ih, map_map_cons]
      rfl
  | string sign c body rest quotes closes ih =>
      have single : ¬(isTwin c = true ∧ (body ++ rest).head? = some c) := by simp [isTwin_of_isQuote quotes]
      rw [normalizeFrom_cons single, if_pos quotes, closes.normalizeFrom (ne_backslash_of_isQuote quotes),
        lexemes_string quotes closes, lexemes_string quotes closes, ih, map_map_cons]
      rfl
  | unclosed sign c cs quotes never =>
      have single : ¬(isTwin c = true ∧ cs.head? = some c) := by simp [isTwin_of_isQuote quotes]
      have kept := (open_tail (ne_backslash_of_isQuote quotes) List.not_mem_nil never).1
      rw [normalizeFrom_cons single, if_pos quotes, kept, lexemes_unclosed quotes never]
      rfl
  | other sign c cs l length ink unquoted single read ih =>
      obtain ⟨same, rest⟩ := lexemeAt_normalizeFrom sign cs ink unquoted single
      have kept := (isPlain_of_lexemeAt sign ink unquoted single read).spelledOut
      have normal := normalizeFrom_of_ink gap ink unquoted single
      rw [normal, lexemes_cons ink (same.symm.trans read), lexemes_cons ink read, rest l length read, ih,
        map_map_cons, kept]
  | fault sign c cs fault ink unquoted single read =>
      obtain ⟨same, -⟩ := lexemeAt_normalizeFrom sign cs ink unquoted single
      have normal := normalizeFrom_of_ink gap ink unquoted single
      rw [normal, lexemes_fault ink (same.symm.trans read), lexemes_fault ink read]
      rfl

end

section
variable (sign : Bool) {cs blanks : List Char}

theorem lexemes_blanks (blank : ∀ c ∈ blanks, Text.isBlank c = true) : lexemes sign blanks = .ok [] := by
  induction blanks with
  | nil => rw [lexemes]
  | cons c blanks ih =>
      rw [lexemes_blank (blank c (by simp)), ih fun d member => blank d (by simp [member])]

theorem lexemes_stripStart (cs : List Char) : lexemes sign (Text.stripStart cs) = lexemes sign cs := by
  induction cs with
  | nil => rfl
  | cons c cs ih =>
      by_cases blank : Text.isBlank c = true
      · rw [Text.stripStart_cons_of_isBlank cs blank, lexemes_blank blank, ih]
      · rw [Text.stripStart, List.dropWhile_cons_of_neg blank]

theorem lexemes_append_blanks (blank : ∀ c ∈ blanks, Text.isBlank c = true) (inked : Text.EndsInked cs) :
    (lexemes sign (cs ++ blanks)).map (List.map Lexeme.trimmed) = lexemes sign cs := by
  have free : BeginsWithout (fun c => isLink c || isTwin c) blanks := by
    intro c head
    have first := blank c (List.mem_of_mem_head? head)
    simp [isLink_of_isBlank first, isTwin_of_isBlank first]
  induction sign, cs using lexing_induction with
  | nil sign =>
      rw [List.nil_append, lexemes_blanks sign blank, lexemes]
      rfl
  | blank sign c cs blank ih =>
      rw [List.cons_append, lexemes_blank blank, lexemes_blank blank, ih (inked.of_append [c])]
  | and sign cs ih =>
      rw [List.cons_append, List.cons_append, lexemes_and, lexemes_and, map_map_cons,
        ih (inked.of_append ['&', '&'])]
      rfl
  | or sign cs ih =>
      rw [List.cons_append, List.cons_append, lexemes_or, lexemes_or, map_map_cons,
        ih (inked.of_append ['|', '|'])]
      rfl
  | string sign c body rest quotes closes ih =>
      rw [List.cons_append, List.append_assoc, lexemes_string quotes closes, lexemes_string quotes closes,
        map_map_cons, ih (inked.of_append (c :: body))]
      rfl
  | unclosed sign c cs quotes never =>
      have plain : c ∉ blanks := by
        intro member
        rw [unquoted_of_isBlank (blank c member)] at quotes
        cases quotes
      have stays := (open_tail (ne_backslash_of_isQuote quotes) plain never).2.2.1
      have trimmed := Text.stripEnd_append_of_isBlank (c :: cs) blank
      rw [List.cons_append, lexemes_unclosed quotes stays, lexemes_unclosed quotes never]
      simp only [Except.map, List.map_cons, List.map_nil, Lexeme.trimmed, Text.trimEnd, String.toList_ofList,
        ← List.cons_append, trimmed, inked.stripEnd]
  | other sign c cs l length ink unquoted single read ih =>
      obtain ⟨same, rest⟩ := lexemeAt_append free sign unquoted single
      have behind : Text.EndsInked (cs.drop (length - 1)) := by
        refine Text.EndsInked.of_append (c :: cs.take (length - 1)) ?_
        rwa [List.cons_append, List.take_append_drop]
      rw [List.cons_append, lexemes_cons ink (same.symm.trans read), lexemes_cons ink read, rest l length read,
        map_map_cons, ih behind, (isPlain_of_lexemeAt sign ink unquoted single read).trimmed]
  | fault sign c cs fault ink unquoted single read =>
      obtain ⟨same, -⟩ := lexemeAt_append free sign unquoted single
      rw [List.cons_append, lexemes_fault ink (same.symm.trans read), lexemes_fault ink read]
      rfl

theorem lexemes_normalizeChars (cs : List Char) :
    lexemes sign (normalizeChars cs) =
      ((lexemes sign cs).map (List.map Lexeme.spelledOut)).map (List.map Lexeme.trimmed) := by
  obtain ⟨blanks, blank, whole⟩ := Text.exists_blanks (Text.stripStart (normalizeFrom (.outside true) cs))
  rw [normalizeChars, Text.strip, ← lexemes_append_blanks sign blank (Text.endsInked_stripEnd _), ← whole,
    lexemes_stripStart, lexemes_normalizeFrom]

theorem rendered_cons {l : Lexeme} (closed : l.isOpen = false) (ls : List Lexeme) :
    rendered (l :: ls) = l.spelledOut :: rendered ls := by
  cases ls with
  | nil => simp [rendered, closed]
  | cons m ls => rw [rendered]; exact List.cons_ne_nil m ls

theorem map_rendered_cons {l : Lexeme} (closed : l.isOpen = false) (kept : l.spelledOut.trimmed = l.spelledOut)
    {x : Except Fault (List Lexeme)}
    (same : (x.map (List.map Lexeme.spelledOut)).map (List.map Lexeme.trimmed) = x.map rendered) :
    ((x.map (l :: ·)).map (List.map Lexeme.spelledOut)).map (List.map Lexeme.trimmed) =
      (x.map (l :: ·)).map rendered := by
  rw [map_map_cons, map_map_cons, same, kept]
  cases x with
  | error fault => rfl
  | ok ls => simp only [Except.map, rendered_cons closed]

theorem map_trimmed_lexemes (cs : List Char) :
    ((lexemes sign cs).map (List.map Lexeme.spelledOut)).map (List.map Lexeme.trimmed) =
      (lexemes sign cs).map rendered := by
  induction sign, cs using lexing_induction with
  | nil sign =>
      rw [lexemes]
      rfl
  | blank sign c cs blank ih => rw [lexemes_blank blank, ih]
  | and sign cs ih =>
      rw [lexemes_and]
      exact map_rendered_cons rfl rfl ih
  | or sign cs ih =>
      rw [lexemes_or]
      exact map_rendered_cons rfl rfl ih
  | string sign c body rest quotes closes ih =>
      rw [lexemes_string quotes closes]
      exact map_rendered_cons rfl rfl ih
  | unclosed sign c cs quotes never =>
      have opens : (Lexeme.stray (String.ofList (c :: cs))).isOpen = true := by simp [Lexeme.isOpen, quotes]
      rw [lexemes_unclosed quotes never]
      simp only [Except.map, List.map_cons, List.map_nil, rendered, opens, if_true, Lexeme.spelledOut]
  | other sign c cs l length ink unquoted single read ih =>
      have plain := isPlain_of_lexemeAt sign ink unquoted single read
      rw [lexemes_cons ink read]
      exact map_rendered_cons plain.closed (by rw [plain.spelledOut, plain.trimmed]) ih
  | fault sign c cs fault ink unquoted single read =>
      rw [lexemes_fault ink read]
      rfl

/-- A text is refused just as its normal form is; else both are made of the same lexemes, but for the spelling of the
boolean operators and the blanks at the end of a string that is never closed. -/
theorem normalize_keeps_lexemes (s : String) :
    (tokenize (normalize s)).map (List.map Token.lexeme) =
      ((tokenize s).map (List.map Token.lexeme)).map rendered := by
  have normal := lexemes_tokensFrom 0 true 0 (normalizeChars s.toList)
  have plain := lexemes_tokensFrom 0 true 0 s.toList
  rw [List.drop_zero] at normal plain
  rw [tokenize, tokenize, normalize, String.toList_ofList, normal, plain, lexemes_normalizeChars, map_trimmed_lexemes]

end

end TabularAudit.Expr
