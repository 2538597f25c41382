import TabularAudit.Proofs.Lexing.Surface

/-!
Which texts are no row of lexemes. A text without overlong numerals is refused exactly for a letter or a digit, outside
of its strings, that no word and no numeral holds.
-/

namespace TabularAudit.Expr

section
variable {negative : Bool} {cs us : List Char} {parts : Numeral.Parts} {fault : Fault}

theorem unsigned?_eq_none : Numeral.unsigned? negative cs = none ↔ BeginsWithout Text.isDecimal cs := by
  cases cs with
  | nil => simp [Numeral.unsigned?]
  | cons c cs =>
      cases decimal : Text.isDecimal c with
      | false => simp [Numeral.unsigned?, decimal]
      | true =>
          simp only [Numeral.unsigned?, decimal, List.takeWhile_cons, if_true, List.isEmpty_cons, Bool.false_eq_true,
            if_false, beginsWithout_cons, Bool.true_eq_false, iff_false]
          split
          · split <;> simp
          · simp

theorem whole_of_unsigned? (read : Numeral.unsigned? negative cs = some (parts, us)) :
    parts.whole = cs.takeWhile Text.isDecimal := by
  rw [Numeral.unsigned?] at read
  split at read
  · cases read
  · split at read
    · dsimp only at read
      split at read <;> cases read <;> rfl
    · cases read
      rfl

theorem scan?_of_numberAt (short : ∀ parts us, Numeral.scan? cs = some (parts, us) →
      parts.whole.length ≤ Numeral.maxDigits) (read : numberAt cs = .error fault) : Numeral.scan? cs = none := by
  rw [numberAt] at read
  split at read
  · assumption
  · next parts us found =>
    have within : ¬Numeral.maxDigits < parts.whole.length := Nat.not_lt.2 (short parts us found)
    simp [within] at read

end

section
variable {c : Char} {cs us : List Char}

theorem numerals_plain (plain : isWordStart c = false) (us : List Char) :
    numerals false us ⊆ numerals false (c :: us) := by
  rw [numerals, Bool.false_and, if_neg Bool.false_ne_true]
  split
  · exact List.subset_cons_self _ _
  · rw [plain]
    exact List.Subset.refl _

theorem numerals_append (plain : ∀ d ∈ cs, isWordStart d = false) (us : List Char) :
    numerals false us ⊆ numerals false (cs ++ us) := by
  induction cs with
  | nil => exact List.Subset.refl _
  | cons d cs ih =>
      rw [List.forall_mem_cons] at plain
      exact List.Subset.trans (ih plain.2) (numerals_plain plain.1 _)

theorem not_isDecimal_of_isWordStart (start : isWordStart c = true) : Text.isDecimal c = false :=
  forall_of_isWordStart (p := fun c => Text.isDecimal c = false) (by decide) start

theorem numerals_word (start : isWordStart c = true) (chars : ∀ d ∈ cs, isWordChar d = true)
    (ends : BeginsWithout isWordChar us) : numerals false (c :: (cs ++ us)) = numerals false us := by
  have inside : ∀ vs : List Char, (∀ d ∈ vs, isWordChar d = true) → numerals true (vs ++ us) = numerals true us := by
    intro vs chars
    induction vs with
    | nil => rfl
    | cons d vs ih =>
        rw [List.forall_mem_cons] at chars
        rw [List.cons_append, numerals, Bool.true_and, if_pos chars.1, ih chars.2]
  have behind : numerals true us = numerals false us := by
    cases us with
    | nil => rfl
    | cons d us =>
        rw [beginsWithout_cons] at ends
        simp only [numerals, ends, Bool.and_false]
  rw [numerals, Bool.false_and, if_neg Bool.false_ne_true, not_isDecimal_of_isWordStart start,
    if_neg Bool.false_ne_true, start, inside cs chars, behind]

theorem Spelled.numerals_subset {more rest : List Char} {l : Lexeme} (spelled : Spelled c more rest l)
    (same : us.head? = rest.head?) : numerals false us ⊆ numerals false (c :: more ++ us) := by
  have numeric : ∀ d, isNumeric d = true → isWordStart d = false := by
    intro d numeric
    rw [Bool.eq_false_iff]
    intro start
    have apart := forall_of_isWordStart (p := fun c => isNumeric c = false) (by decide) start
    rw [numeric] at apart
    cases apart
  cases spelled with
  | number v digits => exact numerals_append (fun d member => numeric d (digits d member)) us
  | word start chars ends =>
      have ends : BeginsWithout isWordChar us := by rwa [BeginsWithout, same]
      rw [List.cons_append, numerals_word start chars ends]
      exact List.Subset.refl _
  | conjunction first second =>
      subst first second
      exact numerals_append (Text.forall_mem_of_any (by decide)) us
  | disjunction first second =>
      subst first second
      exact numerals_append (Text.forall_mem_of_any (by decide)) us
  | relation symbol chars =>
      have signs : ∀ d ∈ ['=', '!', '<', '>'], isWordStart d = false := Text.forall_mem_of_any (by decide)
      exact numerals_append (fun d member => signs d (chars d member)) us
  | sign other alone =>
      subst alone
      exact numerals_plain other us

theorem takeWhile_mem_numerals (begins : ¬BeginsWithout Text.isDecimal us) :
    us.takeWhile Text.isDecimal ∈ numerals false us := by
  cases us with
  | nil => exact absurd (beginsWithout_nil _) begins
  | cons d us =>
      have decimal : Text.isDecimal d = true := by simpa using begins
      rw [numerals, Bool.false_and, if_neg Bool.false_ne_true, if_pos decimal]
      exact List.mem_cons_self

theorem whole_mem_numerals {parts : Numeral.Parts} (unquoted : isQuote c = false)
    (read : Numeral.scan? (c :: cs) = some (parts, us)) :
    parts.whole ∈ numerals false (unquotedText (.outside false) (c :: cs)) := by
  have member : ∀ {negative : Bool} {vs : List Char}, Numeral.unsigned? negative vs = some (parts, us) →
      parts.whole ∈ numerals false (unquotedText (.outside false) vs) := by
    intro negative vs read
    have digits := takeWhile_unquotedText (p := Text.isDecimal) (by decide) vs
    have begins : ¬BeginsWithout Text.isDecimal vs := by
      intro none
      rw [unsigned?_eq_none.2 none] at read
      cases read
    rw [BeginsWithout, ← head?_unquotedText, ← BeginsWithout] at begins
    rw [whole_of_unsigned? read, ← digits]
    exact takeWhile_mem_numerals begins
  by_cases minus : c = '-'
  · subst minus
    rw [unquotedText_cons rfl]
    exact numerals_plain (by decide) _ (member read)
  · rw [scan?_cons minus] at read
    exact member read

end

section
variable {sign : Bool} {c : Char} {cs more rest : List Char} {l : Lexeme} {fault : Fault}

theorem ne_minus_of_isOutcast (outcast : isOutcast c = true) : c ≠ '-' := by
  rintro rfl
  revert outcast
  decide

theorem lexemeAt_of_isOutcast (unquoted : isQuote c = false) (outcast : isOutcast c = true) :
    lexemeAt sign c cs = .error .foreignCharacter := by
  have other := ne_minus_of_isOutcast outcast
  rw [lexemeAt, unquoted, startsNumber_cons other]
  rw [isOutcast] at outcast
  cases digit : Text.isDigit c with
  | true =>
      have numeral : Numeral.scan? (c :: cs) = none := by
        rw [scan?_cons other, unsigned?_eq_none, beginsWithout_cons]
        simpa [digit] using outcast
      simp [numberAt, numeral]
  | false =>
      have letter : Text.isLetter c = true ∧ isWordStart c = false := by simpa [digit] using outcast
      simp [letter, wordAt]

theorem isOutcast_of_digit (digit : Text.isDigit c = true) (other : Text.isDecimal c = false) : isOutcast c = true := by
  simp [isOutcast, digit, other]

theorem isOutcast_of_fault (unquoted : isQuote c = false)
    (short : HasShortNumerals (unquotedText (.outside false) (c :: cs))) (read : lexemeAt sign c cs = .error fault) :
    isOutcast c = true ∨ ∃ d ∈ cs.head?, isOutcast d = true := by
  have within : ∀ parts us, Numeral.scan? (c :: cs) = some (parts, us) → parts.whole.length ≤ Numeral.maxDigits :=
    fun parts us found => short _ (whole_mem_numerals unquoted found)
  rw [lexemeAt, unquoted, if_neg Bool.false_ne_true] at read
  by_cases minus : c = '-'
  · subst minus
    cases cs with
    | nil => cases sign <;> cases read
    | cons d us =>
        split at read
        · next number =>
          have digit : Text.isDigit d = true := by
            rw [startsNumber, Bool.and_eq_true] at number
            exact number.2
          have none := scan?_of_numberAt within read
          rw [Numeral.scan?, unsigned?_eq_none, beginsWithout_cons] at none
          exact .inr ⟨d, rfl, isOutcast_of_digit digit none⟩
        · cases read
  · rw [startsNumber_cons minus] at read
    split at read
    · next digit =>
      have none := scan?_of_numberAt within read
      rw [scan?_cons minus, unsigned?_eq_none, beginsWithout_cons] at none
      exact .inl (isOutcast_of_digit digit none)
    · next digit =>
      split at read
      · next letter =>
        have start : isWordStart c = false := by
          rw [Bool.eq_false_iff]
          intro start
          simp [wordAt, start] at read
        have plain : c ≠ '_' := by
          rintro rfl
          cases start
        have letter : Text.isLetter c = true := by simpa [plain] using letter
        exact .inl (by simp [isOutcast, digit, letter, start])
      · cases read

theorem isOutcast_iff : isOutcast c = true ↔
    Text.isLetter c = true ∧ Text.isAsciiLetter c = false ∨ Text.isDigit c = true ∧ Text.isDecimal c = false := by
  rw [isOutcast]
  cases digit : Text.isDigit c with
  | true => simp [Text.not_isLetter_of_isDigit digit]
  | false =>
      have underscore : Text.isLetter c = true → c ≠ '_' := by
        rintro letter rfl
        revert letter
        decide +kernel
      simp +contextual [isWordStart, underscore]

theorem not_isOutcast_of_lexemeAt {length : Nat} (unquoted : isQuote c = false)
    (read : lexemeAt sign c cs = .ok (l, length)) : ∀ d ∈ c :: cs.take (length - 1), isOutcast d = false := by
  have decimals : ∀ d, Text.isDecimal d = true → isOutcast d = false := by
    intro d decimal
    simp [isOutcast, Text.isDigit_of_isDecimal decimal, decimal]
  have first : isOutcast c = false := by
    rw [Bool.eq_false_iff]
    intro outcast
    rw [lexemeAt_of_isOutcast unquoted outcast] at read
    cases read
  rw [List.forall_mem_cons]
  refine ⟨first, (spelled_of_lexemeAt unquoted read).forall_more ?_ ?_ (by decide)⟩
  · intro d numeric
    rw [isNumeric, Bool.or_eq_true, Bool.or_eq_true, beq_iff_eq, beq_iff_eq] at numeric
    rcases numeric with (decimal | rfl) | rfl
    · exact decimals d decimal
    · decide
    · decide
  · intro d word
    rw [isWordChar, Bool.or_eq_true] at word
    rcases word with letter | digit
    · exact forall_of_isWordStart (p := fun c => isOutcast c = false) (by decide) letter
    · exact decimals d (Text.isDecimal_of_isAsciiDigit digit)

theorem isOk_map {α β : Type} (f : α → β) (x : Except Fault α) : (x.map f).isOk = x.isOk := by
  cases x <;> rfl

theorem isOk_lexemes (short : HasShortNumerals (unquotedText (.outside false) cs)) :
    (lexemes sign cs).isOk = !(unquotedText (.outside false) cs).any isOutcast := by
  induction sign, cs using lexing_induction with
  | nil sign =>
      rw [lexemes]
      rfl
  | blank sign c cs blank ih =>
      have native := Text.forall_of_isBlank (p := fun c => isOutcast c = false) (by decide +kernel) blank
      have plain := Text.forall_of_isBlank (p := fun c => isWordStart c = false) (by decide) blank
      rw [unquotedText_cons (unquoted_of_isBlank blank)] at short ⊢
      rw [lexemes_blank blank, ih fun digits member => short digits (numerals_plain plain _ member), List.any_cons,
        native, Bool.false_or]
  | and sign cs ih =>
      rw [unquotedText_cons rfl, unquotedText_cons rfl] at short ⊢
      rw [lexemes_and, isOk_map, ih short]
      rfl
  | or sign cs ih =>
      rw [unquotedText_cons rfl, unquotedText_cons rfl] at short ⊢
      rw [lexemes_or, isOk_map, ih short]
      rfl
  | string sign c body rest quotes closes ih =>
      have native : isOutcast c = false ∧ isWordStart c = false := by
        rcases eq_of_isQuote quotes with rfl | rfl <;> decide
      rw [unquotedText_string quotes closes] at short ⊢
      rw [lexemes_string quotes closes, isOk_map,
        ih fun digits member => short digits (numerals_plain native.2 _ member), List.any_cons, native.1, Bool.false_or]
  | unclosed sign c cs quotes never =>
      rw [unquotedText_unclosed quotes never, lexemes_unclosed quotes never]
      rcases eq_of_isQuote quotes with rfl | rfl <;> rfl
  | other sign c cs l length ink unquoted single read ih =>
      have native : (c :: cs.take (length - 1)).any isOutcast = false := by
        simpa only [List.any_eq_false, Bool.not_eq_true] using not_isOutcast_of_lexemeAt unquoted read
      have kept := (spelled_of_lexemeAt unquoted read).numerals_subset (head?_unquotedText _)
      rw [unquotedText_lexeme unquoted read] at short ⊢
      rw [lexemes_cons ink read, isOk_map, ih fun digits member => short digits (kept member), List.any_append, native,
        Bool.false_or]
  | fault sign c cs fault ink unquoted single read =>
      have held : (unquotedText (.outside false) (c :: cs)).any isOutcast = true := by
        rw [unquotedText_cons unquoted]
        rcases isOutcast_of_fault unquoted short read with outcast | ⟨d, head, outcast⟩
        · rw [List.any_cons, outcast, Bool.true_or]
        · rw [← head?_unquotedText] at head
          exact List.any_eq_true.2 ⟨d, List.mem_cons_of_mem c (List.mem_of_mem_head? head), outcast⟩
      rw [lexemes_fault ink read, held]
      rfl

theorem isOk_tokenize (s : String) : (tokenize s).isOk = (lexemes true s.toList).isOk := by
  rw [tokenize, lexemes_eq 0, isOk_map]

end

end TabularAudit.Expr
