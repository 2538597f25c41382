import TabularAudit.Proofs.Lexing.Lookahead
import TabularAudit.Proofs.Lexing.Quotes

/-! The lexemes of a text, without their positions, and how each is spelled. -/

namespace TabularAudit.Expr

/-- The text is cut behind each lexeme, where `tokensFrom` counts what is still to be passed over. -/
def lexemes (sign : Bool) : List Char → Except Fault (List Lexeme)
  | [] => .ok []
  | c :: cs =>
    if Text.isBlank c then lexemes sign cs
    else
      match lexemeAt sign c cs with
      | .ok (l, length) => (lexemes l.expectsValue (cs.drop (length - 1))).map (l :: ·)
      | .error fault => .error fault
termination_by cs => cs.length

theorem lexemes_tokensFrom (position : Nat) (sign : Bool) (skip : Nat) (cs : List Char) :
    (tokensFrom position sign skip cs).map (List.map Token.lexeme) = lexemes sign (cs.drop skip) := by
  induction cs generalizing position sign skip with
  | nil => simp [tokensFrom, lexemes, Except.map]
  | cons c cs ih =>
      cases skip with
      | succ skip => exact ih _ _ _
      | zero =>
          rw [tokensFrom, List.drop_zero, lexemes]
          split
          · exact ih _ _ _
          · cases lexemeAt sign c cs with
            | error fault => rfl
            | ok found =>
                obtain ⟨l, length⟩ := found
                simp only [← ih (position + 1), Bind.bind, Except.bind]
                cases tokensFrom (position + 1) l.expectsValue (length - 1) cs <;> rfl

theorem lexemes_eq (position : Nat) (sign : Bool) (cs : List Char) :
    lexemes sign cs = (tokensFrom position sign 0 cs).map (List.map Token.lexeme) :=
  (lexemes_tokensFrom position sign 0 cs).symm

section
variable {c : Char} {cs : List Char} {l : Lexeme} {length : Nat}

/-- How the lexemes that are no strings are spelled: the first character, the others, and what stands behind. -/
inductive Spelled (c : Char) (more rest : List Char) : Lexeme → Prop where
  | number (v : Value) : (∀ d ∈ c :: more, isNumeric d = true) → Spelled c more rest (.number v)
  | word : isWordStart c = true → (∀ d ∈ more, isWordChar d = true) → BeginsWithout isWordChar rest →
      Spelled c more rest (wordLexeme (String.ofList (c :: more)))
  | conjunction : c = '&' → more = ['&'] → Spelled c more rest (.conjunction "&&")
  | disjunction : c = '|' → more = ['|'] → Spelled c more rest (.disjunction "||")
  | relation (symbol : String) : (∀ d ∈ c :: more, d ∈ ['=', '!', '<', '>']) → Spelled c more rest (.relation symbol)
  | sign : isWordStart c = false → more = [] → Spelled c more rest (signOf c)

theorem Spelled.forall_more {p : Char → Bool} {more rest : List Char} (spelled : Spelled c more rest l)
    (numeric : ∀ d, isNumeric d = true → p d = false) (word : ∀ d, isWordChar d = true → p d = false)
    (sign : ['&', '|', '=', '!', '<', '>'].any p = false) : ∀ d ∈ more, p d = false := by
  have apart : ∀ d ∈ ['&', '|', '=', '!', '<', '>'], p d = false := by simpa using sign
  intro d member
  cases spelled with
  | number v digits => exact numeric d (digits d (List.mem_cons_of_mem c member))
  | word start chars ends => exact word d (chars d member)
  | conjunction first second =>
      rw [second, List.mem_singleton] at member
      exact apart d (by simp [member])
  | disjunction first second =>
      rw [second, List.mem_singleton] at member
      exact apart d (by simp [member])
  | relation symbol chars =>
      have listed := chars d (List.mem_cons_of_mem c member)
      exact apart d (List.mem_cons_of_mem _ (List.mem_cons_of_mem _ listed))
  | sign other alone => simp [alone] at member

theorem sideBySide_eq : SideBySide Eq := by
  rintro cs _ rfl
  cases cs with
  | nil => exact .inr ⟨beginsWithout_nil _, beginsWithout_nil _⟩
  | cons c cs => exact .inl ⟨c, cs, cs, rfl, rfl, rfl⟩

theorem spelled_of_numberAt (read : numberAt (c :: cs) = .ok (l, length)) :
    Spelled c (cs.take (length - 1)) (cs.drop (length - 1)) l := by
  have numerals := scan?_alongside sideBySide_eq (Eq.refl (c :: cs)) (Eq.refl cs)
  rw [numberAt] at read
  generalize Numeral.scan? (c :: cs) = x at numerals read
  cases numerals with
  | none => cases read
  | @some a b found =>
      obtain ⟨parts, us⟩ := a
      obtain ⟨-, -, taken, some, digits, split, -⟩ := found
      cases taken with
      | nil => exact absurd rfl some
      | cons d taken =>
          obtain ⟨rfl, rfl⟩ := List.cons.inj split
          have counted : (c :: (taken ++ us)).length - us.length - 1 = taken.length := by
            simp only [List.length_cons, List.length_append]
            omega
          simp only at read
          split at read
          · cases read
          · cases read
            change Spelled c ((taken ++ us).take ((c :: (taken ++ us)).length - us.length - 1))
              ((taken ++ us).drop ((c :: (taken ++ us)).length - us.length - 1)) _
            rw [counted, List.take_left, List.drop_left]
            exact .number _ digits

theorem spelled_of_wordAt (read : wordAt (c :: cs) = .ok (l, length)) :
    Spelled c (cs.take (length - 1)) (cs.drop (length - 1)) l := by
  by_cases start : isWordStart c = true
  · have word : isWordChar c = true := by simp [isWordChar, start]
    simp only [wordAt, start, List.takeWhile_cons, word, if_true] at read
    obtain ⟨rfl, rfl⟩ := Prod.mk.inj (Except.ok.inj read)
    simp only [List.length_cons, Nat.add_sub_cancel]
    rw [drop_length_takeWhile]
    have taken : cs.take (cs.takeWhile isWordChar).length = cs.takeWhile isWordChar := by
      calc cs.take (cs.takeWhile isWordChar).length
        _ = (cs.takeWhile isWordChar ++ cs.dropWhile isWordChar).take (cs.takeWhile isWordChar).length := by
          rw [List.takeWhile_append_dropWhile]
        _ = cs.takeWhile isWordChar := List.take_left
    rw [taken]
    refine .word start (List.all_eq_true.1 List.all_takeWhile) ?_
    intro d head
    have stopped := List.head?_dropWhile_not isWordChar cs
    rw [Option.mem_def.1 head] at stopped
    exact stopped
  · simp [wordAt, start] at read

theorem of_relationAt? {symbol : String} (found : relationAt? (c :: cs) = some symbol) :
    ∀ d ∈ c :: cs.take (symbol.length - 1), d ∈ ['=', '!', '<', '>'] := by
  have known := List.mem_of_find?_eq_some found
  have begins : symbol.toList.isPrefixOf (c :: cs) = true :=
    List.find?_some (p := fun symbol : String => symbol.toList.isPrefixOf (c :: cs)) found
  have signs : ∀ symbol ∈ relationSymbols, symbol.length ≠ 0 ∧ symbol.toList ⊆ ['=', '!', '<', '>'] := by
    decide
  have whole : symbol.toList = c :: cs.take (symbol.length - 1) := by
    have same := List.prefix_iff_eq_take.1 (List.isPrefixOf_iff_prefix.1 begins)
    obtain ⟨n, size⟩ := Nat.exists_eq_succ_of_ne_zero (signs symbol known).1
    rw [String.length_toList, size] at same
    rw [same, size]
    rfl
  rw [← whole]
  exact fun d member => (signs symbol known).2 member

theorem spelled_of_signAt (other : isWordStart c = false) (read : signAt (c :: cs) = (l, length)) :
    Spelled c (cs.take (length - 1)) (cs.drop (length - 1)) l := by
  rw [signAt_cons] at read
  split at read
  · next twins =>
    obtain ⟨rfl, next⟩ := twins
    obtain ⟨us, rfl⟩ := List.head?_eq_some_iff.1 next
    cases read
    exact .conjunction rfl rfl
  · split at read
    · next twins =>
      obtain ⟨rfl, next⟩ := twins
      obtain ⟨us, rfl⟩ := List.head?_eq_some_iff.1 next
      cases read
      exact .disjunction rfl rfl
    · split at read
      · next symbol found =>
        cases read
        exact .relation symbol (of_relationAt? found)
      · cases read
        exact .sign other rfl

theorem spelled_of_lexemeAt {sign : Bool} (unquoted : isQuote c = false) (read : lexemeAt sign c cs = .ok (l, length)) :
    Spelled c (cs.take (length - 1)) (cs.drop (length - 1)) l := by
  rw [lexemeAt, unquoted] at read
  simp only [Bool.false_eq_true, if_false] at read
  split at read
  · exact spelled_of_numberAt read
  · split at read
    · exact spelled_of_wordAt read
    · next other =>
      have start : isWordStart c = false := by
        rw [Bool.eq_false_iff]
        intro start
        simp only [isWordStart, Bool.or_eq_true] at start
        refine other (Bool.or_eq_true_iff.2 (start.imp_left Text.isLetter_of_isAsciiLetter))
      exact spelled_of_signAt start (Except.ok.inj read)

theorem lexemeAt_word {sign : Bool} {more rest : List Char} (letter : Text.isLetter c = true)
    (start : isWordStart c = true) (plain : isQuote c = false ∧ startsNumber sign (c :: (more ++ rest)) = false)
    (chars : ∀ d ∈ more, isWordChar d = true) (ends : BeginsWithout isWordChar rest) :
    lexemeAt sign c (more ++ rest) = .ok (wordLexeme (String.ofList (c :: more)), more.length + 1) := by
  have word : isWordChar c = true := by simp [isWordChar, start]
  have taken : (more ++ rest).takeWhile isWordChar = more := by
    rw [List.takeWhile_append_of_pos chars, ends.takeWhile.1, List.append_nil]
  rw [lexemeAt, plain.1, plain.2]
  simp [letter, wordAt, start, word, taken]

theorem wordLexeme_cases (w : String) :
    Text.lower w = "and" ∧ wordLexeme w = .conjunction w ∨ Text.lower w = "or" ∧ wordLexeme w = .disjunction w ∨
      Text.lower w = "not" ∧ wordLexeme w = .negation w ∨ wordLexeme w = .word w := by
  rw [wordLexeme]
  split
  · next same => exact .inl ⟨same, rfl⟩
  · next same => exact .inr (.inl ⟨same, rfl⟩)
  · next same => exact .inr (.inr (.inl ⟨same, rfl⟩))
  · exact .inr (.inr (.inr rfl))

end

section
variable {c : Char} {cs : List Char} {sign : Bool}

theorem lexemes_blank (blank : Text.isBlank c = true) (sign : Bool) (cs : List Char) :
    lexemes sign (c :: cs) = lexemes sign cs := by
  rw [lexemes, if_pos blank]

theorem lexemes_cons {l : Lexeme} {length : Nat} (ink : Text.isBlank c = false)
    (read : lexemeAt sign c cs = .ok (l, length)) :
    lexemes sign (c :: cs) = (lexemes l.expectsValue (cs.drop (length - 1))).map (l :: ·) := by
  rw [lexemes, if_neg (by simp [ink]), read]

theorem lexemes_fault {fault : Fault} (ink : Text.isBlank c = false) (read : lexemeAt sign c cs = .error fault) :
    lexemes sign (c :: cs) = .error fault := by
  rw [lexemes, if_neg (by simp [ink]), read]

theorem unquoted_of_isBlank (blank : Text.isBlank c = true) : isQuote c = false :=
  Text.forall_of_isBlank (p := fun c => isQuote c = false) (by decide) blank

theorem isTwin_of_isQuote (quotes : isQuote c = true) : isTwin c = false := by
  rcases eq_of_isQuote quotes with rfl | rfl <;> decide

theorem isTwin_of_isBlank (blank : Text.isBlank c = true) : isTwin c = false :=
  Text.forall_of_isBlank (p := fun c => isTwin c = false) (by decide) blank

theorem lexemes_and (sign : Bool) (cs : List Char) :
    lexemes sign ('&' :: '&' :: cs) = (lexemes true cs).map (.conjunction "&&" :: ·) := by
  have read : lexemeAt sign '&' ('&' :: cs) = .ok (.conjunction "&&", 2) := rfl
  exact lexemes_cons (by decide) read

theorem lexemes_or (sign : Bool) (cs : List Char) :
    lexemes sign ('|' :: '|' :: cs) = (lexemes true cs).map (.disjunction "||" :: ·) := by
  have read : lexemeAt sign '|' ('|' :: cs) = .ok (.disjunction "||", 2) := rfl
  exact lexemes_cons (by decide) read

theorem ink_of_isQuote (quotes : isQuote c = true) : Text.isBlank c = false := by
  rcases eq_of_isQuote quotes with rfl | rfl <;> decide

theorem take_append_pred (body rest : List Char) : (body ++ rest).take (body.length - 1) = body.dropLast := by
  rw [List.take_append_of_le_length (Nat.sub_le _ _), List.dropLast_eq_take]

theorem lexemeAt_string {body : List Char} (quotes : isQuote c = true) (closes : Closes c body) (sign : Bool)
    (rest : List Char) : lexemeAt sign c (body ++ rest) =
      .ok (.string (String.ofList (unescape body.dropLast)), body.length + 1) := by
  simp only [lexemeAt, quotes, if_true, stringAt, closes.closingQuote? (ne_backslash_of_isQuote quotes),
    take_append_pred]

theorem lexemes_string {body : List Char} (quotes : isQuote c = true) (closes : Closes c body) (sign : Bool)
    (rest : List Char) :
    lexemes sign (c :: (body ++ rest)) =
      (lexemes false rest).map (.string (String.ofList (unescape body.dropLast)) :: ·) := by
  rw [lexemes_cons (ink_of_isQuote quotes) (lexemeAt_string quotes closes sign rest), Nat.add_sub_cancel, List.drop_left]
  rfl

theorem lexemes_unclosed (quotes : isQuote c = true) (never : closingQuote? c cs = none) (sign : Bool) :
    lexemes sign (c :: cs) = .ok [.stray (String.ofList (c :: cs))] := by
  have read : lexemeAt sign c cs = .ok (.stray (String.ofList (c :: cs)), cs.length + 1) := by
    rw [lexemeAt, if_pos quotes, stringAt, never]
  rw [lexemes_cons (ink_of_isQuote quotes) read, Nat.add_sub_cancel, List.drop_length, lexemes]
  rfl

/-- Texts are told apart by what they begin with: nothing, a blank, one of the twin signs, a string that is closed
or not, another lexeme, or what can be no lexeme. -/
theorem lexing_induction {motive : Bool → List Char → Prop} (nil : ∀ sign, motive sign [])
    (blank : ∀ sign c cs, Text.isBlank c = true → motive sign cs → motive sign (c :: cs))
    (and : ∀ sign cs, motive true cs → motive sign ('&' :: '&' :: cs))
    (or : ∀ sign cs, motive true cs → motive sign ('|' :: '|' :: cs))
    (string : ∀ sign c body rest, isQuote c = true → Closes c body → motive false rest →
      motive sign (c :: (body ++ rest)))
    (unclosed : ∀ sign c cs, isQuote c = true → closingQuote? c cs = none → motive sign (c :: cs))
    (other : ∀ sign c cs l length, Text.isBlank c = false → isQuote c = false →
      ¬(isTwin c = true ∧ cs.head? = some c) → lexemeAt sign c cs = .ok (l, length) →
      motive l.expectsValue (cs.drop (length - 1)) → motive sign (c :: cs))
    (fault : ∀ sign c cs fault, Text.isBlank c = false → isQuote c = false →
      ¬(isTwin c = true ∧ cs.head? = some c) → lexemeAt sign c cs = .error fault → motive sign (c :: cs))
    (sign : Bool) (cs : List Char) : motive sign cs := by
  match cs with
  | [] => exact nil sign
  | c :: cs =>
      have later := fun sign us (shorter : us.length ≤ cs.length) =>
        lexing_induction nil blank and or string unclosed other fault sign us
      cases ink : Text.isBlank c with
      | true => exact blank sign c cs ink (later sign cs (Nat.le_refl _))
      | false =>
          cases quotes : isQuote c with
          | true =>
              cases found : closingQuote? c cs with
              | none => exact unclosed sign c cs quotes found
              | some n =>
                  obtain ⟨body, rest, rfl, -, closes⟩ := closes_of_closingQuote? found
                  exact string sign c body rest quotes closes (later false rest (by simp))
          | false =>
              by_cases twins : isTwin c = true ∧ cs.head? = some c
              · rcases eq_of_twins twins.1 twins.2 with ⟨us, rfl, rfl⟩ | ⟨us, rfl, rfl⟩
                · exact and sign us (later true us (by simp))
                · exact or sign us (later true us (by simp))
              · cases read : lexemeAt sign c cs with
                | error reason => exact fault sign c cs reason ink quotes twins read
                | ok found =>
                    obtain ⟨l, length⟩ := found
                    exact other sign c cs l length ink quotes twins read (later _ _ (by simp))
termination_by cs.length
decreasing_by
  simp only [List.length_cons]
  omega

end

end TabularAudit.Expr
