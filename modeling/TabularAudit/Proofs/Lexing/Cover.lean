import TabularAudit.Expr.Source
import TabularAudit.Proofs.Lexing.Fault
import TabularAudit.Proofs.Lexing.Positions

/-!
How tokens lie in their text. Each lexeme is written as the characters that it takes from the text, and the next one
begins behind them.
-/

namespace TabularAudit

section
variable {cs rest : List Char} {p : Numeral.Parts}

theorem Numeral.text_of_unsigned? {negative : Bool} (read : unsigned? negative cs = some (p, rest)) :
    p.negative = negative ∧ p.whole ≠ [] ∧ (∀ d ∈ p.whole ++ p.fraction, Text.isDecimal d = true) ∧
      cs = p.whole ++ (if p.fraction.isEmpty then [] else '.' :: p.fraction) ++ rest := by
  have digits : ∀ us : List Char, ∀ d ∈ us.takeWhile Text.isDecimal, Text.isDecimal d = true :=
    fun us => List.all_eq_true.1 List.all_takeWhile
  have whole : cs.takeWhile Text.isDecimal ++ cs.dropWhile Text.isDecimal = cs := List.takeWhile_append_dropWhile
  rw [unsigned?] at read
  split at read
  · cases read
  · next some =>
    have some : cs.takeWhile Text.isDecimal ≠ [] := by simpa using some
    split at read
    · next tail behind =>
      dsimp only at read
      split at read
      · cases read
        exact ⟨rfl, some, by simpa using digits cs, by simp [whole]⟩
      · next filled =>
        cases read
        refine ⟨rfl, some, ?_, ?_⟩
        · intro d member
          exact (List.mem_append.1 member).elim (digits cs d) (digits tail d)
        · rw [if_neg filled, List.append_assoc, List.cons_append, List.takeWhile_append_dropWhile, ← behind, whole]
    · cases read
      exact ⟨rfl, some, by simpa using digits cs, by simp [whole]⟩

theorem Numeral.text_of_scan? (read : scan? cs = some (p, rest)) :
    p.whole ≠ [] ∧ (∀ d ∈ p.whole ++ p.fraction, Text.isDecimal d = true) ∧ cs = p.text ++ rest := by
  rw [scan?.eq_def] at read
  split at read
  · obtain ⟨sign, some, digits, same⟩ := text_of_unsigned? read
    exact ⟨some, digits, by rw [same, Parts.text, sign]; rfl⟩
  · obtain ⟨sign, some, digits, same⟩ := text_of_unsigned? read
    exact ⟨some, digits, by rw [same, Parts.text, sign]; rfl⟩

end

namespace Expr

section
variable {c : Char} {cs : List Char} {l : Lexeme} {length : Nat}

def Takes (cs : List Char) (l : Lexeme) (length : Nat) : Prop :=
  ∃ source rest, cs = source ++ rest ∧ source.length = length ∧ l.IsSource source

theorem takes_of_numberAt (read : numberAt cs = .ok (l, length)) : Takes cs l length := by
  rw [numberAt] at read
  split at read
  · cases read
  · next p rest found =>
    obtain ⟨some, digits, same⟩ := Numeral.text_of_scan? found
    dsimp only at read
    split at read
    · cases read
    · cases read
      refine ⟨p.text, rest, same, ?_, .number some digits⟩
      rw [same, List.length_append, Nat.add_sub_cancel]

theorem takes_of_wordAt (read : wordAt (c :: cs) = .ok (l, length)) : Takes (c :: cs) l length := by
  by_cases start : isWordStart c = true
  · have word : isWordChar c = true := by simp [isWordChar, start]
    simp only [wordAt, start, List.takeWhile_cons, word, if_true] at read
    obtain ⟨rfl, rfl⟩ := Prod.mk.inj (Except.ok.inj read)
    refine ⟨c :: cs.takeWhile isWordChar, cs.dropWhile isWordChar, ?_, rfl, ?_⟩
    · rw [List.cons_append, List.takeWhile_append_dropWhile]
    · exact .word start (List.all_eq_true.1 List.all_takeWhile)
  · simp [wordAt, start] at read

theorem takes_of_relationAt? {symbol : String} (found : relationAt? cs = some symbol) :
    Takes cs (.relation symbol) symbol.length := by
  have known := List.mem_of_find?_eq_some found
  have begins : symbol.toList.isPrefixOf cs = true :=
    List.find?_some (p := fun symbol : String => symbol.toList.isPrefixOf cs) found
  obtain ⟨rest, same⟩ := List.isPrefixOf_iff_prefix.1 begins
  exact ⟨symbol.toList, rest, same.symm, String.length_toList, .relation known⟩

structure IsSign (c : Char) : Prop where
  ink : Text.isBlank c = false
  unquoted : isQuote c = false
  number : c ≠ '-' → Text.isDigit c = false
  letter : Text.isLetter c = false
  start : isWordStart c = false

theorem IsSign.isSource (sign : IsSign c) (alone : relationAt? (c :: cs) = none) : (signOf c).IsSource [c] := by
  have symbols : c ≠ '=' ∧ c ≠ '<' ∧ c ≠ '>' := by
    refine ⟨?_, ?_, ?_⟩ <;> rintro rfl <;> simp [relationAt?_cons] at alone
  unfold signOf
  split
  · exact .negation
  · exact .opening
  · exact .closing
  · exact .dot
  · exact .comma
  · next mark opening closing dot comma =>
    refine .unknown ?_
    by_cases listed : c ∈ ['-', '&', '|']
    · exact .inr listed
    · have minus : c ≠ '-' := by
        rintro rfl
        simp at listed
      have digit := sign.number minus
      have decimal : Text.isDecimal c = false := by
        rw [Bool.eq_false_iff]
        intro decimal
        rw [Text.isDigit_of_isDecimal decimal] at digit
        cases digit
      have plain : c ∉ signChars := by
        simp only [signChars, List.mem_cons, List.not_mem_nil, or_false, not_or] at listed ⊢
        exact ⟨listed.1, listed.2.1, listed.2.2, symbols.1, symbols.2.1, symbols.2.2, mark, opening, closing, dot, comma⟩
      refine .inl ⟨?_, ?_⟩
      · simp [isForeign, sign.ink, sign.unquoted, decimal, sign.start, plain]
      · simp [isOutcast, digit, sign.letter]

theorem takes_of_signAt (sign : IsSign c) (read : signAt (c :: cs) = (l, length)) : Takes (c :: cs) l length := by
  rw [signAt_cons] at read
  split at read
  · next twins =>
    obtain ⟨rfl, next⟩ := twins
    obtain ⟨us, rfl⟩ := List.head?_eq_some_iff.1 next
    cases read
    exact ⟨['&', '&'], us, rfl, rfl, .conjunction⟩
  · split at read
    · next twins =>
      obtain ⟨rfl, next⟩ := twins
      obtain ⟨us, rfl⟩ := List.head?_eq_some_iff.1 next
      cases read
      exact ⟨['|', '|'], us, rfl, rfl, .disjunction⟩
    · split at read
      · next symbol found =>
        cases read
        exact takes_of_relationAt? found
      · next alone =>
        cases read
        exact ⟨[c], cs, rfl, rfl, sign.isSource alone⟩

theorem takes_of_stringAt (quotes : isQuote c = true) (read : stringAt c cs = (l, length)) :
    Takes (c :: cs) l length := by
  rw [stringAt] at read
  split at read
  · next n found =>
    obtain ⟨body, rest, rfl, rfl, closes⟩ := closes_of_closingQuote? found
    have closed := closes.closingQuote? (ne_backslash_of_isQuote quotes) []
    rw [List.append_nil] at closed
    cases read
    rw [take_append_pred]
    exact ⟨c :: body, rest, rfl, rfl, .string quotes closed⟩
  · next never =>
    cases read
    exact ⟨c :: cs, [], by simp, rfl, .tail quotes never⟩

/-- Every lexeme is written as the characters that it takes from the text. -/
theorem takes_of_lexemeAt {sign : Bool} (ink : Text.isBlank c = false) (read : lexemeAt sign c cs = .ok (l, length)) :
    Takes (c :: cs) l length := by
  rw [lexemeAt] at read
  split at read
  · next quotes => exact takes_of_stringAt quotes (Except.ok.inj read)
  · next unquoted =>
    split at read
    · exact takes_of_numberAt read
    · next number =>
      split at read
      · exact takes_of_wordAt read
      · next other =>
        simp only [Bool.or_eq_true, not_or, Bool.not_eq_true, beq_eq_false_iff_ne] at other
        have digit : c ≠ '-' → Text.isDigit c = false := by
          intro minus
          simpa [startsNumber_cons minus] using number
        have start : isWordStart c = false := by
          rw [Bool.eq_false_iff]
          intro start
          rw [isWordStart, Bool.or_eq_true, beq_iff_eq] at start
          rcases start with letter | underscore
          · rw [Text.isLetter_of_isAsciiLetter letter] at other
            cases other.1
          · exact other.2 (by simpa using underscore)
        exact takes_of_signAt ⟨ink, by simpa using unquoted, digit, other.1, start⟩ (Except.ok.inj read)

end

section
variable {l : Lexeme} {source : List Char}

theorem isOpen_wordLexeme (w : String) : (wordLexeme w).isOpen = false := by
  rcases wordLexeme_cases w with ⟨-, same⟩ | ⟨-, same⟩ | ⟨-, same⟩ | same <;> rw [same] <;> rfl

theorem Lexeme.IsSource.of_isOpen (written : l.IsSource source) (opens : l.isOpen = true) :
    l = .stray (String.ofList source) ∧ ∃ quote cs, source = quote :: cs ∧ isQuote quote = true := by
  cases written with
  | word start chars =>
      rw [isOpen_wordLexeme] at opens
      cases opens
  | unknown alone =>
      exact ⟨rfl, _, [], rfl, by simpa [isOpen] using opens⟩
  | tail quotes never => exact ⟨rfl, _, _, rfl, quotes⟩
  | _ => cases opens

theorem Closes.getLast? {quote : Char} {body : List Char} (closes : Closes quote body) :
    body.getLast? = some quote := by
  induction closes with
  | quote => rfl
  | escape c closes ih => simp [List.getLast?_cons, ih]
  | plain notBackslash notQuote closes ih => simp [List.getLast?_cons, ih]

theorem closes_of_length {quote : Char} {body : List Char} (found : closingQuote? quote body = some body.length) :
    Closes quote body := by
  obtain ⟨front, rest, same, whole, closes⟩ := closes_of_closingQuote? found
  have none : rest = [] := by
    rw [same, List.length_append, Nat.left_eq_add] at whole
    exact List.eq_nil_of_length_eq_zero whole
  rwa [same, none, List.append_nil]

theorem isNumeric_of_mem_text {p : Numeral.Parts} (digits : ∀ d ∈ p.whole ++ p.fraction, Text.isDecimal d = true) :
    ∀ d ∈ p.text, isNumeric d = true := by
  have digit : ∀ d ∈ p.whole ++ p.fraction, isNumeric d = true := fun d member => by simp [isNumeric, digits d member]
  have sign : ∀ d ∈ (if p.negative then ['-'] else []), isNumeric d = true := by
    split <;> exact List.all_eq_true.1 (by decide)
  rw [List.forall_mem_append] at digit
  rw [Numeral.Parts.text, List.forall_mem_append, List.forall_mem_append]
  refine ⟨sign, digit.1, ?_⟩
  split
  · exact List.forall_mem_nil _
  · exact List.forall_mem_cons.2 ⟨rfl, digit.2⟩

theorem Lexeme.IsSource.endsInked (written : l.IsSource source) (closed : l.isOpen = false) :
    Text.EndsInked source := by
  cases written with
  | word start chars =>
      refine Text.endsInked_of_forall (List.forall_mem_cons.2 ⟨?_, fun d member => ?_⟩)
      · exact Text.ink_of_class (by decide) start
      · exact Text.ink_of_class (by decide) (chars d member)
  | relation known =>
      have signs : ∀ symbol ∈ relationSymbols, symbol.toList.any Text.isBlank = false := by decide
      exact Text.endsInked_of_forall (Text.forall_mem_of_any (signs _ known))
  | @number p some digits =>
      have numeric := isNumeric_of_mem_text digits
      exact Text.endsInked_of_forall fun d member => Text.ink_of_class (by decide) (numeric d member)
  | @string quote body quotes closes =>
      have ink : Text.isBlank quote = false := Text.ink_of_class (by decide) quotes
      simpa [Text.EndsInked, List.getLast?_cons, (closes_of_length closes).getLast?] using ink
  | @unknown c alone =>
      have signs : ∀ c ∈ ['-', '&', '|'], Text.isBlank c = false := Text.forall_mem_of_any (by decide)
      refine Text.endsInked_of_forall (List.forall_mem_singleton.2 ?_)
      rcases alone with ⟨foreign, -⟩ | sign
      · simp only [isForeign, Bool.not_eq_true', Bool.or_eq_false_iff] at foreign
        exact foreign.1.1.1.1
      · exact signs c sign
  | tail quotes never =>
      simp [isOpen, quotes] at closed
  | _ => exact Text.endsInked_of_forall (Text.forall_mem_of_any (by decide))

theorem Lexeme.IsSource.ne_nil (written : l.IsSource source) : source ≠ [] := by
  cases written with
  | relation known =>
      have signs : ∀ symbol ∈ relationSymbols, symbol.toList ≠ [] := by decide
      exact signs _ known
  | number some digits => simp [Numeral.Parts.text, some]
  | _ => exact List.cons_ne_nil _ _

theorem length_of_isOpen {sign : Bool} {c : Char} {cs : List Char} {length : Nat} (ink : Text.isBlank c = false)
    (read : lexemeAt sign c cs = .ok (l, length)) (opens : l.isOpen = true) : length = cs.length + 1 := by
  obtain ⟨source, rest, same, -, written⟩ := takes_of_lexemeAt ink read
  obtain ⟨-, quote, us, rfl, quotes⟩ := written.of_isOpen opens
  obtain ⟨rfl, -⟩ := List.cons.inj same
  rw [lexemeAt, if_pos quotes, stringAt] at read
  split at read
  · cases read
    cases opens
  · cases read
    rfl

end

/-- The tokens of a text that begins at a position, each with what it is written as. -/
inductive Layout : (start : Nat) → List Char → List (Token × List Char) → Prop where
  | nil {start : Nat} : Layout start [] []
  | blank {start : Nat} {c : Char} {cs : List Char} {ps : List (Token × List Char)} : Text.isBlank c = true →
      Layout (start + 1) cs ps → Layout start (c :: cs) ps
  | token {start : Nat} {l : Lexeme} {source rest : List Char} {ps : List (Token × List Char)} : l.IsSource source →
      (l.isOpen = true → rest = []) → Layout (start + source.length) rest ps →
      Layout start (source ++ rest) ((⟨l, start⟩, source) :: ps)

theorem Layout.cons {start length : Nat} {sign : Bool} {c : Char} {cs : List Char} {l : Lexeme}
    {ps : List (Token × List Char)} (layout : Layout (start + 1 + (length - 1)) (cs.drop (length - 1)) ps)
    (ink : Text.isBlank c = false) (read : lexemeAt sign c cs = .ok (l, length)) :
    ∃ qs, qs.map Prod.fst = ⟨l, start⟩ :: ps.map Prod.fst ∧ Layout start (c :: cs) qs := by
  obtain ⟨source, rest, same, size, written⟩ := takes_of_lexemeAt ink read
  cases source with
  | nil => exact absurd rfl written.ne_nil
  | cons d more =>
      rw [List.cons_append] at same
      obtain ⟨rfl, rfl⟩ := List.cons.inj same
      subst size
      rw [List.length_cons, Nat.add_sub_cancel, List.drop_left, Nat.add_right_comm, Nat.add_assoc] at layout
      refine ⟨(⟨l, start⟩, c :: more) :: ps, rfl, .token written (fun opens => ?_) layout⟩
      have size := length_of_isOpen ink read opens
      simpa using size

theorem layout_of_tokensFrom {start skip : Nat} {sign : Bool} {cs : List Char} {ts : List Token}
    (read : tokensFrom start sign skip cs = .ok ts) :
    ∃ ps, ps.map Prod.fst = ts ∧ Layout (start + skip) (cs.drop skip) ps := by
  induction cs generalizing start skip sign ts with
  | nil =>
      cases read
      rw [List.drop_nil]
      exact ⟨[], rfl, .nil⟩
  | cons c cs ih =>
      cases skip with
      | succ skip =>
          obtain ⟨ps, same, layout⟩ := ih read
          exact ⟨ps, same, by rwa [Nat.add_right_comm] at layout⟩
      | zero =>
          cases ink : Text.isBlank c with
          | true =>
              rw [tokensFrom_blank ink] at read
              obtain ⟨ps, same, layout⟩ := ih read
              exact ⟨ps, same, .blank ink layout⟩
          | false =>
              cases found : lexemeAt sign c cs with
              | error fault =>
                  rw [tokensFrom_fault ink found] at read
                  cases read
              | ok head =>
                  obtain ⟨l, length⟩ := head
                  rw [tokensFrom_cons ink found] at read
                  cases later : tokensFrom (start + 1) l.expectsValue (length - 1) cs with
                  | error fault =>
                      rw [later] at read
                      cases read
                  | ok us =>
                      rw [later] at read
                      cases read
                      obtain ⟨ps, rfl, layout⟩ := ih later
                      exact layout.cons ink found

section
variable {start : Nat} {cs text before : List Char} {ps : List (Token × List Char)}

theorem Layout.within (layout : Layout start cs ps) :
    ∀ p ∈ ps, start ≤ p.1.position ∧ p.1.position < start + cs.length := by
  induction layout with
  | nil => exact List.forall_mem_nil _
  | blank blank layout ih =>
      intro p member
      have within := ih p member
      rw [List.length_cons]
      omega
  | token written tail layout ih =>
      have some := List.length_pos_iff.2 written.ne_nil
      rw [List.length_append]
      intro p member
      rcases List.mem_cons.1 member with rfl | later
      · dsimp only
        omega
      · have within := ih p later
        omega

theorem position_lt_of_tokensFrom {sign : Bool} {ts : List Token} (read : tokensFrom start sign 0 cs = .ok ts) :
    ∀ t ∈ ts, t.position < start + cs.length := by
  obtain ⟨ps, rfl, layout⟩ := layout_of_tokensFrom read
  rw [List.forall_mem_map]
  exact fun p member => (layout.within p member).2

theorem Layout.rising (layout : Layout start cs ps) :
    ((ps.map Prod.fst).map Token.position ++ [start + cs.length]).Pairwise (· < ·) := by
  induction layout with
  | nil => exact List.pairwise_singleton _ _
  | blank blank layout ih => rwa [List.length_cons, Nat.add_comm _ 1, ← Nat.add_assoc]
  | @token start l source rest ps written tail layout ih =>
      have some := List.length_pos_iff.2 written.ne_nil
      have within := layout.within
      rw [List.length_append, ← Nat.add_assoc, List.map_cons, List.map_cons, List.cons_append, List.pairwise_cons]
      refine ⟨fun next member => ?_, ih⟩
      rcases List.mem_append.1 member with later | last
      · rw [List.map_map, List.mem_map] at later
        obtain ⟨p, later, rfl⟩ := later
        have := within p later
        dsimp only [Function.comp_apply]
        omega
      · rw [List.mem_singleton.1 last]
        dsimp only
        omega

theorem Layout.gap (layout : Layout start cs ps) :
    ∃ blanks rest, cs = blanks ++ rest ∧ (∀ c ∈ blanks, Text.isBlank c = true) ∧
      position (start + cs.length) (ps.map Prod.fst) = start + blanks.length := by
  induction layout with
  | nil => exact ⟨[], [], rfl, List.forall_mem_nil _, rfl⟩
  | @blank start c cs ps blank layout ih =>
      obtain ⟨blanks, rest, rfl, all, same⟩ := ih
      refine ⟨c :: blanks, rest, rfl, List.forall_mem_cons.2 ⟨blank, all⟩, ?_⟩
      rw [List.length_cons, List.length_cons, Nat.add_comm _ 1, ← Nat.add_assoc, same]
      omega
  | token written tail layout ih => exact ⟨[], _, rfl, List.forall_mem_nil _, rfl⟩

theorem Layout.sources_eq (layout : Layout start cs ps) (whole : text = before ++ cs) (here : before.length = start) :
    sources text (ps.map Prod.fst) = ps := by
  induction layout generalizing before with
  | nil => rfl
  | @blank start c cs ps blank layout ih =>
      have whole : text = before ++ [c] ++ cs := by simp [whole]
      exact ih whole (by simp [here])
  | @token start l source rest ps written tail layout ih =>
      have further : text = before ++ source ++ rest := by simp [whole]
      have later := ih further (by simp [here])
      obtain ⟨blanks, more, rfl, all, next⟩ := layout.gap
      have size : text.length = start + source.length + (blanks ++ more).length := by
        rw [whole, List.length_append, List.length_append, here, Nat.add_assoc]
      have stretch : (text.drop start).take (position text.length (ps.map Prod.fst) - start) = source ++ blanks := by
        rw [size, next, whole, ← here, List.drop_left, ← List.append_assoc, Nat.add_assoc, Nat.add_sub_cancel_left,
          ← List.length_append, List.take_left]
      have found : Token.source text (position text.length (ps.map Prod.fst)) ⟨l, start⟩ = source := by
        rw [Token.source]
        dsimp only
        rw [stretch]
        split
        · next opens =>
          have none : blanks = [] ∧ more = [] := by simpa using tail opens
          rw [none.1, List.append_nil]
        · next closed =>
          have closed : l.isOpen = false := by simpa using closed
          rw [Text.stripEnd_append_of_isBlank _ all, (written.endsInked closed).stripEnd]
      rw [List.map_cons, sources, found, later]

theorem Layout.isSource (layout : Layout start cs ps) : ∀ p ∈ ps, p.1.lexeme.IsSource p.2 := by
  induction layout with
  | nil => exact List.forall_mem_nil _
  | blank blank layout ih => exact ih
  | token written tail layout ih => exact List.forall_mem_cons.2 ⟨written, ih⟩

theorem Layout.tail (layout : Layout start cs ps) (whole : text = before ++ cs) (here : before.length = start) :
    ∀ p ∈ ps, p.1.lexeme.isOpen = true →
      p.1.lexeme = .stray (String.ofList (text.drop p.1.position)) ∧ (ps.map Prod.fst).getLast? = some p.1 := by
  induction layout generalizing before with
  | nil => exact List.forall_mem_nil _
  | @blank start c cs ps blank layout ih =>
      have whole : text = before ++ [c] ++ cs := by simp [whole]
      exact ih whole (by simp [here])
  | @token start l source rest ps written tail layout ih =>
      have further : text = before ++ source ++ rest := by simp [whole]
      have later := ih further (by simp [here])
      refine List.forall_mem_cons.2 ⟨fun opens => ?_, fun p member opens => ?_⟩
      · have none := tail opens
        have last : ps = [] := by
          rw [List.eq_nil_iff_forall_not_mem]
          intro p member
          have within := layout.within p member
          simp only [none, List.length_nil] at within
          omega
        refine ⟨?_, by rw [last]; rfl⟩
        rw [(written.of_isOpen opens).1, whole, ← here, List.drop_left, none, List.append_nil]
      · obtain ⟨same, last⟩ := later p member opens
        exact ⟨same, by rw [List.map_cons, List.getLast?_cons, last]; rfl⟩

theorem Layout.once (layout : Layout start cs ps) {i : Nat} {c : Char} (here : cs[i]? = some c)
    (ink : Text.isBlank c = false) :
    ps.countP (fun p => p.1.position ≤ start + i && start + i < p.1.position + p.2.length) = 1 := by
  induction layout generalizing i with
  | nil => cases here
  | @blank start d cs ps blank layout ih =>
      cases i with
      | zero =>
          cases here
          rw [blank] at ink
          cases ink
      | succ i =>
          have later := ih here
          rwa [Nat.add_right_comm] at later
  | @token start l source rest ps written tail layout ih =>
      have within := layout.within
      rw [List.countP_cons]
      by_cases first : i < source.length
      · have none : ps.countP (fun p => p.1.position ≤ start + i && start + i < p.1.position + p.2.length) = 0 := by
          rw [List.countP_eq_zero]
          intro p member
          have := within p member
          simp only [Bool.and_eq_true, decide_eq_true_eq, not_and]
          omega
        simp [none, first]
      · rw [List.getElem?_append_right (Nat.le_of_not_lt first)] at here
        have later := ih here
        have same : start + source.length + (i - source.length) = start + i := by omega
        rw [same] at later
        simp [later, first]

end

theorem isCover_of_tokenize {s : String} {ts : List Token} (read : tokenize s = .ok ts) : IsCover s.toList ts := by
  obtain ⟨ps, rfl, layout⟩ := layout_of_tokensFrom read
  rw [Nat.zero_add, List.drop_zero] at layout
  have same : sources s.toList (ps.map Prod.fst) = ps := layout.sources_eq (List.nil_append _).symm rfl
  refine ⟨?_, ?_, ?_, ?_⟩
  · simpa using layout.rising
  · rw [same]
    exact layout.isSource
  · intro t member opens
    obtain ⟨p, listed, rfl⟩ := List.mem_map.1 member
    exact layout.tail (List.nil_append _).symm rfl p listed opens
  · intro i c here ink
    rw [same]
    simpa using layout.once here ink

/-- A text without overlong numerals is refused only for a letter that is not ASCII or a digit that is not decimal,
outside of its strings; else its tokens share out all of its characters but the blanks between them. -/
theorem tokenize_lossless (s : String) (short : HasShortNumerals (unquotedText (.outside false) s.toList)) :
    ((∃ fault, tokenize s = .error fault) ↔ ∃ c ∈ unquotedText (.outside false) s.toList,
      Text.isLetter c = true ∧ Text.isAsciiLetter c = false ∨ Text.isDigit c = true ∧ Text.isDecimal c = false) ∧
    ∀ ts, tokenize s = .ok ts → IsCover s.toList ts := by
  refine ⟨?_, fun ts read => isCover_of_tokenize read⟩
  have refused : (∃ fault, tokenize s = .error fault) ↔ (tokenize s).isOk = false := by
    cases tokenize s with
    | error fault => exact ⟨fun _ => rfl, fun _ => ⟨fault, rfl⟩⟩
    | ok ts => exact ⟨fun ⟨fault, same⟩ => (nomatch same), fun same => (nomatch same)⟩
  rw [refused, isOk_tokenize, isOk_lexemes short, Bool.not_eq_false', List.any_eq_true]
  simp only [isOutcast_iff]

theorem tokenize_lossless_open : ∃ ts, tokenize "Kind!=\"a\\\"b\"  && -12 'x  " = .ok ts ∧ ts.length = 6 ∧
    IsCover "Kind!=\"a\\\"b\"  && -12 'x  ".toList ts := by
  obtain ⟨-, cover⟩ := tokenize_lossless "Kind!=\"a\\\"b\"  && -12 'x  " (by decide +kernel)
  exact ⟨_, rfl, rfl, cover _ rfl⟩

end Expr

end TabularAudit
