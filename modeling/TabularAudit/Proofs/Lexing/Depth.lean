import TabularAudit.Proofs.Lexing.Normal
import TabularAudit.Proofs.Lexing.Surface
import TabularAudit.Proofs.Parsing.Outline

/-!
The tokens of depth zero, told from the surface of a text. Where no sign or word there ends an operand, no token does;
a character there that begins no lexeme is a token that begins nothing.
-/

namespace TabularAudit.Expr

section
variable {c : Char} {more rest text top : List Char} {l : Lexeme} {depth : Nat} {t : Token} {ts : List Token}

/-- What the surface `top` of a text says about its tokens. -/
structure Shows (depth : Nat) (top : List Char) (ts : List Token) : Prop where
  balanced : (depth : Int) + balance ts = 0
  unbroken : IsUnbroken top → Clears Lexeme.endsOperand depth ts
  foreign : (∃ c ∈ top, isForeign c = true) → ¬Clears Lexeme.isStray depth ts

def surfaceOf (depth : Nat) (cs top : List Char) : List Char := if depth = 0 then cs ++ top else top

theorem Shows.cons {cs : List Char} (later : Shows (t.lexeme.depthAfter depth) top ts)
    (opens : depth = 0 → t.lexeme ≠ .closing)
    (unbroken : depth = 0 → IsUnbroken (cs ++ top) → t.lexeme.endsOperand = false ∧ IsUnbroken top)
    (foreign : ∀ c ∈ cs, isForeign c = true → t.lexeme.isStray = true) :
    Shows depth (surfaceOf depth cs top) (t :: ts) := by
  have balanced : (depth : Int) + balance (t :: ts) = 0 := by
    rw [← depthAfter_add_balance fun closing => opens closing.1 closing.2]
    exact later.balanced
  by_cases level : depth = 0
  · rw [surfaceOf, if_pos level]
    refine ⟨balanced, ?_, ?_⟩
    · intro whole
      obtain ⟨goes, behind⟩ := unbroken level whole
      exact ⟨by simp [goes], later.unbroken behind⟩
    · rintro ⟨c, member, begins⟩ clear
      rcases List.mem_append.1 member with here | behind
      · exact clear.1 ⟨level, foreign c here begins⟩
      · exact later.foreign ⟨c, behind, begins⟩ clear.2
  · rw [surfaceOf, if_neg level]
    refine ⟨balanced, ?_, ?_⟩
    · intro whole
      exact ⟨fun stop => level stop.1, later.unbroken whole⟩
    · intro begins clear
      exact later.foreign begins clear.2

theorem ne_of_class {p : Char → Bool} {d : Char} (off : p c = false) (on : p d = true) : d ≠ c := by
  rintro rfl
  rw [off] at on
  cases on

theorem surfaceOf_cons (depth : Nat) (c : Char) (cs top : List Char) :
    surfaceOf depth [c] (surfaceOf depth cs top) = surfaceOf depth (c :: cs) top := by
  by_cases level : depth = 0 <;> simp [surfaceOf, level]

theorem ungrouped?_cons (depth : Nat) (c : Char) (text : List Char) :
    ungrouped? depth (c :: text) =
      (if c = '(' then ungrouped? (depth + 1) text
        else if c = ')' then if depth = 0 then none else ungrouped? (depth - 1) text
        else ungrouped? depth text).map (surfaceOf depth [c]) := by
  rw [ungrouped?]
  by_cases level : depth = 0
  · subst level
    rfl
  · have kept : surfaceOf depth [c] = id := funext fun top => if_neg level
    simp [kept, level]

theorem ungrouped?_append (plain : ∀ d ∈ more, d ≠ '(' ∧ d ≠ ')') (depth : Nat) (text : List Char) :
    ungrouped? depth (more ++ text) = (ungrouped? depth text).map (surfaceOf depth more) := by
  induction more with
  | nil =>
      have kept : surfaceOf depth [] = id := funext fun top => by simp [surfaceOf]
      simp [kept]
  | cons d more ih =>
      have first := plain d (by simp)
      have behind := ih fun e member => plain e (by simp [member])
      rw [List.cons_append, ungrouped?_cons, if_neg first.1, if_neg first.2, behind, Option.map_map]
      exact congrArg (Option.map · _) (funext (surfaceOf_cons depth d more))

theorem wordLexeme_level (w : String) (depth : Nat) :
    (wordLexeme w).depthAfter depth = depth ∧ wordLexeme w ≠ .closing := by
  rcases wordLexeme_cases w with ⟨-, same⟩ | ⟨-, same⟩ | ⟨-, same⟩ | same <;> exact same ▸ ⟨rfl, nofun⟩

theorem ungrouped?_lexeme (spelled : Spelled c more rest l) (read : ungrouped? depth (c :: more ++ text) = some top) :
    (depth = 0 → l ≠ .closing) ∧
      ∃ later, ungrouped? (l.depthAfter depth) text = some later ∧ top = surfaceOf depth (c :: more) later := by
  have plain : (∀ d ∈ c :: more, d ≠ '(' ∧ d ≠ ')') → l.depthAfter depth = depth ∧ l ≠ .closing →
      (depth = 0 → l ≠ .closing) ∧
        ∃ later, ungrouped? (l.depthAfter depth) text = some later ∧ top = surfaceOf depth (c :: more) later := by
    intro chars level
    rw [ungrouped?_append chars, Option.map_eq_some_iff] at read
    obtain ⟨later, found, same⟩ := read
    exact ⟨fun _ => level.2, later, by rw [level.1, found], same.symm⟩
  cases spelled with
  | number v digits =>
      exact plain (fun d member => ⟨ne_of_class rfl (digits d member), ne_of_class rfl (digits d member)⟩) ⟨rfl, by simp⟩
  | word start chars ends =>
      have word : ∀ d ∈ c :: more, isWordChar d = true := by simpa [isWordChar, start] using chars
      refine plain (fun d member => ⟨ne_of_class rfl (word d member), ne_of_class rfl (word d member)⟩) ?_
      exact wordLexeme_level _ depth
  | conjunction first second => exact plain (by simp [first, second]) ⟨rfl, by simp⟩
  | disjunction first second => exact plain (by simp [first, second]) ⟨rfl, by simp⟩
  | relation symbol chars =>
      refine plain (fun d member => ?_) ⟨rfl, by simp⟩
      have sign := chars d member
      constructor <;> rintro rfl <;> simp at sign
  | sign other alone =>
      subst alone
      by_cases opening : c = '('
      · subst opening
        rw [List.cons_append, ungrouped?_cons, if_pos rfl, Option.map_eq_some_iff] at read
        obtain ⟨later, found, same⟩ := read
        exact ⟨by simp [signOf], later, found, same.symm⟩
      · by_cases closing : c = ')'
        · subst closing
          rw [List.cons_append, ungrouped?_cons, if_neg opening, if_pos rfl, Option.map_eq_some_iff] at read
          obtain ⟨later, found, same⟩ := read
          split at found
          · cases found
          · next level => exact ⟨fun zero => absurd zero level, later, found, same.symm⟩
        · refine plain (by simp [opening, closing]) ?_
          unfold signOf
          split <;> first | exact ⟨rfl, by simp⟩ | contradiction

theorem isStray_of_isForeign (spelled : Spelled c more rest l) {d : Char} (member : d ∈ c :: more)
    (foreign : isForeign d = true) : l.isStray = true := by
  rw [isForeign, Bool.not_eq_true', Bool.or_eq_false_iff, Bool.or_eq_false_iff, Bool.or_eq_false_iff] at foreign
  obtain ⟨⟨⟨-, decimal⟩, start⟩, unlisted⟩ := foreign
  have others : d ∉ signChars := by
    intro listed
    rw [List.contains_iff_mem.2 listed] at unlisted
    cases unlisted
  cases spelled with
  | number v digits =>
      have numeric := digits d member
      rw [isNumeric, decimal, Bool.false_or, Bool.or_eq_true, beq_iff_eq, beq_iff_eq] at numeric
      rcases numeric with rfl | rfl
      · exact absurd (by decide) others
      · exact absurd (by decide) others
  | word letter chars ends =>
      have word : ∀ d ∈ c :: more, isWordChar d = true := by simpa [isWordChar, letter] using chars
      have digit := word d member
      rw [isWordChar, start, Bool.false_or] at digit
      rw [Text.isDecimal_of_isAsciiDigit digit] at decimal
      cases decimal
  | conjunction first second =>
      subst first second
      obtain rfl : d = '&' := by simpa using member
      exact absurd (by decide) others
  | disjunction first second =>
      subst first second
      obtain rfl : d = '|' := by simpa using member
      exact absurd (by decide) others
  | relation symbol chars =>
      have listed : ['=', '!', '<', '>'] ⊆ signChars := by decide
      exact absurd (listed (chars d member)) others
  | sign other alone =>
      subst alone
      obtain rfl : d = c := by simpa using member
      unfold signOf
      split <;> first | rfl | exact absurd (by decide) others

theorem words_append (plain : ∀ d ∈ more, isWordStart d = false) (cs : List Char) :
    words false (more ++ cs) = words false cs := by
  induction more with
  | nil => rfl
  | cons d more ih =>
      have behind := ih fun e member => plain e (by simp [member])
      simp [words, plain d, behind]

theorem words_true_append (chars : ∀ d ∈ more, isWordChar d = true) {cs : List Char}
    (ends : BeginsWithout isWordChar cs) : words true (more ++ cs) = words false cs := by
  induction more with
  | nil =>
      cases cs with
      | nil => rfl
      | cons d cs =>
          have off : isWordChar d = false := ends d rfl
          simp [words, off]
  | cons d more ih => simp [words, chars d, ih fun e member => chars e (by simp [member])]

theorem words_word (start : isWordStart c = true) (chars : ∀ d ∈ more, isWordChar d = true) {cs : List Char}
    (ends : BeginsWithout isWordChar cs) :
    words false (c :: more ++ cs) = String.ofList (c :: more) :: words false cs := by
  have taken : (more ++ cs).takeWhile isWordChar = more := by
    rw [List.takeWhile_append_of_pos chars, ends.takeWhile.1, List.append_nil]
  rw [List.cons_append, words, Bool.false_and, if_neg Bool.false_ne_true, if_pos start, taken,
    words_true_append chars ends]

theorem IsUnbroken.behind {cs top : List Char} (unbroken : IsUnbroken (cs ++ top))
    (kept : ∀ w ∈ Expr.words false top, w ∈ Expr.words false (cs ++ top)) : IsUnbroken top where
  comma member := unbroken.comma (List.mem_append_right cs member)
  signs :=
    ⟨fun sign => unbroken.signs.1 (sign.trans (List.suffix_append cs top).isInfix),
      fun sign => unbroken.signs.2 (sign.trans (List.suffix_append cs top).isInfix)⟩
  words w member := unbroken.words w (kept w member)

theorem Shows.pass (shows : Shows depth top ts) (start : isWordStart c = false) (native : isForeign c = false) :
    Shows depth (surfaceOf depth [c] top) ts := by
  by_cases level : depth = 0
  · rw [surfaceOf, if_pos level]
    have plain : ∀ d ∈ [c], isWordStart d = false := by simpa using start
    refine ⟨shows.balanced, ?_, ?_⟩
    · intro whole
      exact shows.unbroken (whole.behind fun w member => (words_append plain top).symm ▸ member)
    · rintro ⟨d, member, foreign⟩
      rcases List.mem_append.1 member with here | behind
      · rw [List.mem_singleton.1 here, native] at foreign
        cases foreign
      · exact shows.foreign ⟨d, behind, foreign⟩
  · rw [surfaceOf, if_neg level]
    exact shows

theorem unbroken_lexeme (spelled : Spelled c more rest l) (opens : l ≠ .closing)
    (ends : l.depthAfter 0 = 0 → BeginsWithout isWordChar rest → BeginsWithout isWordChar top)
    (whole : IsUnbroken (c :: more ++ top)) :
    l.endsOperand = false ∧ IsUnbroken top := by
  cases spelled with
  | number v digits =>
      have plain : ∀ d ∈ c :: more, isWordStart d = false := by
        intro d member
        rw [Bool.eq_false_iff]
        intro start
        have numeric := digits d member
        have decimal : Text.isDecimal d = false :=
          forall_of_isWordStart (p := fun c => Text.isDecimal c = false) (by decide) start
        rw [isNumeric, decimal, Bool.false_or, Bool.or_eq_true, beq_iff_eq, beq_iff_eq] at numeric
        rcases numeric with rfl | rfl <;> cases start
      exact ⟨rfl, whole.behind fun w member => (words_append plain top).symm ▸ member⟩
  | word start chars stops =>
      have split := words_word start chars (ends (wordLexeme_level _ 0).1 stops)
      refine ⟨?_, whole.behind fun w member => split ▸ List.mem_cons_of_mem _ member⟩
      have other := whole.words (String.ofList (c :: more)) (split ▸ List.mem_cons_self)
      rcases wordLexeme_cases (String.ofList (c :: more)) with ⟨lower, -⟩ | ⟨lower, -⟩ | ⟨-, same⟩ | same
      · exact absurd lower other.1
      · exact absurd lower other.2
      · rw [same]
        rfl
      · rw [same]
        rfl
  | conjunction first second =>
      subst first second
      exact absurd (List.prefix_append ['&', '&'] top).isInfix whole.signs.1
  | disjunction first second =>
      subst first second
      exact absurd (List.prefix_append ['|', '|'] top).isInfix whole.signs.2
  | relation symbol chars =>
      have all : (['=', '!', '<', '>'].all fun e => !isWordStart e) = true := by decide
      have plain := words_append (fun d member => by simpa using List.all_eq_true.1 all d (chars d member)) top
      exact ⟨rfl, whole.behind fun w member => plain.symm ▸ member⟩
  | sign other alone =>
      subst alone
      have letterless : ∀ d ∈ [c], isWordStart d = false := by simpa using other
      have plain := words_append letterless top
      refine ⟨?_, whole.behind fun w member => plain.symm ▸ member⟩
      have comma : c ≠ ',' := by
        rintro rfl
        exact whole.comma List.mem_cons_self
      unfold signOf at opens ⊢
      split <;> first | rfl | exact absurd rfl opens | exact absurd rfl comma

theorem head?_ungrouped? (read : ungrouped? 0 text = some top) : top.head? = text.head? := by
  cases text with
  | nil => cases read; rfl
  | cons d text =>
      rw [ungrouped?_cons, Option.map_eq_some_iff] at read
      obtain ⟨behind, -, rfl⟩ := read
      rfl

end

section
variable {sign later : Bool} {c : Char} {cs more rest : List Char} {l : Lexeme}

def IsShown (sign : Bool) (cs : List Char) : Prop :=
  ∀ {ls : List Lexeme} {text top : List Char} {depth : Nat} {ts : List Token}, lexemes sign cs = .ok ls →
    unquoted? (.outside false) cs = some text → ungrouped? depth text = some top → ts.map Token.lexeme = ls →
      Shows depth top ts

theorem cons_of_map {x : Except Fault (List Lexeme)} {ls : List Lexeme} {ts : List Token}
    (read : x.map (l :: ·) = .ok ls) (same : ts.map Token.lexeme = ls) :
    ∃ t us, ts = t :: us ∧ t.lexeme = l ∧ x = .ok (us.map Token.lexeme) := by
  cases x with
  | error fault => cases read
  | ok ms =>
      cases read
      cases ts with
      | nil => cases same
      | cons t us =>
          obtain ⟨first, others⟩ := List.cons.inj same
          exact ⟨t, us, rfl, first, others ▸ rfl⟩

theorem IsShown.blank (shown : IsShown sign cs) (blank : Text.isBlank c = true) : IsShown sign (c :: cs) := by
  intro ls text top depth ts read outside level same
  rw [lexemes_blank blank] at read
  rw [unquoted?_cons (unquoted_of_isBlank blank), Option.map_eq_some_iff] at outside
  obtain ⟨text, outside, rfl⟩ := outside
  have plain : ∀ d ∈ [c], d ≠ '(' ∧ d ≠ ')' := by
    simpa using Text.forall_of_isBlank (p := fun c => c ≠ '(' ∧ c ≠ ')') (by decide) blank
  rw [← List.singleton_append, ungrouped?_append plain, Option.map_eq_some_iff] at level
  obtain ⟨top, level, rfl⟩ := level
  have start : isWordStart c = false :=
    Text.forall_of_isBlank (p := fun c => isWordStart c = false) (by decide) blank
  exact (shown read outside level same).pass start (by simp [isForeign, blank])

theorem IsShown.string {body : List Char} (shown : IsShown false rest) (quotes : isQuote c = true)
    (closes : Closes c body) (sign : Bool) : IsShown sign (c :: (body ++ rest)) := by
  intro ls text top depth ts read outside level same
  rw [lexemes_string quotes closes] at read
  rw [unquoted?_string quotes closes, Option.map_eq_some_iff] at outside
  obtain ⟨text, outside, rfl⟩ := outside
  have plain : ∀ d ∈ [c], d ≠ '(' ∧ d ≠ ')' := by
    rcases eq_of_isQuote quotes with rfl | rfl <;> simp
  have start : ∀ d ∈ [c], isWordStart d = false := by
    rw [List.forall_mem_singleton]
    rcases eq_of_isQuote quotes with rfl | rfl <;> decide
  rw [← List.singleton_append, ungrouped?_append plain, Option.map_eq_some_iff] at level
  obtain ⟨top, level, rfl⟩ := level
  obtain ⟨t, us, rfl, kind, readRest⟩ := cons_of_map read same
  have flat : t.lexeme.depthAfter depth = depth := by rw [kind]; rfl
  refine Shows.cons (flat.symm ▸ shown readRest outside level rfl) ?_ ?_ ?_
  · exact fun _ closing => by rw [kind] at closing; cases closing
  · intro _ whole
    rw [kind]
    exact ⟨rfl, whole.behind fun w member => (words_append start top).symm ▸ member⟩
  · intro d member foreign
    rw [List.mem_singleton.1 member, isForeign, quotes] at foreign
    simp at foreign

theorem IsShown.lexeme (shown : IsShown l.expectsValue rest) (spelled : Spelled c more rest l)
    (read : lexemes sign cs = (lexemes l.expectsValue rest).map (l :: ·))
    (outside : unquoted? (.outside false) cs = (unquoted? (.outside false) rest).map (c :: more ++ ·)) :
    IsShown sign cs := by
  intro ls text top depth ts readAll text' level same
  rw [read] at readAll
  rw [outside, Option.map_eq_some_iff] at text'
  obtain ⟨text, text', rfl⟩ := text'
  obtain ⟨t, us, rfl, rfl, readRest⟩ := cons_of_map readAll same
  obtain ⟨opens, top, levelRest, rfl⟩ := ungrouped?_lexeme spelled level
  refine (shown readRest text' levelRest rfl).cons opens ?_ fun d member => isStray_of_isForeign spelled member
  intro zero
  subst zero
  refine unbroken_lexeme spelled (opens rfl) ?_
  intro flat free d head
  rw [flat] at levelRest
  rw [head?_ungrouped? levelRest, head?_unquoted? text'] at head
  exact free d head

theorem isShown (sign : Bool) (cs : List Char) : IsShown sign cs := by
  induction sign, cs using lexing_induction with
  | nil sign =>
      intro ls text top depth ts read outside level same
      rw [lexemes] at read
      cases read
      cases outside
      cases List.map_eq_nil_iff.1 same
      rw [ungrouped?] at level
      split at level
      · next zero =>
        cases level
        exact ⟨by simp [zero, balance], fun _ => zero, fun foreign => by simp at foreign⟩
      · cases level
  | blank sign c cs blank ih => exact ih.blank blank
  | and sign cs ih =>
      refine IsShown.lexeme (l := .conjunction "&&") ih (.conjunction rfl rfl) (lexemes_and sign cs) ?_
      rw [unquoted?_cons rfl, unquoted?_cons rfl, Option.map_map]
      rfl
  | or sign cs ih =>
      refine IsShown.lexeme (l := .disjunction "||") ih (.disjunction rfl rfl) (lexemes_or sign cs) ?_
      rw [unquoted?_cons rfl, unquoted?_cons rfl, Option.map_map]
      rfl
  | string sign c body rest quotes closes ih => exact ih.string quotes closes sign
  | unclosed sign c cs quotes never =>
      intro ls text top depth ts read outside
      rw [unquoted?_unclosed quotes never] at outside
      cases outside
  | other sign c cs l length ink unquoted single read ih =>
      exact ih.lexeme (spelled_of_lexemeAt unquoted read) (lexemes_cons ink read) (unquoted?_lexeme unquoted read)
  | fault sign c cs fault ink unquoted single read =>
      intro ls text top depth ts readAll
      rw [lexemes_fault ink read] at readAll
      cases readAll

theorem not_isNegation_of_lexemeAt {length : Nat} (read : lexemeAt sign c cs = .ok (l, length)) (mark : c ≠ '!')
    (word : Text.lower (String.ofList ((c :: cs).takeWhile isWordChar)) ≠ "not") : l.isNegation = false := by
  by_cases quotes : isQuote c = true
  · rw [lexemeAt, if_pos quotes, stringAt] at read
    split at read <;> cases read <;> rfl
  · have unquoted : isQuote c = false := by simpa using quotes
    have spelled := spelled_of_lexemeAt unquoted read
    cases spelled with
    | number v digits => rfl
    | word start chars ends =>
        have whole : isWordChar c = true := by simp [isWordChar, start]
        have taken : (c :: cs).takeWhile isWordChar = c :: cs.take (length - 1) := by
          conv => lhs; rw [← List.take_append_drop (length - 1) cs]
          rw [List.takeWhile_cons_of_pos whole, List.takeWhile_append_of_pos chars, ends.takeWhile.1, List.append_nil]
        rw [taken] at word
        rcases wordLexeme_cases (String.ofList (c :: cs.take (length - 1))) with ⟨-, same⟩ | ⟨-, same⟩ | ⟨lower, -⟩ | same
        · rw [same]
          rfl
        · rw [same]
          rfl
        · exact absurd lower word
        · rw [same]
          rfl
    | conjunction first second => rfl
    | disjunction first second => rfl
    | relation symbol chars => rfl
    | sign other alone =>
        unfold signOf
        split <;> first | rfl | exact absurd rfl mark

theorem not_isNegation_of_begins {s : String} (begins : beginsNegated s = false) {ls : List Lexeme}
    (read : lexemes sign s.toList = .ok (l :: ls)) : l.isNegation = false := by
  rw [← lexemes_stripStart] at read
  simp only [beginsNegated, Bool.or_eq_false_iff, beq_eq_false_iff_ne] at begins
  have ink : ∀ c ∈ (Text.stripStart s.toList).head?, Text.isBlank c = false := by
    intro c head
    have stopped := List.head?_dropWhile_not Text.isBlank s.toList
    rw [← Text.stripStart, Option.mem_def.1 head] at stopped
    exact stopped
  generalize Text.stripStart s.toList = us at *
  cases us with
  | nil =>
      rw [lexemes] at read
      cases read
  | cons c cs =>
      cases first : lexemeAt sign c cs with
      | error fault =>
          rw [lexemes_fault (ink c rfl) first] at read
          cases read
      | ok found =>
          obtain ⟨m, length⟩ := found
          rw [lexemes_cons (ink c rfl) first] at read
          obtain rfl : m = l := by
            cases behind : lexemes m.expectsValue (cs.drop (length - 1)) with
            | error fault => rw [behind] at read; cases read
            | ok ms => rw [behind] at read; cases read; rfl
          exact not_isNegation_of_lexemeAt first (by simpa using begins.1) begins.2

end

end TabularAudit.Expr
