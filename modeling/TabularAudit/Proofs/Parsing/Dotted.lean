import TabularAudit.Proofs.Expr.Recovery
import TabularAudit.Proofs.Parsing.Completeness

/-!
Words with dots between them are read as one name, and what is linked behind them goes on from that name.
-/

namespace TabularAudit.Expr

theorem map_lexeme_of_areLike {ts : List Token} {ls : List Lexeme} (like : AreLike ts (placed ls))
    (fixed : ∀ l ∈ ls, l.isFixed = true) : ts.map Token.lexeme = ls := by
  induction ls generalizing ts with
  | nil =>
      cases like
      rfl
  | cons l ls ih =>
      obtain ⟨p, us, rfl, others⟩ := (@parallel_areLike [] [] 0 0).starts' like (fixed l List.mem_cons_self)
      rw [List.map_cons, ih others fun m member => fixed m (List.mem_cons_of_mem l member)]

theorem parse_of_derives {s : String} (d : Grammar.Disjunction) (read : lexemes true s.toList = .ok d.yield)
    (fixed : ∀ l ∈ d.yield, l.isFixed = true) : parse s = .ok d.node := by
  rcases tokenize_normalize s with ⟨fault, _, failed, -⟩ | ⟨ls, ts, found, tokens, like⟩
  · cases read.symm.trans failed
  · cases read.symm.trans found
    rw [parse, tokens]
    exact parseTokens_of_yield d (map_lexeme_of_areLike like fixed)

def isPlainWord (w : String) : Bool :=
  match w.toList with
  | [] => false
  | c :: cs => Text.isAsciiLetter c && cs.all isWordChar && wordLexeme w = .word w && constant? w = none && !isIt w

theorem of_isPlainWord {w : String} (plain : isPlainWord w = true) : constant? w = none ∧ isIt w = false := by
  rw [isPlainWord] at plain
  split at plain
  · cases plain
  · simp only [Bool.and_eq_true, decide_eq_true_eq, Bool.not_eq_true'] at plain
    exact ⟨plain.1.2, plain.2⟩

theorem lexemes_plain {sign : Bool} {w : String} {rest : List Char} (plain : isPlainWord w = true)
    (ends : BeginsWithout isWordChar rest) :
    lexemes sign (w.toList ++ rest) = (lexemes false rest).map (.word w :: ·) := by
  rw [isPlainWord] at plain
  split at plain
  · cases plain
  · next c cs spelled =>
    simp only [Bool.and_eq_true, decide_eq_true_eq] at plain
    obtain ⟨⟨⟨⟨letter, chars⟩, word⟩, -⟩, -⟩ := plain
    have start : isWordStart c = true := by rw [isWordStart, letter, Bool.true_or]
    obtain ⟨ink, unquoted, minus, digit⟩ := forall_of_isWordStart
      (p := fun c => Text.isBlank c = false ∧ isQuote c = false ∧ c ≠ '-' ∧ Text.isDigit c = false) (by decide) start
    have number : startsNumber sign (c :: (cs ++ rest)) = false := by rw [startsNumber_cons minus, digit]
    have read : lexemeAt sign c (cs ++ rest) = .ok (.word w, cs.length + 1) := by
      rw [lexemeAt_word (Text.isLetter_of_isAsciiLetter letter) start ⟨unquoted, number⟩ (List.all_eq_true.1 chars)
        ends, ← spelled, String.ofList_toList, word]
    rw [spelled, List.cons_append, lexemes_cons ink read, Nat.add_sub_cancel, List.drop_left]
    rfl

theorem lexemes_dot (sign : Bool) (cs : List Char) :
    lexemes sign ('.' :: cs) = (lexemes false cs).map (.dot :: ·) := by
  have read : lexemeAt sign '.' cs = .ok (.dot, 1) := by
    rw [lexemeAt, startsNumber_cons (by decide)]
    rfl
  exact lexemes_cons (by decide) read

def Grammar.Links.parts : List String → Grammar.Links → Grammar.Links
  | [], l => l
  | w :: ws, l => .part w (parts ws l)

section
variable {head : String} {ws : List String} {l : Grammar.Links} {rest : List Char}

theorem node_parts (rest : List String) : (Grammar.Links.parts ws l).node (.name head rest) =
    l.node (.name head (rest ++ ws)) := by
  induction ws generalizing rest with
  | nil => rw [List.append_nil, Grammar.Links.parts]
  | cons w ws ih =>
      rw [Grammar.Links.parts, Grammar.Links.node, Node.extended, ih, List.append_assoc, List.singleton_append]

theorem isFixed_parts (fixed : ∀ m ∈ l.yield, m.isFixed = true) :
    ∀ m ∈ (Grammar.Links.parts ws l).yield, m.isFixed = true := by
  induction ws with
  | nil => exact fixed
  | cons w ws ih =>
      rw [Grammar.Links.parts, Grammar.Links.yield, List.forall_mem_cons, List.forall_mem_cons]
      exact ⟨rfl, rfl, ih⟩

def dotted (ws : List String) : List Char := ws.flatMap fun w => '.' :: w.toList

theorem beginsWithout_dotted (ends : BeginsWithout isWordChar rest) : BeginsWithout isWordChar (dotted ws ++ rest) := by
  cases ws with
  | nil => exact ends
  | cons w ws => exact (beginsWithout_cons _ _ _).2 (by decide)

theorem lexemes_dotted (plain : ∀ w ∈ ws, isPlainWord w = true) (ends : BeginsWithout isWordChar rest)
    (read : lexemes false rest = .ok l.yield) :
    lexemes false (dotted ws ++ rest) = .ok (Grammar.Links.parts ws l).yield := by
  induction ws with
  | nil => exact read
  | cons w ws ih =>
      have later := ih fun v member => plain v (List.mem_cons_of_mem w member)
      have whole : dotted (w :: ws) ++ rest = '.' :: (w.toList ++ (dotted ws ++ rest)) := by simp [dotted]
      rw [whole, lexemes_dot, lexemes_plain (plain w List.mem_cons_self) (beginsWithout_dotted ends), later]
      rfl

theorem toList_join (head : String) (ws : List String) :
    (Text.join "." (head :: ws)).toList = head.toList ++ dotted ws := by
  induction ws generalizing head with
  | nil => simp [Text.join, dotted]
  | cons w ws ih => simp [Text.join, ih w, dotted]

theorem parse_linked {s : String} (plain : ∀ w ∈ head :: ws, isPlainWord w = true)
    (ends : BeginsWithout isWordChar s.toList) (read : lexemes false s.toList = .ok l.yield)
    (fixed : ∀ m ∈ l.yield, m.isFixed = true) :
    parse (Text.join "." (head :: ws) ++ s) = .ok (l.node (.name head ws)) := by
  obtain ⟨first, others⟩ := List.forall_mem_cons.1 plain
  obtain ⟨free, other⟩ := of_isPlainWord first
  let chain : Grammar.Chain := .linked (.name head free other) (.parts ws l)
  have whole : lexemes true (Text.join "." (head :: ws) ++ s).toList = .ok chain.yield := by
    rw [String.toList_append, toList_join, List.append_assoc, lexemes_plain first (beginsWithout_dotted ends),
      lexemes_dotted others ends read]
    rfl
  have tree := parse_of_derives (.one (.one (.plain (.plain chain)))) whole
    (List.forall_mem_cons.2 ⟨rfl, isFixed_parts fixed⟩)
  rw [tree]
  exact congrArg Except.ok (node_parts [])

end

end TabularAudit.Expr
