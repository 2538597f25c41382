import TabularAudit.Proofs.Parsing.Outline

/-!
Groups and unreadable operands in the outline of a formula. A piece with a token that begins nothing at depth zero is
no comparison, and what stands between parentheses is read as if it stood alone.
-/

namespace TabularAudit.Expr

section
variable {stops : Lexeme → Bool} {depth stop : Nat} {ts us : List Token}

theorem clears_of_balance (closes : stops .closing = true) (passed : passOver stops depth ts = [])
    (balanced : (depth : Int) + balance ts = 0) : Clears stops depth ts := by
  induction ts generalizing depth with
  | nil =>
      simp only [balance] at balanced
      change depth = 0
      omega
  | cons t ts ih =>
      rw [passOver] at passed
      split at passed
      · cases passed
      · next goes =>
        refine ⟨goes, ih passed ?_⟩
        rwa [depthAfter_add_balance fun closing => goes ⟨closing.1, closing.2 ▸ closes⟩]

def group (start stop : Nat) (ts : List Token) : List Token := ⟨.opening, start⟩ :: (ts ++ [⟨.closing, stop⟩])

theorem clears_group (opens : stops .opening = false) (clear : Clears Lexeme.endsArgument 0 ts) (start stop : Nat) :
    Clears stops 0 (group start stop ts) := by
  have inside : Clears stops (0 + 0 + 1) (ts ++ [⟨.closing, stop⟩]) :=
    (clears_deeper rfl clear 0 [⟨.closing, stop⟩]).2 ⟨by simp, rfl⟩
  exact ⟨by simp [opens], inside⟩

end

section
variable (text : List Char) {stop : Nat} {ts us : List Token} {t : Token}

theorem primary_group (clear : Clears Lexeme.endsArgument 0 ts) (start stop' : Nat) :
    ∃ r, primary text stop' (group start stop ts) = some r ∧
      r.value = Node.disjunction (disjuncts text stop ts).value ∧ r.rest = [] := by
  have inner : (disjuncts text stop' (ts ++ [⟨.closing, stop⟩])).value = (disjuncts text stop ts).value :=
    disjuncts_ended rfl clear rfl
  have rest : ((disjuncts text stop' (ts ++ [⟨.closing, stop⟩])).map Node.disjunction).rest = [⟨.closing, stop⟩] :=
    (disjuncts_rest _).trans (passOver_append_stop clear rfl [])
  have value : ((disjuncts text stop' (ts ++ [⟨.closing, stop⟩])).map Node.disjunction).value =
      Node.disjunction (disjuncts text stop ts).value := congrArg Node.disjunction inner
  rw [group, primary]
  generalize (disjuncts text stop' (ts ++ [⟨.closing, stop⟩])).map Node.disjunction = r at rest value ⊢
  obtain ⟨n, _, suffix⟩ := r
  subst rest
  exact ⟨_, rfl, value, rfl⟩

/-- A group is one side of a comparison, and stands for what it holds. -/
theorem chain_group (clear : Clears Lexeme.endsArgument 0 ts) (start stop' : Nat) :
    ∃ suffix, chain text stop' (group start stop ts) =
      some ⟨Node.disjunction (disjuncts text stop ts).value, [], suffix⟩ := by
  obtain ⟨⟨n, _, suffix⟩, read, value, rest⟩ := primary_group text clear start stop'
  subst rest value
  refine ⟨suffix, ?_⟩
  rw [chain, read]
  simp only [Option.bind_some, links]
  rfl

theorem comparison_of_chain {r : Read Node ts} (read : chain text stop ts = some r) (rest : r.rest = []) :
    comparison text stop ts = some r := by
  rw [comparison, read, Option.bind_some, Read.next?_of_rest_nil rest]

theorem operand_group (clear : Clears Lexeme.endsArgument 0 ts) (start stop' : Nat) :
    Outline.operand text stop' (group start stop ts) = Node.disjunction (disjuncts text stop ts).value := by
  obtain ⟨suffix, linked⟩ := chain_group text clear start stop'
  rw [Outline.operand, comparison_of_chain text linked rfl]

theorem operand_unreadable (stray : ¬Clears Lexeme.isStray 0 ts) :
    Outline.operand text stop ts = unreadable text (position stop ts) stop := by
  rw [Outline.operand]
  split
  · next n suffix read =>
    obtain ⟨p, same, clear⟩ := comparison_consumes read
    rw [List.append_nil] at same
    subst same
    exact absurd (clear.mono endsComparison_of_isStray) stray
  · rfl

theorem term_of_operand (plain : ∀ t ∈ ts.head?, t.lexeme.isNegation = false) :
    Outline.term text stop ts = Outline.operand text stop ts := by
  rw [Outline.term]
  cases ts with
  | nil => rfl
  | cons t ts =>
      have first := plain t rfl
      rw [List.dropWhile_cons_of_neg (by simp [first]), List.takeWhile_cons_of_neg (by simp [first])]
      rfl

theorem conjunction_of_term (clear : Clears Lexeme.endsOperand 0 ts) :
    Outline.conjunction text stop ts = Outline.term text stop ts := by
  have one : pieces Lexeme.isConjunction stop 0 ts = [(ts, stop)] := by
    refine pieces_of_passOver_eq_nil (fun l cut => ?_) (passOver_of_clears clear)
    cases l <;> first | rfl | cases cut
  rw [Outline.conjunction, one]
  rfl

theorem formula_of_conjunction (clear : Clears Lexeme.endsDisjunct 0 ts) :
    Outline.formula text stop ts = Outline.conjunction text stop ts := by
  have one : pieces Lexeme.isDisjunction stop 0 ts = [(ts, stop)] := by
    refine pieces_of_passOver_eq_nil (fun l cut => ?_) (passOver_of_clears clear)
    rw [Lexeme.endsDisjunct, cut, Bool.true_or]
  rw [Outline.formula, one]
  rfl

theorem formula_of_term (clear : Clears Lexeme.endsOperand 0 ts) :
    Outline.formula text stop ts = Outline.term text stop ts := by
  rw [formula_of_conjunction text (clear.mono endsOperand_of_endsDisjunct), conjunction_of_term text clear]

theorem formula_or (left : Clears Lexeme.endsOperand 0 ts) (right : Clears Lexeme.endsOperand 0 us)
    (cut : t.lexeme.isDisjunction = true) :
    Outline.formula text stop (ts ++ t :: us) =
      .any [Outline.term text t.position ts, Outline.term text stop us] := by
  have wider : ∀ l : Lexeme, l.isDisjunction = true → l.endsOperand = true := by
    intro l cut
    cases l <;> first | rfl | cases cut
  rw [Outline.formula, pieces_append wider left cut, pieces_of_passOver_eq_nil wider (passOver_of_clears right)]
  simp only [List.map_cons, List.map_nil, conjunction_of_term text left, conjunction_of_term text right]
  rfl

theorem formula_and (left : Clears Lexeme.endsOperand 0 ts) (right : Clears Lexeme.endsOperand 0 us)
    (cut : t.lexeme.isConjunction = true) :
    Outline.formula text stop (ts ++ t :: us) =
      .all [Outline.term text t.position ts, Outline.term text stop us] := by
  have wider : ∀ l : Lexeme, l.isConjunction = true → l.endsOperand = true := by
    intro l cut
    cases l <;> first | rfl | cases cut
  have clear : Clears Lexeme.endsDisjunct 0 (ts ++ t :: us) := by
    refine (clears_append (left.mono endsOperand_of_endsDisjunct) _).2 ⟨?_, ?_⟩
    · obtain ⟨spelling, kind⟩ := Lexeme.exists_of_isConjunction cut
      simp [kind, Lexeme.endsDisjunct, Lexeme.isDisjunction, Lexeme.endsArgument]
    · obtain ⟨spelling, kind⟩ := Lexeme.exists_of_isConjunction cut
      rw [kind]
      exact right.mono endsOperand_of_endsDisjunct
  rw [formula_of_conjunction text clear, Outline.conjunction, pieces_append wider left cut,
    pieces_of_passOver_eq_nil wider (passOver_of_clears right)]
  rfl

theorem parseTokens_of_clears (clear : Clears Lexeme.endsArgument 0 ts) :
    parseTokens text stop ts = .ok (Outline.formula text stop ts) := by
  have rest : ((disjuncts text stop ts).map Node.disjunction).rest = [] :=
    (disjuncts_rest ts).trans (passOver_of_clears clear)
  simp only [parseTokens, rest]
  exact congrArg (Except.ok ∘ Node.disjunction) (disjuncts_value text (passOver_of_clears clear))

theorem parseTokens_of_comparison {r : Read Node ts} (read : comparison text stop ts = some r) (rest : r.rest = []) :
    Clears Lexeme.endsComparison 0 ts ∧ parseTokens text stop ts = .ok r.value := by
  obtain ⟨p, same, clear⟩ := comparison_consumes read
  rw [rest, List.append_nil] at same
  subst same
  have plain : ∀ t ∈ ts.head?, t.lexeme.isNegation = false := by
    intro t first
    obtain ⟨us, rfl⟩ := List.head?_eq_some_iff.1 first
    obtain ⟨l, position⟩ := t
    cases l <;> first | rfl | exact absurd ⟨rfl, rfl⟩ clear.1
  obtain ⟨n, _, suffix⟩ := r
  subst rest
  refine ⟨clear, ?_⟩
  rw [parseTokens_of_clears text (clear.mono endsComparison_of_endsArgument),
    formula_of_term text (clear.mono endsComparison_of_endsOperand), term_of_operand text plain, Outline.operand, read]

theorem of_parseTokens {n : Node} (read : parseTokens text stop ts = .ok n) :
    passOver Lexeme.endsArgument 0 ts = [] ∧ n = Node.disjunction (disjuncts text stop ts).value := by
  have rest : ((disjuncts text stop ts).map Node.disjunction).rest = _ := disjuncts_rest ts
  rw [parseTokens] at read
  split at read
  · next none =>
    cases read
    exact ⟨rest.symm.trans none, rfl⟩
  · cases read

end

section
variable (text : List Char) {start stop stop' start' : Nat} {ts us : List Token}

theorem term_group (clear : Clears Lexeme.endsArgument 0 ts) :
    Outline.term text stop' (group start stop ts) = Node.disjunction (disjuncts text stop ts).value := by
  rw [term_of_operand text, operand_group text clear]
  intro t first
  cases first
  rfl

theorem parse_group (clear : Clears Lexeme.endsArgument 0 ts) :
    parseTokens text stop' (group start stop ts) = .ok (Node.disjunction (disjuncts text stop ts).value) := by
  rw [parseTokens_of_clears text (clears_group rfl clear start stop),
    formula_of_term text (clears_group rfl clear start stop), term_group text clear]

theorem parse_not_group (clear : Clears Lexeme.endsArgument 0 ts) {spelling : String} :
    parseTokens text stop' (⟨.negation spelling, start'⟩ :: group start stop ts) =
      .ok (.not (Node.disjunction (disjuncts text stop ts).value)) := by
  have behind : ∀ stops, stops .opening = false → stops (.negation spelling) = false →
      Clears stops 0 (⟨.negation spelling, start'⟩ :: group start stop ts) := fun stops opens negates =>
    ⟨by simp [negates], clears_group opens clear start stop⟩
  rw [parseTokens_of_clears text (behind _ rfl rfl), formula_of_term text (behind _ rfl rfl), Outline.term]
  exact congrArg (Except.ok ∘ Node.not) (operand_group text clear start stop')

variable {t : Token} {first last : Nat}

theorem parse_and_groups (left : Clears Lexeme.endsArgument 0 ts) (right : Clears Lexeme.endsArgument 0 us)
    (cut : t.lexeme.isConjunction = true) :
    parseTokens text stop' (group start stop ts ++ t :: group first last us) =
      .ok (.all [Node.disjunction (disjuncts text stop ts).value,
        Node.disjunction (disjuncts text last us).value]) := by
  have whole : Clears Lexeme.endsArgument 0 (group start stop ts ++ t :: group first last us) := by
    obtain ⟨spelling, kind⟩ := Lexeme.exists_of_isConjunction cut
    refine (clears_append (clears_group rfl left start stop) _).2 ⟨by simp [kind, Lexeme.endsArgument], ?_⟩
    rw [kind]
    exact clears_group rfl right first last
  rw [parseTokens_of_clears text whole,
    formula_and text (clears_group rfl left start stop) (clears_group rfl right first last) cut,
    term_group text left, term_group text right]

theorem parse_or_groups (left : Clears Lexeme.endsArgument 0 ts) (right : Clears Lexeme.endsArgument 0 us)
    (cut : t.lexeme.isDisjunction = true) :
    parseTokens text stop' (group start stop ts ++ t :: group first last us) =
      .ok (.any [Node.disjunction (disjuncts text stop ts).value,
        Node.disjunction (disjuncts text last us).value]) := by
  have whole : Clears Lexeme.endsArgument 0 (group start stop ts ++ t :: group first last us) := by
    obtain ⟨spelling, kind⟩ := Lexeme.exists_of_isDisjunction cut
    refine (clears_append (clears_group rfl left start stop) _).2 ⟨by simp [kind, Lexeme.endsArgument], ?_⟩
    rw [kind]
    exact clears_group rfl right first last
  rw [parseTokens_of_clears text whole,
    formula_or text (clears_group rfl left start stop) (clears_group rfl right first last) cut,
    term_group text left, term_group text right]

end

structure AreUnreadable (ts : List Token) : Prop where
  clear : Clears Lexeme.endsOperand 0 ts
  stray : ¬Clears Lexeme.isStray 0 ts
  plain : ∀ t ∈ ts.head?, t.lexeme.isNegation = false

section
variable {ts us : List Token} (text : List Char) (start stop : Nat)

theorem AreUnreadable.fills (junk : AreUnreadable us) : Clears Lexeme.endsArgument 0 us := by
  refine junk.clear.mono fun l ends => ?_
  cases l <;> first | rfl | cases ends

theorem AreUnreadable.term (junk : AreUnreadable us) :
    Outline.term text stop us = unreadable text (position stop us) stop := by
  rw [term_of_operand text junk.plain, operand_unreadable text junk.stray]

theorem parse_unreadable (junk : AreUnreadable us) :
    parseTokens text stop us = .ok (unreadable text (position stop us) stop) := by
  rw [parseTokens_of_clears text junk.fills, formula_of_term text junk.clear,
    junk.term]

theorem parse_or_unreadable (clear : Clears Lexeme.endsArgument 0 ts) (junk : AreUnreadable us) (stop' : Nat)
    (spelling : String) :
    parseTokens text stop' (group start stop ts ++ ⟨.disjunction spelling, stop⟩ :: us) =
      .ok (.any [Node.disjunction (disjuncts text stop ts).value, unreadable text (position stop' us) stop']) := by
  have whole : Clears Lexeme.endsArgument 0 (group start stop ts ++ ⟨.disjunction spelling, stop⟩ :: us) :=
    (clears_append (clears_group rfl clear start stop) _).2
      ⟨by simp [Lexeme.endsArgument], junk.fills⟩
  rw [parseTokens_of_clears text whole, formula_or text (clears_group rfl clear start stop) junk.clear rfl,
    term_group text clear, junk.term]

theorem parse_and_unreadable (clear : Clears Lexeme.endsArgument 0 ts) (junk : AreUnreadable us) (stop' : Nat)
    (spelling : String) :
    parseTokens text stop' (group start stop ts ++ ⟨.conjunction spelling, stop⟩ :: us) =
      .ok (.all [Node.disjunction (disjuncts text stop ts).value, unreadable text (position stop' us) stop']) := by
  have whole : Clears Lexeme.endsArgument 0 (group start stop ts ++ ⟨.conjunction spelling, stop⟩ :: us) :=
    (clears_append (clears_group rfl clear start stop) _).2
      ⟨by simp [Lexeme.endsArgument], junk.fills⟩
  rw [parseTokens_of_clears text whole, formula_and text (clears_group rfl clear start stop) junk.clear rfl,
    term_group text clear, junk.term]

end

end TabularAudit.Expr
