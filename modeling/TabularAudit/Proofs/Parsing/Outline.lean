import TabularAudit.Proofs.Parsing.Locality

/-!
The boolean structure of a syntax tree is the outline of its tokens: pieces found by counting
parentheses, each read on its own.
-/

namespace TabularAudit.Expr

section
variable {stops separates : Lexeme → Bool} {depth stop : Nat} {c : Token} {q ts us : List Token}

theorem upTo_append_passOver (stops : Lexeme → Bool) (depth : Nat) (ts : List Token) :
    upTo stops depth ts ++ passOver stops depth ts = ts := by
  induction ts generalizing depth with
  | nil => rfl
  | cons t ts ih =>
      rw [upTo, passOver]
      split
      · rfl
      · rw [List.cons_append, ih]

theorem Lexeme.exists_of_isConjunction {l : Lexeme} (cut : l.isConjunction = true) :
    ∃ spelling, l = .conjunction spelling := by
  cases l with
  | conjunction spelling => exact ⟨spelling, rfl⟩
  | _ => cases cut

theorem Lexeme.exists_of_isDisjunction {l : Lexeme} (cut : l.isDisjunction = true) :
    ∃ spelling, l = .disjunction spelling := by
  cases l with
  | disjunction spelling => exact ⟨spelling, rfl⟩
  | _ => cases cut

theorem pieces_of_passOver_eq_nil (wider : ∀ l, separates l = true → stops l = true)
    (passed : passOver stops depth ts = []) : pieces separates stop depth ts = [(ts, stop)] := by
  induction ts generalizing depth with
  | nil => rfl
  | cons t ts ih =>
      rw [passOver] at passed
      split at passed
      · cases passed
      · next goes =>
        have inside : ¬(depth = 0 ∧ separates t.lexeme) := fun h => goes ⟨h.1, wider _ h.2⟩
        rw [pieces, if_neg inside, ih passed]

theorem pieces_append (wider : ∀ l, separates l = true → stops l = true)
    (clear : Clears stops depth q) (cut : separates c.lexeme) :
    pieces separates stop depth (q ++ c :: us) = (q, c.position) :: pieces separates stop 0 us := by
  induction q generalizing depth with
  | nil =>
      rw [show depth = 0 from clear, List.nil_append, pieces, if_pos ⟨rfl, cut⟩]
  | cons t q ih =>
      have inside : ¬(depth = 0 ∧ separates t.lexeme) := fun h => clear.1 ⟨h.1, wider _ h.2⟩
      rw [List.cons_append, pieces, if_neg inside, ih clear.2]

theorem cut_or_last {wide narrow : Lexeme → Bool} (split : ∀ l, wide l = (separates l || narrow l))
    (opens : wide .opening = false) (stop : Nat) (alone : passOver narrow 0 ts = []) :
    (passOver wide 0 ts = [] ∧ pieces separates stop 0 ts = [(ts, stop)]) ∨
      ∃ p c us, ts = p ++ c :: us ∧ Clears wide 0 p ∧ wide c.lexeme ∧ separates c.lexeme ∧
        passOver narrow 0 us = [] ∧
        pieces separates stop 0 ts = (p, c.position) :: pieces separates stop 0 us := by
  have separator : ∀ l, separates l = true → wide l = true := fun l h => by rw [split, h]; rfl
  have narrower : ∀ l, narrow l = true → wide l = true := fun l h => by rw [split, h, Bool.or_true]
  cases cursor : passOver wide 0 ts with
  | nil => exact .inl ⟨rfl, pieces_of_passOver_eq_nil separator cursor⟩
  | cons c us =>
      obtain ⟨p, rfl, clear⟩ := clears_of_passOver_eq cursor
      have stands := standsAt_passOver wide 0 (p ++ c :: us)
      have behind := passOver_passOver narrower 0 (p ++ c :: us)
      rw [cursor] at stands behind
      rw [alone, passOver] at behind
      have ends : wide c.lexeme = true := stands
      split at behind
      · cases behind
      · next goes =>
        have cut : separates c.lexeme = true := by
          rw [split] at ends
          exact (Bool.or_eq_true_iff.1 ends).resolve_right fun h => goes ⟨rfl, h⟩
        have level : c.lexeme.depthAfter 0 = 0 := by
          cases kind : c.lexeme with
          | opening => rw [kind, opens] at ends; cases ends
          | _ => rfl
        rw [level] at behind
        exact .inr ⟨p, c, us, rfl, clear, ends, cut, behind, pieces_append separator clear cut⟩

end

section
variable (text : List Char)

theorem operand_value {stop : Nat} {ts : List Token} (alone : passOver Lexeme.endsOperand 0 ts = []) :
    (operand text stop ts).value = Outline.operand text stop ts := by
  have skip : (skipped text stop ts).value = unreadable text (position stop ts) stop := by
    simp only [skipped, alone]
    rfl
  rw [operand, Outline.operand]
  cases read : comparison text stop ts with
  | none => exact skip
  | some r =>
      have behind := (comparison_consumes read).passOver_eq
      obtain ⟨n, rest, suffix⟩ := r
      cases rest with
      | nil => rfl
      | cons t us =>
          simp only
          split
          · next stands =>
            rw [alone, passOver_of_standsAt stands] at behind
            cases behind
          · exact skip

theorem unary_value {stop : Nat} {ts : List Token} (alone : passOver Lexeme.endsOperand 0 ts = []) :
    (unary text stop ts).value = Outline.term text stop ts := by
  induction ts with
  | nil =>
      rw [unary]
      · exact operand_value text alone
      · exact fun _ _ _ same => nomatch same
  | cons t ts ih =>
      obtain ⟨kind, position⟩ := t
      cases kind with
      | negation s =>
          rw [unary]
          exact congrArg Node.not (ih alone)
      | _ =>
          rw [unary]
          · exact operand_value text alone
          · exact fun _ _ _ same => nomatch same

theorem conjuncts_value {stop : Nat} {ts : List Token} (alone : passOver Lexeme.endsDisjunct 0 ts = []) :
    (conjuncts text stop ts).value =
      (pieces Lexeme.isConjunction stop 0 ts).map fun p => Outline.term text p.2 p.1 := by
  have split : ∀ l, Lexeme.endsOperand l = (l.isConjunction || l.endsDisjunct) := fun l => by cases l <;> rfl
  have rest : (unary text stop ts).rest = _ := unary_rest ts
  rw [conjuncts]
  rcases cut_or_last split rfl stop alone with ⟨last, one⟩ | ⟨p, c, us, whole, clear, ends, cut, behind, more⟩
  · rw [last] at rest
    rw [Read.next?_of_rest_nil rest, one]
    exact congrArg (fun n => [n]) (unary_value text last)
  · have first : (unary text stop ts).value = Outline.term text c.position p :=
      (unary_ended whole clear ends).trans (unary_value text (passOver_of_clears clear))
    rw [whole, passOver_append_stop clear ends, ← whole] at rest
    obtain ⟨later, next, same⟩ := Read.next?_of_rest_cons rest
    subst same
    have bound := later.2.2
    rw [next, more, List.map_cons, ← conjuncts_value behind, ← first]
    obtain ⟨spelling, kind⟩ := Lexeme.exists_of_isConjunction cut
    rw [kind]
    rfl
termination_by ts.length

theorem disjuncts_value {stop : Nat} {ts : List Token} (alone : passOver Lexeme.endsArgument 0 ts = []) :
    (disjuncts text stop ts).value =
      (pieces Lexeme.isDisjunction stop 0 ts).map fun p => Outline.conjunction text p.2 p.1 := by
  have split : ∀ l, Lexeme.endsDisjunct l = (l.isDisjunction || l.endsArgument) := fun l => by cases l <;> rfl
  have rest : ((conjuncts text stop ts).map Node.conjunction).rest = _ := conjuncts_rest ts
  rw [disjuncts]
  rcases cut_or_last split rfl stop alone with ⟨last, one⟩ | ⟨p, c, us, whole, clear, ends, cut, behind, more⟩
  · rw [last] at rest
    rw [Read.next?_of_rest_nil rest, one]
    exact congrArg (fun n => [Node.conjunction n]) (conjuncts_value text last)
  · have first : Node.conjunction (conjuncts text stop ts).value = Outline.conjunction text c.position p :=
      congrArg Node.conjunction
        ((conjuncts_ended whole clear ends).trans (conjuncts_value text (passOver_of_clears clear)))
    rw [whole, passOver_append_stop clear ends, ← whole] at rest
    obtain ⟨later, next, same⟩ := Read.next?_of_rest_cons rest
    subst same
    have bound := later.2.2
    rw [next, more, List.map_cons, ← disjuncts_value behind, ← first]
    obtain ⟨spelling, kind⟩ := Lexeme.exists_of_isDisjunction cut
    rw [kind]
    rfl
termination_by ts.length

/-- A group or an argument ends at the first token of depth zero that can end one, and holds what
stands before it. -/
theorem disjuncts_outline (stop : Nat) (ts : List Token) :
    Node.disjunction (disjuncts text stop ts).value =
      Outline.formula text (position stop (passOver Lexeme.endsArgument 0 ts)) (upTo Lexeme.endsArgument 0 ts) := by
  have whole := upTo_append_passOver Lexeme.endsArgument 0 ts
  cases cursor : passOver Lexeme.endsArgument 0 ts with
  | nil =>
      rw [cursor, List.append_nil] at whole
      rw [whole]
      exact congrArg Node.disjunction (disjuncts_value text cursor)
  | cons c us =>
      obtain ⟨p, same, clear⟩ := clears_of_passOver_eq cursor
      have ends : c.lexeme.endsArgument = true := by
        have stands := standsAt_passOver Lexeme.endsArgument 0 ts
        rwa [cursor] at stands
      rw [cursor, same] at whole
      rw [same, List.append_cancel_right whole]
      exact congrArg Node.disjunction
        ((disjuncts_ended rfl clear ends).trans (disjuncts_value text (passOver_of_clears clear)))

end

section
variable {depth : Nat} {p us : List Token} {t : Token}

theorem depthAfter_add_balance (goes : ¬(depth = 0 ∧ t.lexeme = .closing)) (ts : List Token) :
    (t.lexeme.depthAfter depth : Int) + balance ts = depth + balance (t :: ts) := by
  obtain ⟨l, position⟩ := t
  cases l with
  | opening => simp only [Lexeme.depthAfter, balance]; omega
  | closing =>
      have inside : depth ≠ 0 := fun zero => goes ⟨zero, rfl⟩
      simp only [Lexeme.depthAfter, balance]
      omega
  | _ => rfl

theorem balance_of_clears (clear : Clears Lexeme.endsArgument depth p) : depth + balance p = 0 := by
  induction p generalizing depth with
  | nil => rw [show depth = 0 from clear]; rfl
  | cons t p ih =>
      rw [← depthAfter_add_balance fun closing => clear.1 ⟨closing.1, closing.2 ▸ rfl⟩, ih clear.2]

theorem not_stray_of_passOver (passed : (passOver Lexeme.endsArgument depth (p ++ t :: us)).length ≤ us.length)
    (ends : t.lexeme.endsArgument = true) : (depth : Int) + balance p ≠ 0 := by
  induction p generalizing depth with
  | nil =>
      have inside : depth ≠ 0 := by
        rintro rfl
        rw [List.nil_append, passOver, if_pos ⟨rfl, ends⟩, List.length_cons] at passed
        omega
      simp only [balance]
      omega
  | cons head p ih =>
      rw [List.cons_append, passOver] at passed
      split at passed
      · simp only [List.length_cons, List.length_append] at passed
        omega
      · next goes =>
        rw [← depthAfter_add_balance fun closing => goes ⟨closing.1, closing.2 ▸ rfl⟩]
        exact ih passed

end

/-- Parsing follows the outline. A tree is returned unless a token closes nothing or separates
nothing, and the first such token is the one in the error. Inside a group or an argument the same
holds up to the token that ends it, and an operand ends at the same token whether it is read or
skipped. -/
theorem parse_follows_outline (text : List Char) (stop : Nat) (ts : List Token) :
    ((∀ p t us, ts = p ++ t :: us → ¬Stray p t) ∧
        parseTokens text stop ts = .ok (Outline.formula text stop ts) ∨
      ∃ p t us, ts = p ++ t :: us ∧ Stray p t ∧ (∀ q c vs, p = q ++ c :: vs → ¬Stray q c) ∧
        parseTokens text stop ts = .error (.unexpected t.lexeme.sign t.position)) ∧
    ∀ us,
      (disjuncts text stop us).rest = passOver Lexeme.endsArgument 0 us ∧
      Node.disjunction (disjuncts text stop us).value =
        Outline.formula text (position stop (passOver Lexeme.endsArgument 0 us))
          (upTo Lexeme.endsArgument 0 us) ∧
      (operand text stop us).rest = passOver Lexeme.endsOperand 0 us ∧
      (operand text stop us).rest <:+ us ∧
      ∀ r, comparison text stop us = some r →
        r.rest <:+ us ∧ passOver Lexeme.endsOperand 0 r.rest = passOver Lexeme.endsOperand 0 us := by
  constructor
  · have rest : ((disjuncts text stop ts).map Node.disjunction).rest = _ := disjuncts_rest ts
    cases cursor : passOver Lexeme.endsArgument 0 ts with
    | nil =>
        refine .inl ⟨?_, ?_⟩
        · rintro p t us rfl ⟨ends, level⟩
          have passed : (passOver Lexeme.endsArgument 0 (p ++ t :: us)).length ≤ us.length := by
            rw [cursor]
            exact Nat.zero_le _
          exact not_stray_of_passOver passed ends (by simpa using level)
        · rw [cursor] at rest
          simp only [parseTokens, rest]
          exact congrArg (Except.ok ∘ Node.disjunction) (disjuncts_value text cursor)
    | cons t us =>
        obtain ⟨p, rfl, clear⟩ := clears_of_passOver_eq cursor
        have stands := standsAt_passOver Lexeme.endsArgument 0 (p ++ t :: us)
        rw [cursor] at stands rest
        refine .inr ⟨p, t, us, rfl, ⟨stands, by simpa using balance_of_clears clear⟩, ?_, ?_⟩
        · rintro q c vs rfl ⟨ends, level⟩
          rw [List.append_assoc, List.cons_append] at cursor
          have passed : (passOver Lexeme.endsArgument 0 (q ++ c :: (vs ++ t :: us))).length ≤ (vs ++ t :: us).length := by
            rw [cursor, List.length_append]
            omega
          exact not_stray_of_passOver passed ends (by simpa using level)
        · simp only [parseTokens, rest]
  · intro us
    refine ⟨disjuncts_rest us, disjuncts_outline text stop us, operand_rest us, (operand text stop us).suffix, ?_⟩
    intro r read
    exact ⟨r.suffix, (comparison_consumes read).passOver_eq.symm⟩

end TabularAudit.Expr
