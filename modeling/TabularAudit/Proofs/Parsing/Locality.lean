import TabularAudit.Proofs.Parsing.Cursor

/-!
What is read does not depend on what stands behind it: a piece that is ended by a token reads the
same when the text ends there.
-/

namespace TabularAudit.Expr

/-- The longer reading goes on where the shorter one meets the end. -/
structure Agrees {α : Type} {ts p : List Token} (us : List Token) (long : Read α ts) (short : Read α p) :
    Prop where
  value : long.value = short.value
  rest : long.rest = short.rest ++ us

namespace Agrees

variable {α β : Type} {ts p vs q us : List Token} {c : Token} {long : Read α ts} {short : Read α p}

theorem map {f g : α → β} (agree : Agrees us long short) (same : f long.value = g short.value) :
    Agrees us (long.map f) (short.map g) := ⟨same, agree.rest⟩

theorem within (agree : Agrees us long short) (h : ts <:+ vs) (k : p <:+ q) :
    Agrees us (long.within h) (short.within k) := ⟨agree.value, agree.rest⟩

theorem behind (agree : Agrees us long short) (t u : Token) :
    Agrees us (long.behind (t := t)) (short.behind (t := u)) := ⟨agree.value, agree.rest⟩

theorem next? (agree : Agrees (c :: us) long short) :
    (short.rest = [] ∧ short.next? = none ∧ ∃ later, long.next? = some (c.lexeme, later) ∧ later.1 = us) ∨
      ∃ l later farther, short.next? = some (l, later) ∧ long.next? = some (l, farther) ∧
        farther.1 = later.1 ++ c :: us := by
  obtain ⟨value, rest, suffix⟩ := long
  obtain ⟨value', rest', suffix'⟩ := short
  obtain ⟨-, rfl⟩ := agree
  cases rest' with
  | nil => exact .inl ⟨rfl, rfl, _, rfl, rfl⟩
  | cons t rest' => exact .inr ⟨_, _, _, rfl, rfl, rfl⟩

theorem closed? (agree : Agrees us long short) (more : short.rest ≠ []) :
    Option.Rel (Agrees us) long.closed? short.closed? := by
  obtain ⟨value, rest, suffix⟩ := long
  obtain ⟨value', rest', suffix'⟩ := short
  obtain ⟨same, rfl⟩ := agree
  cases rest' with
  | nil => exact absurd rfl more
  | cons t rest' =>
      obtain ⟨l, position⟩ := t
      cases l with
      | closing => exact .some ⟨same, rfl⟩
      | _ => exact .none

end Agrees

theorem rel_bind {α β γ δ : Type} {R : α → β → Prop} {S : γ → δ → Prop} {x : Option α} {y : Option β}
    {f : α → Option γ} {g : β → Option δ} (first : Option.Rel R x y)
    (next : ∀ a b, y = some b → R a b → Option.Rel S (f a) (g b)) : Option.Rel S (x.bind f) (y.bind g) := by
  cases first with
  | some h => exact next _ _ rfl h
  | none => exact .none

theorem rel_map {α β γ δ : Type} {R : α → β → Prop} {S : γ → δ → Prop} {x : Option α} {y : Option β}
    {f : α → γ} {g : β → δ} (first : Option.Rel R x y) (next : ∀ a b, R a b → S (f a) (g b)) :
    Option.Rel S (x.map f) (y.map g) := by
  cases first with
  | some h => exact .some (next _ _ h)
  | none => exact .none

theorem exists_of_rel_some {α β : Type} {R : α → β → Prop} {x : Option α} {b : β} (related : Option.Rel R x (some b)) :
    ∃ a, x = some a ∧ R a b := by
  cases related with
  | some h => exact ⟨_, rfl, h⟩

theorem standsAt_append {stops : Lexeme → Bool} {c : Token} (ends : stops c.lexeme = true)
    (p us : List Token) : standsAt stops (p ++ c :: us) = standsAt stops p := by
  cases p with
  | nil => exact ends
  | cons t p => rfl

theorem starts_of_append {p us vs : List Token} {c t : Token} (ends : c.lexeme.endsChain)
    (other : t.lexeme.endsChain = false) (same : p ++ c :: us = t :: vs) : ∃ q, p = t :: q := by
  cases p with
  | nil =>
      cases same
      rw [ends] at other
      cases other
  | cons head q =>
      cases same
      exact ⟨q, rfl⟩

theorem position_append (stop : Nat) (c : Token) (p us : List Token) :
    position stop (p ++ c :: us) = position c.position p := by
  cases p <;> rfl

section
variable {α : Type} {wide narrow : Lexeme → Bool} {c : Token} {p us : List Token}
  {read : (stop : Nat) → (ts : List Token) → Read α ts} {stop : Nat}

/-- A procedure whose readings end at a stop, and do not depend on what is behind it. -/
structure EndsAt (wide : Lexeme → Bool) (read : (stop : Nat) → (ts : List Token) → Read α ts) (size : Nat) :
    Prop where
  rest : ∀ stop ts, (read stop ts).rest = passOver wide 0 ts
  value : ∀ stop (q : List Token) (d : Token) us, q.length ≤ size → Clears wide 0 q → wide d.lexeme →
    (read stop (q ++ d :: us)).value = (read d.position q).value

theorem EndsAt.agrees_of_stop {q vs : List Token} {d : Token} {size : Nat} (reads : EndsAt wide read size)
    (small : q.length ≤ size) (clear : Clears wide 0 q) (ends : wide d.lexeme) :
    Agrees (c :: us) (read stop (q ++ d :: (vs ++ c :: us))) (read c.position (q ++ d :: vs)) := by
  constructor
  · rw [reads.value _ _ _ _ small clear ends, reads.value _ _ _ _ small clear ends]
  · rw [reads.rest, reads.rest, passOver_append_stop clear ends, passOver_append_stop clear ends,
      List.cons_append]

theorem EndsAt.agrees {size : Nat} (reads : EndsAt wide read size) (small : p.length ≤ size)
    (opens : wide .opening = false) (narrower : ∀ l, narrow l = true → wide l = true)
    (clear : Clears narrow 0 p) (ends : narrow c.lexeme) :
    Agrees (c :: us) (read stop (p ++ c :: us)) (read c.position p) := by
  rcases clears_or_exists_stop opens clear with whole | ⟨q, d, vs, rfl, clearQ, endsD, -, -⟩
  · constructor
    · exact reads.value _ _ _ _ small whole (narrower _ ends)
    · rw [reads.rest, reads.rest, passOver_append_stop whole (narrower _ ends), passOver_of_clears whole,
        List.nil_append]
  · rw [List.append_assoc, List.cons_append]
    refine reads.agrees_of_stop ?_ clearQ endsD
    simp only [List.length_append, List.length_cons] at small
    omega

theorem EndsAt.agrees_inside {size : Nat} (reads : EndsAt Lexeme.endsArgument read size)
    (small : p.length ≤ size) (inside : Clears Lexeme.endsOperand 1 p) :
    Agrees (c :: us) (read stop (p ++ c :: us)) (read c.position p) ∧
      ∃ d vs, (read c.position p).rest = d :: vs ∧
        Clears Lexeme.endsOperand (d.lexeme.depthAfter 1) vs := by
  obtain ⟨q, d, vs, rfl, clear, ends, behind⟩ := exists_stop_of_clears Lexeme.endsArgument 0 0 (Eq.refl _) inside
  rw [List.append_assoc, List.cons_append]
  refine ⟨reads.agrees_of_stop ?_ clear ends, d, vs, ?_, behind⟩
  · simp only [List.length_append, List.length_cons] at small
    omega
  · rw [reads.rest, passOver_append_stop clear ends]

end

theorem plainWord_agrees (p us : List Token) {c : Token} (ends : c.lexeme.endsChain) :
    Option.Rel (Agrees (c :: us)) (plainWord (p ++ c :: us)) (plainWord p) := by
  rw [plainWord.eq_def p]
  split
  · exact .some ⟨rfl, rfl⟩
  · next other =>
    rw [plainWord]
    · exact .none
    · intro w position vs same
      obtain ⟨vs, rfl⟩ := starts_of_append ends rfl same
      exact other _ _ _ rfl

section
variable {text : List Char}

mutual

theorem disjuncts_ended {stop : Nat} {ts p us : List Token} {c : Token} (split : ts = p ++ c :: us)
    (clear : Clears Lexeme.endsArgument 0 p) (ends : c.lexeme.endsArgument) :
    (disjuncts text stop ts).value = (disjuncts text c.position p).value := by
  subst split
  have reads : EndsAt Lexeme.endsDisjunct (conjuncts text) p.length :=
    ⟨fun stop ts => conjuncts_rest ts, fun stop q d us small clear ends => conjuncts_ended rfl clear ends⟩
  have first : Agrees (c :: us) (conjuncts text stop (p ++ c :: us)) (conjuncts text c.position p) :=
    reads.agrees (Nat.le_refl _) rfl endsDisjunct_of_endsArgument clear ends
  rw [disjuncts, disjuncts]
  rcases (first.map (congrArg Node.conjunction first.value)).next? with
    ⟨-, short, later, long, -⟩ | ⟨l, later, farther, short, long, same⟩
  · rw [short, long]
    split
    · next kind =>
      simp only [Option.some.injEq, Prod.mk.injEq] at kind
      rw [kind.1] at ends
      cases ends
    · exact congrArg (fun n => [Node.conjunction n]) first.value
  · rw [short, long]
    obtain ⟨position, rest⟩ := Read.rest_of_next?_eq_some short
    have cursor : passOver Lexeme.endsDisjunct 0 p = _ := (conjuncts_rest p).symm.trans rest
    have bound := later.2.2
    split
    · next kind =>
      cases kind
      have others : (disjuncts text stop farther.1).value = (disjuncts text c.position later.1).value :=
        disjuncts_ended same (clears_of_cursor rfl clear cursor) ends
      exact congr (congrArg (List.cons ∘ Node.conjunction) first.value) others
    · next other =>
      split
      · next kind =>
        cases kind
        exact absurd rfl (other _ _)
      · exact congrArg (fun n => [Node.conjunction n]) first.value
termination_by 10 * p.length + 9
decreasing_by all_goals omega

theorem conjuncts_ended {stop : Nat} {ts p us : List Token} {c : Token} (split : ts = p ++ c :: us)
    (clear : Clears Lexeme.endsDisjunct 0 p) (ends : c.lexeme.endsDisjunct) :
    (conjuncts text stop ts).value = (conjuncts text c.position p).value := by
  subst split
  have reads : EndsAt Lexeme.endsOperand (unary text) p.length :=
    ⟨fun stop ts => unary_rest ts, fun stop q d us small clear ends => unary_ended rfl clear ends⟩
  have first : Agrees (c :: us) (unary text stop (p ++ c :: us)) (unary text c.position p) :=
    reads.agrees (Nat.le_refl _) rfl endsOperand_of_endsDisjunct clear ends
  rw [conjuncts, conjuncts]
  rcases first.next? with ⟨-, short, later, long, -⟩ | ⟨l, later, farther, short, long, same⟩
  · rw [short, long]
    split
    · next kind =>
      simp only [Option.some.injEq, Prod.mk.injEq] at kind
      rw [kind.1] at ends
      cases ends
    · exact congrArg (fun n => [n]) first.value
  · rw [short, long]
    obtain ⟨position, rest⟩ := Read.rest_of_next?_eq_some short
    have cursor : passOver Lexeme.endsOperand 0 p = _ := (unary_rest p).symm.trans rest
    have bound := later.2.2
    split
    · next kind =>
      cases kind
      exact congr (congrArg List.cons first.value)
        (conjuncts_ended same (clears_of_cursor rfl clear cursor) ends)
    · next other =>
      split
      · next kind =>
        cases kind
        exact absurd rfl (other _ _)
      · exact congrArg (fun n => [n]) first.value
termination_by 10 * p.length + 8
decreasing_by all_goals omega

theorem unary_ended {stop : Nat} {ts p us : List Token} {c : Token} (split : ts = p ++ c :: us)
    (clear : Clears Lexeme.endsOperand 0 p) (ends : c.lexeme.endsOperand) :
    (unary text stop ts).value = (unary text c.position p).value := by
  subst split
  rw [unary.eq_def text c.position p]
  split
  · next s position q =>
    rw [List.cons_append, unary]
    exact congrArg Node.not (unary_ended rfl clear.2 ends)
  · next other =>
    rw [unary]
    · exact operand_ended rfl clear ends
    · intro s position q same
      obtain ⟨q, rfl⟩ := starts_of_append (endsChain_of_endsOperand _ ends) rfl same
      exact other _ _ _ rfl
termination_by 10 * p.length + 7
decreasing_by
  · subst_vars
    simp only [List.length_cons]
    omega
  · omega

theorem operand_ended {stop : Nat} {ts p us : List Token} {c : Token} (split : ts = p ++ c :: us)
    (clear : Clears Lexeme.endsOperand 0 p) (ends : c.lexeme.endsOperand) :
    (operand text stop ts).value = (operand text c.position p).value := by
  subst split
  have both : (skipped text stop (p ++ c :: us)).value = (skipped text c.position p).value := by
    simp only [skipped, passOver_append_stop clear ends, passOver_of_clears clear, position_append]
    rfl
  have tried : Option.Rel (Agrees (c :: us)) (comparison text stop (p ++ c :: us))
      (comparison text c.position p) := comparison_agrees rfl clear ends
  rw [operand, operand]
  cases found : comparison text stop (p ++ c :: us) with
  | none =>
      cases short : comparison text c.position p with
      | none => exact both
      | some r => rw [found, short] at tried; cases tried
  | some r =>
      cases short : comparison text c.position p with
      | none => rw [found, short] at tried; cases tried
      | some q =>
          rw [found, short] at tried
          cases tried with
          | some agree =>
              simp only [agree.rest, standsAt_append ends]
              split
              · exact agree.value
              · exact both
termination_by 10 * p.length + 6
decreasing_by omega

theorem comparison_agrees {stop : Nat} {ts p us : List Token} {c : Token} (split : ts = p ++ c :: us)
    (clear : Clears Lexeme.endsOperand 0 p) (ends : c.lexeme.endsOperand) :
    Option.Rel (Agrees (c :: us)) (comparison text stop ts) (comparison text c.position p) := by
  rw [comparison, comparison]
  refine rel_bind (chain_agrees split clear (endsChain_of_endsOperand _ ends)) fun long short read agree => ?_
  rcases agree.next? with ⟨-, shortNext, later, longNext, -⟩ | ⟨l, later, farther, shortNext, longNext, same⟩
  · rw [shortNext, longNext]
    split
    · next kind =>
      simp only [Option.some.injEq, Prod.mk.injEq] at kind
      rw [kind.1] at ends
      cases ends
    · exact .some agree
  · rw [shortNext, longNext]
    obtain ⟨position, rest⟩ := Read.rest_of_next?_eq_some shortNext
    have behind := (chain_consumes read).clears clear
    rw [rest] at behind
    have bound := later.2.2
    split
    · next symbol _ kind =>
      cases kind
      refine rel_bind (chain_agrees same behind.2 (endsChain_of_endsOperand _ ends)) fun long' short' _ agree' => ?_
      have both := (agree'.within farther.2.1 later.2.1).map
        (congr (congrArg (Node.comparison symbol) agree.value) agree'.value)
      rw [agree'.rest]
      cases short'.rest with
      | nil =>
          rw [List.nil_append]
          split
          · next kind =>
            cases kind
            cases ends
          · exact .some both
      | cons t vs =>
          obtain ⟨kind, q⟩ := t
          cases kind with
          | relation s => exact .none
          | _ => exact .some both
    · next other =>
      split
      · next kind =>
        cases kind
        exact absurd rfl (other _ _)
      · exact .some agree
termination_by 10 * p.length + 5
decreasing_by all_goals omega

theorem chain_agrees {stop : Nat} {ts p us : List Token} {c : Token} (split : ts = p ++ c :: us)
    (clear : Clears Lexeme.endsOperand 0 p) (ends : c.lexeme.endsChain) :
    Option.Rel (Agrees (c :: us)) (chain text stop ts) (chain text c.position p) := by
  rw [chain, chain]
  refine rel_bind (primary_agrees split clear ends) fun long short read agree => ?_
  have behind := (primary_consumes read).clears clear
  have bound := short.length_le
  rw [agree.value]
  exact rel_map (links_agrees agree.rest behind ends) fun _ _ agree' => agree'.within _ _
termination_by 10 * p.length + 4
decreasing_by all_goals omega

theorem links_agrees {stop : Nat} {n : Node} {ts p us : List Token} {c : Token} (split : ts = p ++ c :: us)
    (clear : Clears Lexeme.endsOperand 0 p) (ends : c.lexeme.endsChain) :
    Option.Rel (Agrees (c :: us)) (links text stop n ts) (links text c.position n p) := by
  subst split
  rw [links.eq_def text c.position n p]
  split
  · next d w o q =>
    simp only [List.cons_append, links]
    refine rel_bind (arguments_agrees rfl clear.2.2.2) fun long short read agree => ?_
    have behind := (arguments_consumes read).clears clear.2.2.2
    have bound := short.length_le
    rw [agree.value]
    exact rel_map (links_agrees agree.rest behind ends) fun _ _ agree' =>
      (((agree'.within _ _).behind _ _).behind _ _).behind _ _
  · next d w q other =>
    rw [List.cons_append, List.cons_append, links]
    · exact rel_map (links_agrees rfl clear.2.2 ends) fun _ _ agree => (agree.behind _ _).behind _ _
    · intro o vs same
      obtain ⟨vs, rfl⟩ := starts_of_append ends rfl same
      exact other _ _ rfl
  · next d q _ other =>
    rw [List.cons_append, links]
    · exact .none
    all_goals
      intros
      rename_i same
      obtain ⟨vs, rfl⟩ := starts_of_append ends rfl same
      exact other _ _ _ rfl
  · next other =>
    rw [links]
    · exact .some ⟨rfl, rfl⟩
    all_goals
      intros
      rename_i same
      obtain ⟨vs, rfl⟩ := starts_of_append ends rfl same
      exact other _ _ rfl
termination_by 10 * p.length + 3
decreasing_by all_goals (subst_vars; simp only [List.length_cons]; omega)

theorem arguments_agrees {stop : Nat} {ts p us : List Token} {c : Token} (split : ts = p ++ c :: us)
    (inside : Clears Lexeme.endsOperand 1 p) :
    Option.Rel (Agrees (c :: us)) (arguments text stop ts) (arguments text c.position p) := by
  subst split
  rw [arguments.eq_def text c.position p]
  split
  · rw [List.cons_append, arguments]
    exact .some ⟨rfl, rfl⟩
  · next other =>
    rw [arguments]
    · obtain ⟨agree, more⟩ : Agrees (c :: us) (argumentList text stop (p ++ c :: us))
          (argumentList text c.position p) ∧ _ := argumentList_agrees rfl inside
      exact agree.closed? more
    · intro position vs same
      cases p with
      | nil => exact absurd inside (by simp [Clears])
      | cons t p =>
          cases same
          exact other _ _ rfl
termination_by 10 * p.length + 11
decreasing_by omega

theorem argumentList_agrees {stop : Nat} {ts p us : List Token} {c : Token} (split : ts = p ++ c :: us)
    (inside : Clears Lexeme.endsOperand 1 p) :
    Agrees (c :: us) (argumentList text stop ts) (argumentList text c.position p) ∧
      (argumentList text c.position p).rest ≠ [] := by
  subst split
  have reads : EndsAt Lexeme.endsArgument (disjuncts text) p.length :=
    ⟨fun stop ts => disjuncts_rest ts, fun stop q d us small clear ends => disjuncts_ended rfl clear ends⟩
  obtain ⟨first, d, vs, rest, behind⟩ : Agrees (c :: us) (disjuncts text stop (p ++ c :: us)) _ ∧ _ :=
    reads.agrees_inside (Nat.le_refl _) inside
  have first := first.map (congrArg Node.disjunction first.value)
  rw [argumentList, argumentList]
  rcases first.next? with
    ⟨empty, -⟩ | ⟨l, later, farther, short, long, same⟩
  · exact absurd (rest.symm.trans empty) (List.cons_ne_nil _ _)
  · rw [short, long]
    obtain ⟨position, again⟩ := Read.rest_of_next?_eq_some short
    have bound := later.2.2
    split
    · next kind =>
      cases kind
      cases rest.symm.trans again
      obtain ⟨others, more⟩ := argumentList_agrees same behind
      exact ⟨(others.within _ _).map (congr (congrArg _ first.value) others.value), more⟩
    · next other =>
      split
      · next kind =>
        cases kind
        exact (other _ rfl).elim
      · exact ⟨first.map (congrArg (fun n => [n]) first.value), rest ▸ List.cons_ne_nil _ _⟩
termination_by 10 * p.length + 10
decreasing_by all_goals omega

theorem primary_agrees {stop : Nat} {ts p us : List Token} {c : Token} (split : ts = p ++ c :: us)
    (clear : Clears Lexeme.endsOperand 0 p) (ends : c.lexeme.endsChain) :
    Option.Rel (Agrees (c :: us)) (primary text stop ts) (primary text c.position p) := by
  subst split
  rw [primary.eq_def text c.position p]
  split
  · simp only [List.cons_append, primary]
    exact .some ⟨rfl, rfl⟩
  · simp only [List.cons_append, primary]
    exact .some ⟨rfl, rfl⟩
  · next o q =>
    have reads : EndsAt Lexeme.endsArgument (disjuncts text) q.length :=
      ⟨fun stop ts => disjuncts_rest ts, fun stop q d us small clear ends => disjuncts_ended rfl clear ends⟩
    obtain ⟨agree, d, vs, rest, -⟩ : Agrees (c :: us) (disjuncts text stop (q ++ c :: us)) _ ∧ _ :=
      reads.agrees_inside (Nat.le_refl _) clear.2
    have agree := agree.map (congrArg Node.disjunction agree.value)
    rw [List.cons_append, primary]
    exact rel_map (agree.closed? (rest ▸ List.cons_ne_nil _ _)) fun _ _ agree => agree.behind _ _
  · next w position q =>
    rw [List.cons_append, primary]
    split
    · exact .some ⟨rfl, rfl⟩
    · exact rel_map (named_agrees rfl clear.2 ends) fun _ _ agree => agree.behind _ _
  · next string number opening word =>
    rw [primary]
    · exact .none
    all_goals
      intros
      rename_i same
      obtain ⟨vs, rfl⟩ := starts_of_append ends rfl same
    · exact string _ _ _ rfl
    · exact number _ _ _ rfl
    · exact opening _ _ rfl
    · exact word _ _ _ rfl
termination_by 10 * p.length + 2
decreasing_by all_goals (subst_vars; simp only [List.length_cons]; omega)

theorem named_agrees {stop : Nat} {w : String} {ts p us : List Token} {c : Token} (split : ts = p ++ c :: us)
    (clear : Clears Lexeme.endsOperand 0 p) (ends : c.lexeme.endsChain) :
    Option.Rel (Agrees (c :: us)) (named text stop w ts) (named text c.position w p) := by
  subst split
  rw [named.eq_def text c.position w p]
  split
  · next o q =>
    rw [List.cons_append, named]
    exact rel_map (arguments_agrees rfl clear.2) fun _ _ agree =>
      (agree.behind _ _).map (congrArg _ agree.value)
  · next d q =>
    rw [List.cons_append, named]
    split
    · exact rel_map (plainWord_agrees q us ends) fun _ _ agree => agree.behind _ _
    · exact .some ⟨rfl, rfl⟩
  · next call dot =>
    rw [named]
    · exact .some ⟨rfl, rfl⟩
    all_goals
      intros
      rename_i same
      obtain ⟨vs, rfl⟩ := starts_of_append ends rfl same
    · exact call _ _ rfl
    · exact dot _ _ rfl
termination_by 10 * p.length + 3
decreasing_by all_goals (subst_vars; simp only [List.length_cons]; omega)

end

end

end TabularAudit.Expr
