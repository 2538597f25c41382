import TabularAudit.Proofs.Parsing.Locality

/-!
What parsing sees of the tokens. Two lists of tokens that differ in positions, and in how the boolean operators are
spelled, are read as one syntax tree, up to the texts of what could not be read.
-/

namespace TabularAudit.Expr

mutual

def Node.withTexts (f : String → String) : Node → Node
  | .literal v => .literal v
  | .name head rest => .name head rest
  | .member target part => .member (target.withTexts f) part
  | .function called args => .function called (withTextsAll f args)
  | .method target called args => .method (target.withTexts f) called (withTextsAll f args)
  | .comparison symbol left right => .comparison symbol (left.withTexts f) (right.withTexts f)
  | .all operands => .all (withTextsAll f operands)
  | .any operands => .any (withTextsAll f operands)
  | .not operand => .not (operand.withTexts f)
  | .unreadable text => .unreadable (f text)

def Node.withTextsAll (f : String → String) : List Node → List Node
  | [] => []
  | n :: ns => n.withTexts f :: withTextsAll f ns

end

namespace Node

variable (f : String → String)

theorem withTextsAll_eq_map (ns : List Node) : withTextsAll f ns = ns.map (withTexts f) := by
  induction ns with
  | nil => rfl
  | cons n ns ih => rw [withTextsAll, ih, List.map_cons]

theorem withTexts_conjunction (ns : List Node) :
    (conjunction ns).withTexts f = conjunction (ns.map (withTexts f)) := by
  match ns with
  | [] => rfl
  | [n] => rfl
  | n :: m :: ns => exact congrArg Node.all (withTextsAll_eq_map f (n :: m :: ns))

theorem withTexts_disjunction (ns : List Node) :
    (disjunction ns).withTexts f = disjunction (ns.map (withTexts f)) := by
  match ns with
  | [] => rfl
  | [n] => rfl
  | n :: m :: ns => exact congrArg Node.any (withTextsAll_eq_map f (n :: m :: ns))

theorem withTexts_extended (n : Node) (name : String) :
    (n.extended name).withTexts f = (n.withTexts f).extended name := by
  cases n <;> rfl

mutual

theorem withTexts_id : ∀ n : Node, n.withTexts id = n
  | .literal v => rfl
  | .name head rest => rfl
  | .member target part => by rw [withTexts, withTexts_id target]
  | .function called args => by rw [withTexts, withTextsAll_id args]
  | .method target called args => by rw [withTexts, withTexts_id target, withTextsAll_id args]
  | .comparison symbol left right => by rw [withTexts, withTexts_id left, withTexts_id right]
  | .all operands => by rw [withTexts, withTextsAll_id operands]
  | .any operands => by rw [withTexts, withTextsAll_id operands]
  | .not operand => by rw [withTexts, withTexts_id operand]
  | .unreadable text => rfl

theorem withTextsAll_id : ∀ ns : List Node, withTextsAll id ns = ns
  | [] => rfl
  | n :: ns => by rw [withTextsAll, withTexts_id n, withTextsAll_id ns]

end

end Node

/-- Lexemes that parsing cannot tell apart. -/
inductive Lexeme.Like : Lexeme → Lexeme → Prop where
  | same (l : Lexeme) : Like l l
  | conjunction (s s' : String) : Like (.conjunction s) (.conjunction s')
  | disjunction (s s' : String) : Like (.disjunction s) (.disjunction s')
  | negation (s s' : String) : Like (.negation s) (.negation s')
  | stray (s s' : String) : Like (.stray s) (.stray s')

theorem Lexeme.Like.symm {l m : Lexeme} (like : l.Like m) : m.Like l := by
  cases like
  · exact .same _
  · exact .conjunction _ _
  · exact .disjunction _ _
  · exact .negation _ _
  · exact .stray _ _

theorem Lexeme.Like.trans {l m k : Lexeme} (first : l.Like m) (second : m.Like k) : l.Like k := by
  cases first with
  | same => exact second
  | conjunction s s' => cases second <;> exact .conjunction _ _
  | disjunction s s' => cases second <;> exact .disjunction _ _
  | negation s s' => cases second <;> exact .negation _ _
  | stray s s' => cases second <;> exact .stray _ _

def Lexeme.isFixed : Lexeme → Bool
  | .conjunction _ | .disjunction _ | .negation _ | .stray _ => false
  | _ => true

/-- A relation of cursors in two lists of tokens, under which the two are read alike. -/
structure Parallel (text : List Char) (stop : Nat) (text' : List Char) (stop' : Nat) (f : String → String)
    (A : List Token → List Token → Prop) : Prop where
  ends : ∀ {ts us}, A ts us → (ts = [] ↔ us = [])
  step : ∀ {t u ts us}, A (t :: ts) (u :: us) → t.lexeme.Like u.lexeme ∧ A ts us
  texts : ∀ {ts us vs ws}, A ts us → A vs ws → vs <:+ ts → ws <:+ us →
    (unreadable text (position stop ts) (position stop vs)).withTexts f =
      (unreadable text' (position stop' us) (position stop' ws)).withTexts f

/-- Readings with values that look alike, and cursors that are related again. -/
structure Alike (A : List Token → List Token → Prop) {α β : Type} (g : α → β) {ts us : List Token} (r : Read α ts)
    (r' : Read α us) : Prop where
  value : g r.value = g r'.value
  rest : A r.rest r'.rest

namespace Alike

variable {A : List Token → List Token → Prop} {α β γ δ : Type} {g : α → β} {h : γ → δ} {ts us vs ws : List Token}
  {r : Read α ts} {r' : Read α us}

theorem map {k : α → γ} {k' : α → γ} (alike : Alike A g r r') (same : h (k r.value) = h (k' r'.value)) :
    Alike A h (r.map k) (r'.map k') := ⟨same, alike.rest⟩

theorem single (alike : Alike A g r r') : Alike A (List.map g) (r.map fun n => [n]) (r'.map fun n => [n]) :=
  ⟨congrArg (fun n => [n]) alike.value, alike.rest⟩

theorem cons {r : Read (List α) ts} {r' : Read (List α) us} (alike : Alike A (List.map g) r r') {a b : α}
    (head : g a = g b) : Alike A (List.map g) (r.map (a :: ·)) (r'.map (b :: ·)) :=
  ⟨by simp only [Read.map, List.map_cons, head, alike.value], alike.rest⟩

theorem within (alike : Alike A g r r') (i : ts <:+ vs) (j : us <:+ ws) : Alike A g (r.within i) (r'.within j) :=
  ⟨alike.value, alike.rest⟩

theorem behind (alike : Alike A g r r') (t u : Token) : Alike A g (r.behind (t := t)) (r'.behind (t := u)) :=
  ⟨alike.value, alike.rest⟩

end Alike

namespace Parallel

variable {text text' : List Char} {stop stop' : Nat} {f : String → String} {A : List Token → List Token → Prop}
  {α β : Type} {g : α → β} {ts us vs ws : List Token} {r : Read α ts} {r' : Read α us} {t u : Token}
  {stops : Lexeme → Bool} {depth : Nat}

theorem cases (parallel : Parallel text stop text' stop' f A) (related : A ts us) :
    ts = [] ∧ us = [] ∨ ∃ t u vs ws, ts = t :: vs ∧ us = u :: ws ∧ t.lexeme.Like u.lexeme ∧ A vs ws := by
  match ts, us with
  | [], us => exact .inl ⟨rfl, (parallel.ends related).1 rfl⟩
  | t :: vs, [] => cases (parallel.ends related).2 rfl
  | t :: vs, u :: ws =>
      obtain ⟨like, later⟩ := parallel.step related
      exact .inr ⟨t, u, vs, ws, rfl, rfl, like, later⟩

theorem starts (parallel : Parallel text stop text' stop' f A) (related : A (t :: vs) us) (fixed : t.lexeme.isFixed) :
    ∃ p ws, us = ⟨t.lexeme, p⟩ :: ws ∧ A vs ws := by
  rcases parallel.cases related with ⟨none, -⟩ | ⟨_, u, _, ws, same, rfl, like, later⟩
  · cases none
  · cases same
    obtain ⟨l, p⟩ := u
    refine ⟨p, ws, ?_, later⟩
    generalize t.lexeme = k at *
    cases like with
    | same => rfl
    | _ => cases fixed

theorem starts' (parallel : Parallel text stop text' stop' f A) (related : A ts (u :: ws)) (fixed : u.lexeme.isFixed) :
    ∃ p vs, ts = ⟨u.lexeme, p⟩ :: vs ∧ A vs ws := by
  rcases parallel.cases related with ⟨-, none⟩ | ⟨t, _, vs, _, rfl, same, like, later⟩
  · cases none
  · cases same
    obtain ⟨l, p⟩ := t
    refine ⟨p, vs, ?_, later⟩
    generalize u.lexeme = k at *
    cases like with
    | same => rfl
    | _ => cases fixed

theorem next? (parallel : Parallel text stop text' stop' f A) (alike : Alike A g r r') :
    r.next? = none ∧ r'.next? = none ∨ ∃ l l' later later', r.next? = some (l, later) ∧ r'.next? = some (l', later') ∧
      l.Like l' ∧ A later.1 later'.1 := by
  obtain ⟨value, rest, suffix⟩ := r
  obtain ⟨value', rest', suffix'⟩ := r'
  rcases parallel.cases alike.rest with ⟨rfl, rfl⟩ | ⟨t, u, vs, ws, rfl, rfl, like, later⟩
  · exact .inl ⟨rfl, rfl⟩
  · exact .inr ⟨_, _, _, _, rfl, rfl, like, later⟩

theorem closed? (parallel : Parallel text stop text' stop' f A) (alike : Alike A g r r') :
    Option.Rel (Alike A g) r.closed? r'.closed? := by
  rw [Read.closed?, Read.closed?]
  rcases parallel.next? alike with ⟨none, none'⟩ | ⟨l, l', later, later', some, some', like, rest⟩
  · rw [none, none']
    exact .none
  · rw [some, some']
    cases like with
    | same l =>
        cases l with
        | closing => exact .some ⟨alike.value, rest⟩
        | _ => exact .none
    | _ => exact .none


theorem passOver (parallel : Parallel text stop text' stop' f A)
    (blind : ∀ l l' : Lexeme, l.Like l' → stops l = stops l') (related : A ts us) (depth : Nat) :
    A (passOver stops depth ts) (passOver stops depth us) := by
  induction ts generalizing us depth with
  | nil =>
      have none := (parallel.ends related).1 rfl
      subst none
      exact related
  | cons t ts ih =>
      rcases parallel.cases related with ⟨none, -⟩ | ⟨_, u, _, ws, same, rfl, like, later⟩
      · cases none
      · cases same
        have level : u.lexeme.depthAfter depth = t.lexeme.depthAfter depth := by
          generalize t.lexeme = l at *
          generalize u.lexeme = l' at *
          cases like <;> rfl
        rw [Expr.passOver, Expr.passOver, ← blind _ _ like, level]
        split
        · exact related
        · exact ih later _

theorem endsOperand_of_like (l l' : Lexeme) (like : l.Like l') : l.endsOperand = l'.endsOperand := by
  cases like <;> rfl

theorem standsAt (parallel : Parallel text stop text' stop' f A) (related : A ts us) :
    standsAt Lexeme.endsOperand ts = standsAt Lexeme.endsOperand us := by
  rcases parallel.cases related with ⟨rfl, rfl⟩ | ⟨t, u, vs, ws, rfl, rfl, like, -⟩
  · rfl
  · exact endsOperand_of_like _ _ like

theorem skipped (parallel : Parallel text stop text' stop' f A) (related : A ts us) :
    Alike A (Node.withTexts f) (skipped text stop ts) (skipped text' stop' us) := by
  have rest := parallel.passOver endsOperand_of_like related 0
  exact ⟨parallel.texts related rest (passOver_suffix _ _ _) (passOver_suffix _ _ _), rest⟩

theorem plainWord (parallel : Parallel text stop text' stop' f A) (related : A ts us) :
    Option.Rel (Alike A (Node.withTexts f)) (plainWord ts) (plainWord us) := by
  rcases parallel.cases related with ⟨rfl, rfl⟩ | ⟨⟨l, p⟩, ⟨l', q⟩, vs, ws, rfl, rfl, like, later⟩
  · exact .none
  · change l.Like l' at like
    cases like with
    | same =>
        cases l with
        | word w => exact .some ⟨rfl, later⟩
        | _ => exact .none
    | _ => exact .none

end Parallel

section
variable {text text' : List Char} {stop stop' : Nat} {f : String → String} {A : List Token → List Token → Prop}

mutual

theorem disjuncts_alike (parallel : Parallel text stop text' stop' f A) {ts us : List Token} (related : A ts us) :
    Alike A (List.map (Node.withTexts f)) (disjuncts text stop ts) (disjuncts text' stop' us) := by
  have operands := conjuncts_alike parallel related
  have first : Alike A (Node.withTexts f) ((conjuncts text stop ts).map Node.conjunction)
      ((conjuncts text' stop' us).map Node.conjunction) := by
    refine operands.map ?_
    rw [Node.withTexts_conjunction, Node.withTexts_conjunction, operands.value]
  have one := first.single
  rw [disjuncts, disjuncts]
  rcases parallel.next? first with ⟨none, none'⟩ | ⟨l, l', later, later', some, some', like, rest⟩
  · rw [none, none']
    exact one
  · rw [some, some']
    have bound := later.2.2
    have more := (disjuncts_alike parallel rest).within later.2.1 later'.2.1
    have both := more.cons first.value
    cases like with
    | same l =>
        cases l with
        | disjunction s => exact both
        | _ => exact one
    | disjunction s s' => exact both
    | _ => exact one
termination_by 10 * ts.length + 9
decreasing_by all_goals omega

theorem conjuncts_alike (parallel : Parallel text stop text' stop' f A) {ts us : List Token} (related : A ts us) :
    Alike A (List.map (Node.withTexts f)) (conjuncts text stop ts) (conjuncts text' stop' us) := by
  have first := unary_alike parallel related
  have one := first.single
  rw [conjuncts, conjuncts]
  rcases parallel.next? first with ⟨none, none'⟩ | ⟨l, l', later, later', some, some', like, rest⟩
  · rw [none, none']
    exact one
  · rw [some, some']
    have bound := later.2.2
    have more := (conjuncts_alike parallel rest).within later.2.1 later'.2.1
    have both := more.cons first.value
    cases like with
    | same l =>
        cases l with
        | conjunction s => exact both
        | _ => exact one
    | conjunction s s' => exact both
    | _ => exact one
termination_by 10 * ts.length + 8
decreasing_by all_goals omega

theorem unary_alike (parallel : Parallel text stop text' stop' f A) {ts us : List Token} (related : A ts us) :
    Alike A (Node.withTexts f) (unary text stop ts) (unary text' stop' us) := by
  have plain := operand_alike parallel related
  rw [unary.eq_def text stop ts, unary.eq_def text' stop' us]
  rcases parallel.cases related with ⟨rfl, rfl⟩ | ⟨⟨l, p⟩, ⟨l', q⟩, vs, ws, rfl, rfl, like, later⟩
  · exact plain
  · have negated : Alike A (Node.withTexts f) ((unary text stop vs).map Node.not) ((unary text' stop' ws).map Node.not) := by
      have operand := unary_alike parallel later
      exact operand.map (congrArg Node.not operand.value)
    change l.Like l' at like
    cases like with
    | same =>
        cases l with
        | negation s => exact negated.behind _ _
        | _ => exact plain
    | negation s s' => exact negated.behind _ _
    | _ => exact plain
termination_by 10 * ts.length + 7
decreasing_by
  · omega
  · subst_vars
    simp only [List.length_cons]
    omega

theorem operand_alike (parallel : Parallel text stop text' stop' f A) {ts us : List Token} (related : A ts us) :
    Alike A (Node.withTexts f) (operand text stop ts) (operand text' stop' us) := by
  have tried := comparison_alike parallel related
  have skip := parallel.skipped related
  rw [operand, operand]
  generalize comparison text stop ts = x at tried ⊢
  generalize comparison text' stop' us = y at tried ⊢
  cases tried with
  | none => exact skip
  | some alike =>
      simp only [parallel.standsAt alike.rest]
      split
      · exact alike
      · exact skip
termination_by 10 * ts.length + 6
decreasing_by omega

theorem comparison_alike (parallel : Parallel text stop text' stop' f A) {ts us : List Token} (related : A ts us) :
    Option.Rel (Alike A (Node.withTexts f)) (comparison text stop ts) (comparison text' stop' us) := by
  rw [comparison, comparison]
  refine rel_bind (chain_alike parallel related) fun left left' _ alike => ?_
  rcases parallel.next? alike with ⟨none, none'⟩ | ⟨l, l', later, later', some, some', like, rest⟩
  · rw [none, none']
    exact .some alike
  · rw [some, some']
    have bound := later.2.2
    cases like with
    | same l =>
        cases l with
        | relation symbol =>
            refine rel_bind (chain_alike parallel rest) fun right right' _ other => ?_
            have whole : Alike A (Node.withTexts f) ((right.within later.2.1).map (.comparison symbol left.value))
                ((right'.within later'.2.1).map (.comparison symbol left'.value)) :=
              ⟨by simp only [Read.map, Read.within, Node.withTexts, alike.value, other.value], other.rest⟩
            have behind := other.rest
            generalize right.rest = us at behind ⊢
            generalize right'.rest = ws at behind ⊢
            rcases parallel.cases behind with ⟨rfl, rfl⟩ | ⟨⟨m, p⟩, ⟨m', q⟩, vs, xs, rfl, rfl, like, -⟩
            · exact .some whole
            · change m.Like m' at like
              cases like with
              | same =>
                  cases m with
                  | relation symbol => exact .none
                  | _ => exact .some whole
              | _ => exact .some whole
        | _ => exact .some alike
    | _ => exact .some alike
termination_by 10 * ts.length + 5
decreasing_by all_goals omega

theorem chain_alike (parallel : Parallel text stop text' stop' f A) {ts us : List Token} (related : A ts us) :
    Option.Rel (Alike A (Node.withTexts f)) (chain text stop ts) (chain text' stop' us) := by
  rw [chain, chain]
  refine rel_bind (primary_alike parallel related) fun first first' _ alike => ?_
  have bound := first.length_le
  exact rel_map (links_alike parallel alike.rest alike.value) fun _ _ other => other.within _ _
termination_by 10 * ts.length + 4
decreasing_by all_goals omega

theorem links_alike (parallel : Parallel text stop text' stop' f A) {n n' : Node} {ts us : List Token} (related : A ts us)
    (same : n.withTexts f = n'.withTexts f) :
    Option.Rel (Alike A (Node.withTexts f)) (links text stop n ts) (links text' stop' n' us) := by
  rw [links.eq_def text stop n ts]
  split
  · next d w _ o vs =>
    obtain ⟨p, _, rfl, dotted⟩ := parallel.starts related rfl
    obtain ⟨p', _, rfl, named⟩ := parallel.starts dotted rfl
    obtain ⟨p'', ws, rfl, opened⟩ := parallel.starts named rfl
    rw [links]
    refine rel_bind (arguments_alike parallel opened) fun args args' _ alike => ?_
    have bound := args.length_le
    have called : (n.method w args.value).withTexts f = (n'.method w args'.value).withTexts f := by
      simp only [Node.withTexts, Node.withTextsAll_eq_map, same, alike.value]
    exact rel_map (links_alike parallel alike.rest called) fun _ _ other =>
      (((other.within _ _).behind _ _).behind _ _).behind _ _
  · next d w _ vs other =>
    obtain ⟨p, _, rfl, dotted⟩ := parallel.starts related rfl
    obtain ⟨p', ws, rfl, named⟩ := parallel.starts dotted rfl
    have extended : (n.extended w).withTexts f = (n'.extended w).withTexts f := by
      rw [Node.withTexts_extended, Node.withTexts_extended, same]
    rw [links]
    · exact rel_map (links_alike parallel named extended) fun _ _ other => (other.behind _ _).behind _ _
    · rintro o xs rfl
      obtain ⟨p, vs, rfl, -⟩ := parallel.starts' named rfl
      exact other _ _ rfl
  · next d vs _ other =>
    obtain ⟨p, ws, rfl, dotted⟩ := parallel.starts related rfl
    rw [links]
    · exact .none
    all_goals
      intros
      rename_i tail
      subst tail
      obtain ⟨p, vs, rfl, -⟩ := parallel.starts' dotted rfl
      exact other _ _ _ rfl
  · next other =>
    rw [links]
    · exact .some ⟨same, related⟩
    all_goals
      intros
      rename_i tail
      subst tail
      obtain ⟨p, vs, rfl, -⟩ := parallel.starts' related rfl
      exact other _ _ rfl
termination_by 10 * ts.length + 3
decreasing_by all_goals (subst_vars; simp only [List.length_cons]; omega)

theorem arguments_alike (parallel : Parallel text stop text' stop' f A) {ts us : List Token} (related : A ts us) :
    Option.Rel (Alike A (List.map (Node.withTexts f))) (arguments text stop ts) (arguments text' stop' us) := by
  have list := parallel.closed? (argumentList_alike parallel related)
  rw [arguments.eq_def text stop ts, arguments.eq_def text' stop' us]
  rcases parallel.cases related with ⟨rfl, rfl⟩ | ⟨⟨l, p⟩, ⟨l', q⟩, vs, ws, rfl, rfl, like, later⟩
  · exact list
  · change l.Like l' at like
    cases like with
    | same =>
        cases l with
        | closing => exact .some ⟨rfl, later⟩
        | _ => exact list
    | _ => exact list
termination_by 10 * ts.length + 11
decreasing_by omega

theorem argumentList_alike (parallel : Parallel text stop text' stop' f A) {ts us : List Token} (related : A ts us) :
    Alike A (List.map (Node.withTexts f)) (argumentList text stop ts) (argumentList text' stop' us) := by
  have operands := disjuncts_alike parallel related
  have first : Alike A (Node.withTexts f) ((disjuncts text stop ts).map Node.disjunction)
      ((disjuncts text' stop' us).map Node.disjunction) := by
    refine operands.map ?_
    rw [Node.withTexts_disjunction, Node.withTexts_disjunction, operands.value]
  have one := first.single
  rw [argumentList, argumentList]
  rcases parallel.next? first with ⟨none, none'⟩ | ⟨l, l', later, later', some, some', like, rest⟩
  · rw [none, none']
    exact one
  · rw [some, some']
    have bound := later.2.2
    have more := (argumentList_alike parallel rest).within later.2.1 later'.2.1
    have both := more.cons first.value
    cases like with
    | same l =>
        cases l with
        | comma => exact both
        | _ => exact one
    | _ => exact one
termination_by 10 * ts.length + 10
decreasing_by all_goals omega

theorem primary_alike (parallel : Parallel text stop text' stop' f A) {ts us : List Token} (related : A ts us) :
    Option.Rel (Alike A (Node.withTexts f)) (primary text stop ts) (primary text' stop' us) := by
  rw [primary.eq_def text stop ts, primary.eq_def text' stop' us]
  rcases parallel.cases related with ⟨rfl, rfl⟩ | ⟨⟨l, p⟩, ⟨l', q⟩, vs, ws, rfl, rfl, like, later⟩
  · exact .none
  · change l.Like l' at like
    cases like with
    | same =>
        cases l with
        | string s => exact .some ⟨rfl, later⟩
        | number v => exact .some ⟨rfl, later⟩
        | opening =>
            have operands := disjuncts_alike parallel later
            have group : Alike A (Node.withTexts f) ((disjuncts text stop vs).map Node.disjunction)
                ((disjuncts text' stop' ws).map Node.disjunction) := by
              refine operands.map ?_
              rw [Node.withTexts_disjunction, Node.withTexts_disjunction, operands.value]
            exact rel_map (parallel.closed? group) fun _ _ alike => alike.behind _ _
        | word w =>
            simp only
            split
            · exact .some ⟨rfl, later⟩
            · exact rel_map (named_alike parallel w later) fun _ _ alike => alike.behind _ _
        | _ => exact .none
    | _ => exact .none
termination_by 10 * ts.length + 2
decreasing_by all_goals (subst_vars; simp only [List.length_cons]; omega)

theorem named_alike (parallel : Parallel text stop text' stop' f A) (w : String) {ts us : List Token} (related : A ts us) :
    Option.Rel (Alike A (Node.withTexts f)) (named text stop w ts) (named text' stop' w us) := by
  rw [named.eq_def text stop w ts, named.eq_def text' stop' w us]
  rcases parallel.cases related with ⟨rfl, rfl⟩ | ⟨⟨l, p⟩, ⟨l', q⟩, vs, ws, rfl, rfl, like, later⟩
  · exact .some ⟨rfl, related⟩
  · change l.Like l' at like
    have name : Alike A (Node.withTexts f) (⟨.name w [], _, List.suffix_rfl⟩ : Read Node (⟨l, p⟩ :: vs))
        (⟨.name w [], _, List.suffix_rfl⟩ : Read Node (⟨l', q⟩ :: ws)) := ⟨rfl, related⟩
    cases like with
    | same =>
        cases l with
        | opening =>
            refine rel_map (arguments_alike parallel later) fun args args' alike => (alike.behind _ _).map ?_
            simp only [Node.withTexts, Node.withTextsAll_eq_map]
            exact congrArg _ alike.value
        | dot =>
            simp only
            split
            · exact rel_map (parallel.plainWord later) fun _ _ alike => alike.behind _ _
            · exact .some name
        | _ => exact .some name
    | _ => exact .some name
termination_by 10 * ts.length + 3
decreasing_by all_goals (subst_vars; simp only [List.length_cons]; omega)

end

/-- A list of tokens that is read whole has one syntax tree with every list like it. -/
theorem parseTokens_alike (parallel : Parallel text stop text' stop' f A) {ts us : List Token} (related : A ts us)
    {n : Node} (read : parseTokens text stop ts = .ok n) :
    ∃ m, parseTokens text' stop' us = .ok m ∧ n.withTexts f = m.withTexts f := by
  have operands := disjuncts_alike parallel related
  have same : (Node.disjunction (disjuncts text stop ts).value).withTexts f =
      (Node.disjunction (disjuncts text' stop' us).value).withTexts f := by
    rw [Node.withTexts_disjunction, Node.withTexts_disjunction, operands.value]
  have rest : A ((disjuncts text stop ts).map Node.disjunction).rest
      ((disjuncts text' stop' us).map Node.disjunction).rest := operands.rest
  rw [parseTokens] at read ⊢
  split at read
  · next none =>
    rw [none] at rest
    rw [(parallel.ends rest).1 rfl]
    cases read
    exact ⟨_, rfl, same⟩
  · cases read

end

end TabularAudit.Expr
