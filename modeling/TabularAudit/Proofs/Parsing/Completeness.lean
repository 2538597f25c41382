import TabularAudit.Expr.Grammar
import TabularAudit.Proofs.Parsing.Cursor

/-!
Every derivation is read back: on the lexemes that a derivation tree yields, each procedure takes the
turns of the tree. What may follow a phrase decides where its procedure stops.
-/

namespace TabularAudit.Expr

namespace Lexeme

def followsPrimary : Lexeme → Bool
  | dot => true
  | l => l.endsChain

def startsPrimary : Lexeme → Bool
  | string _ | number _ | word _ | opening => true
  | _ => false

def startsUnary : Lexeme → Bool
  | negation _ => true
  | l => l.startsPrimary

end Lexeme

def GoesOn (with? : Lexeme → Bool) : List Lexeme → Prop
  | [] => True
  | l :: _ => with? l = true

theorem GoesOn.mono {narrow wide : Lexeme → Bool} {ls : List Lexeme} (narrower : ∀ l, narrow l = true → wide l = true)
    (goes : GoesOn narrow ls) : GoesOn wide ls := by
  cases ls with
  | nil => exact goes
  | cons l ls => exact narrower l goes

def BeginsWith (with? : Lexeme → Bool) : List Lexeme → Prop
  | [] => False
  | l :: _ => with? l = true

theorem BeginsWith.mono {narrow wide : Lexeme → Bool} {ls : List Lexeme}
    (narrower : ∀ l, narrow l = true → wide l = true) (begins : BeginsWith narrow ls) : BeginsWith wide ls := by
  cases ls with
  | nil => exact begins
  | cons l ls => exact narrower l begins

theorem BeginsWith.append {with? : Lexeme → Bool} {ls : List Lexeme} (begins : BeginsWith with? ls)
    (others : List Lexeme) : BeginsWith with? (ls ++ others) := by
  cases ls with
  | nil => exact begins.elim
  | cons l ls => exact begins

theorem standsAt_of_map {with? : Lexeme → Bool} {ts : List Token} {ls : List Lexeme}
    (same : ts.map Token.lexeme = ls) (goes : GoesOn with? ls) : standsAt with? ts = true := by
  subst same
  cases ts with
  | nil => rfl
  | cons t ts => exact goes

/-- A procedure reads this value, and leaves the cursor in front of these lexemes. -/
structure Reads {α : Type} {ts : List Token} (r : Read α ts) (value : α) (ls : List Lexeme) : Prop where
  value : r.value = value
  rest : r.rest.map Token.lexeme = ls

namespace Reads

variable {α β : Type} {ts us : List Token} {r : Read α ts} {a : α} {l : Lexeme} {ls : List Lexeme}

theorem map (reads : Reads r a ls) (f : α → β) : Reads (r.map f) (f a) ls :=
  ⟨congrArg f reads.value, reads.rest⟩

theorem within (reads : Reads r a ls) (h : ts <:+ us) : Reads (r.within h) a ls := ⟨reads.value, reads.rest⟩

theorem behind (reads : Reads r a ls) (t : Token) : Reads (r.behind (t := t)) a ls :=
  ⟨reads.value, reads.rest⟩

theorem next?_cons (reads : Reads r a (l :: ls)) :
    ∃ later, r.next? = some (l, later) ∧ later.1.map Token.lexeme = ls := by
  obtain ⟨t, us, rest, rfl, same⟩ := List.map_eq_cons_iff.1 reads.rest
  obtain ⟨later, next, rfl⟩ := Read.next?_of_rest_cons rest
  exact ⟨later, next, same⟩

theorem standsAt {with? : Lexeme → Bool} (reads : Reads r a ls) (goes : GoesOn with? ls) :
    standsAt with? r.rest = true :=
  standsAt_of_map reads.rest goes

theorem closed? (reads : Reads r a (.closing :: ls)) : ∃ c, r.closed? = some c ∧ Reads c a ls := by
  obtain ⟨later, next, same⟩ := reads.next?_cons
  exact ⟨⟨r.value, later.1, later.2.1⟩, by simp only [Read.closed?, next], reads.value, same⟩

end Reads

theorem exists_cons_of_map {ts : List Token} {l : Lexeme} {ls : List Lexeme}
    (same : ts.map Token.lexeme = l :: ls) : ∃ position us, ts = ⟨l, position⟩ :: us ∧ us.map Token.lexeme = ls := by
  obtain ⟨⟨_, position⟩, us, whole, rfl, rest⟩ := List.map_eq_cons_iff.1 same
  exact ⟨position, us, whole, rest⟩

namespace Grammar

theorem Primary.begins (p : Primary) : BeginsWith Lexeme.startsPrimary p.yield := by
  cases p <;> exact rfl

theorem Chain.begins (c : Chain) : BeginsWith Lexeme.startsPrimary c.yield := by
  cases c with
  | bareIt w it => exact rfl
  | linked p l => exact p.begins.append l.yield

theorem Comparison.begins (c : Comparison) : BeginsWith Lexeme.startsPrimary c.yield := by
  cases c with
  | plain c => exact c.begins
  | related left symbol right => exact left.begins.append _

theorem Unary.begins (u : Unary) : BeginsWith Lexeme.startsUnary u.yield := by
  cases u with
  | negated spelling u => exact rfl
  | plain c => exact c.begins.mono fun l starts => by cases l <;> first | rfl | exact starts

theorem Conjunction.begins (c : Conjunction) : BeginsWith Lexeme.startsUnary c.yield := by
  cases c with
  | one u => exact u.begins
  | more u spelling c => exact u.begins.append _

theorem Disjunction.begins (d : Disjunction) : BeginsWith Lexeme.startsUnary d.yield := by
  cases d with
  | one c => exact c.begins
  | more c spelling d => exact c.begins.append _

theorem Items.begins (l : Items) : BeginsWith Lexeme.startsUnary l.yield := by
  cases l with
  | one d => exact d.begins
  | more d l => exact d.begins.append _

/-- Behind a primary stands a dot, or what may follow the whole chain. -/
theorem Links.goesOn (l : Links) {ls : List Lexeme} (goes : GoesOn Lexeme.endsChain ls) :
    GoesOn Lexeme.followsPrimary (l.yield ++ ls) := by
  cases l with
  | done => exact goes.mono fun l ends => by cases l <;> first | rfl | exact ends
  | part name l => exact rfl
  | call name a l => exact rfl

end Grammar

theorem constant?_of_isIt {w : String} (it : isIt w = true) : constant? w = none := by
  have lower : Text.lower w = "it" := by simpa [isIt] using it
  rw [constant?, lower]
  rfl

section
variable {text : List Char} {stop : Nat}

mutual

theorem disjuncts_complete (d : Grammar.Disjunction) {ts : List Token} {ls : List Lexeme}
    (same : ts.map Token.lexeme = d.yield ++ ls) (goes : GoesOn Lexeme.endsArgument ls) :
    Reads (disjuncts text stop ts) d.nodes ls := by
  rw [disjuncts]
  cases d with
  | one c =>
      have first := (conjuncts_complete c same (goes.mono endsDisjunct_of_endsArgument)).map Node.conjunction
      split
      · next next => cases stops_of_next? (first.standsAt goes) next
      · exact first.map _
  | more c spelling d =>
      rw [Grammar.Disjunction.yield, List.append_assoc] at same
      have first := (conjuncts_complete c same rfl).map Node.conjunction
      obtain ⟨later, next, same⟩ := first.next?_cons
      have others := disjuncts_complete d same goes
      rw [next, first.value]
      exact (others.within _).map _

theorem conjuncts_complete (c : Grammar.Conjunction) {ts : List Token} {ls : List Lexeme}
    (same : ts.map Token.lexeme = c.yield ++ ls) (goes : GoesOn Lexeme.endsDisjunct ls) :
    Reads (conjuncts text stop ts) c.nodes ls := by
  rw [conjuncts]
  cases c with
  | one u =>
      have first := unary_complete u same (goes.mono endsOperand_of_endsDisjunct)
      split
      · next next => cases stops_of_next? (first.standsAt goes) next
      · exact first.map _
  | more u spelling c =>
      rw [Grammar.Conjunction.yield, List.append_assoc] at same
      have first := unary_complete u same rfl
      obtain ⟨later, next, same⟩ := first.next?_cons
      have others := conjuncts_complete c same goes
      rw [next, first.value]
      exact (others.within _).map _

theorem unary_complete (u : Grammar.Unary) {ts : List Token} {ls : List Lexeme}
    (same : ts.map Token.lexeme = u.yield ++ ls) (goes : GoesOn Lexeme.endsOperand ls) :
    Reads (unary text stop ts) u.node ls := by
  cases u with
  | negated spelling u =>
      obtain ⟨_, us, rfl, behind⟩ := exists_cons_of_map same
      rw [unary]
      exact ((unary_complete u behind goes).behind _).map _
  | plain c =>
      rw [unary]
      · obtain ⟨r, read, reads⟩ := comparison_complete c same goes
        have stands := reads.standsAt goes
        rw [operand, read]
        simp only [stands, if_true]
        exact reads
      · rintro spelling position us rfl
        have begins := c.begins.append ls
        rw [show c.yield ++ ls = _ from same.symm] at begins
        cases begins

theorem comparison_complete (c : Grammar.Comparison) {ts : List Token} {ls : List Lexeme}
    (same : ts.map Token.lexeme = c.yield ++ ls) (goes : GoesOn Lexeme.endsOperand ls) :
    ∃ r, comparison text stop ts = some r ∧ Reads r c.node ls := by
  cases c with
  | plain c =>
      obtain ⟨r, read, reads⟩ := chain_complete c same (goes.mono endsChain_of_endsOperand)
      rw [comparison, read]
      refine ⟨r, ?_, reads⟩
      rw [Option.bind_some]
      split
      · next next => cases stops_of_next? (reads.standsAt goes) next
      · rfl
  | related left symbol right =>
      rw [Grammar.Comparison.yield, List.append_assoc] at same
      obtain ⟨l, readLeft, readsLeft⟩ := chain_complete left same rfl
      obtain ⟨later, next, same⟩ := readsLeft.next?_cons
      obtain ⟨r, readRight, readsRight⟩ := chain_complete right same (goes.mono endsChain_of_endsOperand)
      have stands := readsRight.standsAt goes
      rw [comparison, readLeft, Option.bind_some, next]
      simp only [readRight, Option.bind_some, readsLeft.value]
      split
      · next rest =>
        rw [rest] at stands
        cases stands
      · exact ⟨_, rfl, (readsRight.within _).map _⟩

theorem chain_complete (c : Grammar.Chain) {ts : List Token} {ls : List Lexeme}
    (same : ts.map Token.lexeme = c.yield ++ ls) (goes : GoesOn Lexeme.endsChain ls) :
    ∃ r, chain text stop ts = some r ∧ Reads r c.node ls := by
  cases c with
  | bareIt w it =>
      obtain ⟨_, us, rfl, behind⟩ := exists_cons_of_map same
      have stands : standsAt Lexeme.endsChain us = true := standsAt_of_map behind goes
      have bare : named text stop w us = some ⟨.name w [], us, List.suffix_rfl⟩ := by
        rw [named] <;> (intros; subst_vars; cases stands)
      have none_more : links text stop (.name w []) us = some ⟨.name w [], us, List.suffix_rfl⟩ := by
        rw [links] <;> (intros; subst_vars; cases stands)
      rw [chain, primary]
      simp only [constant?_of_isIt it, bare, Option.map_some, Option.bind_some]
      exact ⟨_, congrArg (Option.map _) none_more, rfl, behind⟩
  | linked p l =>
      rw [Grammar.Chain.yield, List.append_assoc] at same
      obtain ⟨first, readFirst, readsFirst⟩ := primary_complete p same (l.goesOn goes)
      obtain ⟨last, readLast, readsLast⟩ := links_complete l first.value readsFirst.rest goes
      rw [chain, readFirst, Option.bind_some, readLast]
      rw [readsFirst.value] at readsLast
      exact ⟨_, rfl, readsLast.within _⟩

theorem links_complete (l : Grammar.Links) (n : Node) {ts : List Token} {ls : List Lexeme}
    (same : ts.map Token.lexeme = l.yield ++ ls) (goes : GoesOn Lexeme.endsChain ls) :
    ∃ r, links text stop n ts = some r ∧ Reads r (l.node n) ls := by
  cases l with
  | done =>
      have stands : standsAt Lexeme.endsChain ts = true := standsAt_of_map same goes
      rw [links]
      · exact ⟨_, rfl, rfl, same⟩
      all_goals
        intros
        subst_vars
        cases stands
  | part name l =>
      rw [Grammar.Links.yield, List.cons_append, List.cons_append] at same
      obtain ⟨_, us, rfl, afterDot⟩ := exists_cons_of_map same
      obtain ⟨_, vs, rfl, behind⟩ := exists_cons_of_map afterDot
      obtain ⟨r, read, reads⟩ := links_complete l (n.extended name) behind goes
      rw [links]
      · rw [read]
        exact ⟨_, rfl, (reads.behind _).behind _⟩
      · rintro position ws rfl
        have next := l.goesOn goes
        rw [← behind] at next
        cases next
  | call name a l =>
      simp only [Grammar.Links.yield, List.cons_append, List.append_assoc] at same
      obtain ⟨_, us, rfl, afterDot⟩ := exists_cons_of_map same
      obtain ⟨_, vs, rfl, afterName⟩ := exists_cons_of_map afterDot
      obtain ⟨_, ws, rfl, behind⟩ := exists_cons_of_map afterName
      obtain ⟨args, readArgs, readsArgs⟩ := arguments_complete a behind
      obtain ⟨r, read, reads⟩ := links_complete l (.method n name a.nodes) readsArgs.rest goes
      rw [links, readArgs, Option.bind_some, readsArgs.value, read]
      exact ⟨_, rfl, (((reads.within _).behind _).behind _).behind _⟩

theorem arguments_complete (a : Grammar.Arguments) {ts : List Token} {ls : List Lexeme}
    (same : ts.map Token.lexeme = a.yield ++ .closing :: ls) :
    ∃ r, arguments text stop ts = some r ∧ Reads r a.nodes ls := by
  cases a with
  | empty =>
      obtain ⟨_, us, rfl, behind⟩ := exists_cons_of_map same
      rw [arguments]
      exact ⟨_, rfl, rfl, behind⟩
  | items l =>
      rw [arguments]
      · exact (items_complete l same).closed?
      · rintro position us rfl
        have begins := l.begins.append (.closing :: ls)
        rw [show l.yield ++ _ = _ from same.symm] at begins
        cases begins

theorem items_complete (l : Grammar.Items) {ts : List Token} {ls : List Lexeme}
    (same : ts.map Token.lexeme = l.yield ++ .closing :: ls) :
    Reads (argumentList text stop ts) l.nodes (.closing :: ls) := by
  rw [argumentList]
  cases l with
  | one d =>
      have first := (disjuncts_complete d same rfl).map Node.disjunction
      obtain ⟨later, next, -⟩ := first.next?_cons
      rw [next]
      exact first.map _
  | more d l =>
      rw [Grammar.Items.yield, List.append_assoc] at same
      have first := (disjuncts_complete d same rfl).map Node.disjunction
      obtain ⟨later, next, same⟩ := first.next?_cons
      have others := items_complete l same
      rw [next, first.value]
      exact (others.within _).map _

theorem primary_complete (p : Grammar.Primary) {ts : List Token} {ls : List Lexeme}
    (same : ts.map Token.lexeme = p.yield ++ ls) (goes : GoesOn Lexeme.followsPrimary ls) :
    ∃ r, primary text stop ts = some r ∧ Reads r p.node ls := by
  cases p with
  | string s =>
      obtain ⟨_, us, rfl, behind⟩ := exists_cons_of_map same
      rw [primary]
      exact ⟨_, rfl, rfl, behind⟩
  | number v =>
      obtain ⟨_, us, rfl, behind⟩ := exists_cons_of_map same
      rw [primary]
      exact ⟨_, rfl, rfl, behind⟩
  | constant w v reads =>
      obtain ⟨_, us, rfl, behind⟩ := exists_cons_of_map same
      rw [primary, reads]
      exact ⟨_, rfl, rfl, behind⟩
  | call w free a =>
      simp only [Grammar.Primary.yield, List.cons_append, List.append_assoc, List.nil_append] at same
      obtain ⟨_, us, rfl, afterWord⟩ := exists_cons_of_map same
      obtain ⟨_, vs, rfl, behind⟩ := exists_cons_of_map afterWord
      obtain ⟨args, readArgs, readsArgs⟩ := arguments_complete a behind
      rw [primary, free, named, readArgs]
      exact ⟨_, rfl, ((readsArgs.behind _).map (Node.function w)).behind _⟩
  | ofIt it w isIt =>
      obtain ⟨_, us, rfl, afterIt⟩ := exists_cons_of_map same
      obtain ⟨_, vs, rfl, afterDot⟩ := exists_cons_of_map afterIt
      obtain ⟨_, ws, rfl, behind⟩ := exists_cons_of_map afterDot
      rw [primary, constant?_of_isIt isIt, named, if_pos isIt, plainWord]
      exact ⟨_, rfl, rfl, behind⟩
  | name w free other =>
      obtain ⟨_, us, rfl, behind⟩ := exists_cons_of_map same
      have stands : standsAt Lexeme.followsPrimary us = true := standsAt_of_map behind goes
      have alone : named text stop w us = some ⟨.name w [], us, List.suffix_rfl⟩ := by
        rw [named.eq_def]
        split
        · cases stands
        · rw [other]
          rfl
        · rfl
      rw [primary, free, alone]
      exact ⟨_, rfl, rfl, behind⟩
  | group d =>
      simp only [Grammar.Primary.yield, List.cons_append, List.append_assoc, List.nil_append] at same
      obtain ⟨_, us, rfl, behind⟩ := exists_cons_of_map same
      have inside : Reads (disjuncts text stop us) d.nodes (.closing :: ls) := disjuncts_complete d behind rfl
      obtain ⟨closed, close, reads⟩ := (inside.map Node.disjunction).closed?
      rw [primary, close]
      exact ⟨_, rfl, reads.behind _⟩

end

theorem parseTokens_of_yield (d : Grammar.Disjunction) {ts : List Token} (same : ts.map Token.lexeme = d.yield) :
    parseTokens text stop ts = .ok d.node := by
  have reads : Reads (disjuncts text stop ts) d.nodes [] := disjuncts_complete d (by rw [same, List.append_nil]) trivial
  have rest : ((disjuncts text stop ts).map Node.disjunction).rest = [] := List.map_eq_nil_iff.1 reads.rest
  simp only [parseTokens, rest]
  exact congrArg (Except.ok ∘ Node.disjunction) reads.value

end

end TabularAudit.Expr
