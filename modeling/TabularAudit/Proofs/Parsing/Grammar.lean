import TabularAudit.Proofs.Parsing.Completeness
import TabularAudit.Proofs.Parsing.Soundness

/-!
The parser accepts its grammar: a readable tree comes out exactly for the lexemes that derive it,
and no lexemes have two derivations.
-/

namespace TabularAudit.Expr

namespace Grammar

theorem Primary.ne_bareIt {w : String} {ls ms : List Lexeme} (p : Primary) (it : isIt w = true)
    (goes : GoesOn Lexeme.endsChain ls) : p.yield ++ ms ≠ .word w :: ls := by
  intro same
  cases p with
  | string s => cases same
  | number v => cases same
  | constant v value reads =>
      cases same
      rw [constant?_of_isIt it] at reads
      cases reads
  | call v free a =>
      cases same
      cases goes
  | ofIt v name isIt =>
      cases same
      cases goes
  | name v free other =>
      cases same
      rw [it] at other
      cases other
  | group d => cases same

mutual

theorem Disjunction.unambiguous (d e : Disjunction) {ls ms : List Lexeme} (same : d.yield ++ ls = e.yield ++ ms)
    (goes : GoesOn Lexeme.endsArgument ls) (goes' : GoesOn Lexeme.endsArgument ms) : d = e ∧ ls = ms := by
  cases d with
  | one c =>
      cases e with
      | one c' =>
          obtain ⟨rfl, rest⟩ := Conjunction.unambiguous c c' same
            (goes.mono endsDisjunct_of_endsArgument) (goes'.mono endsDisjunct_of_endsArgument)
          exact ⟨rfl, rest⟩
      | more c' spelling' e =>
          rw [Disjunction.yield, Disjunction.yield, List.append_assoc] at same
          obtain ⟨-, rfl⟩ := Conjunction.unambiguous c c' same (goes.mono endsDisjunct_of_endsArgument) rfl
          cases goes
  | more c spelling d =>
      rw [Disjunction.yield, List.append_assoc] at same
      cases e with
      | one c' =>
          obtain ⟨-, rfl⟩ := Conjunction.unambiguous c c' same rfl (goes'.mono endsDisjunct_of_endsArgument)
          cases goes'
      | more c' spelling' e =>
          rw [Disjunction.yield, List.append_assoc] at same
          obtain ⟨rfl, behind⟩ := Conjunction.unambiguous c c' same rfl rfl
          obtain ⟨⟨⟩, others⟩ := List.cons.inj behind
          obtain ⟨rfl, rest⟩ := Disjunction.unambiguous d e others goes goes'
          exact ⟨rfl, rest⟩
termination_by structural d

theorem Conjunction.unambiguous (c e : Conjunction) {ls ms : List Lexeme} (same : c.yield ++ ls = e.yield ++ ms)
    (goes : GoesOn Lexeme.endsDisjunct ls) (goes' : GoesOn Lexeme.endsDisjunct ms) : c = e ∧ ls = ms := by
  cases c with
  | one u =>
      cases e with
      | one u' =>
          obtain ⟨rfl, rest⟩ := Unary.unambiguous u u' same
            (goes.mono endsOperand_of_endsDisjunct) (goes'.mono endsOperand_of_endsDisjunct)
          exact ⟨rfl, rest⟩
      | more u' spelling' e =>
          rw [Conjunction.yield, Conjunction.yield, List.append_assoc] at same
          obtain ⟨-, rfl⟩ := Unary.unambiguous u u' same (goes.mono endsOperand_of_endsDisjunct) rfl
          cases goes
  | more u spelling c =>
      rw [Conjunction.yield, List.append_assoc] at same
      cases e with
      | one u' =>
          obtain ⟨-, rfl⟩ := Unary.unambiguous u u' same rfl (goes'.mono endsOperand_of_endsDisjunct)
          cases goes'
      | more u' spelling' e =>
          rw [Conjunction.yield, List.append_assoc] at same
          obtain ⟨rfl, behind⟩ := Unary.unambiguous u u' same rfl rfl
          obtain ⟨⟨⟩, others⟩ := List.cons.inj behind
          obtain ⟨rfl, rest⟩ := Conjunction.unambiguous c e others goes goes'
          exact ⟨rfl, rest⟩
termination_by structural c

theorem Unary.unambiguous (u e : Unary) {ls ms : List Lexeme} (same : u.yield ++ ls = e.yield ++ ms)
    (goes : GoesOn Lexeme.endsOperand ls) (goes' : GoesOn Lexeme.endsOperand ms) : u = e ∧ ls = ms := by
  cases u with
  | negated spelling u =>
      cases e with
      | negated spelling' e =>
          obtain ⟨⟨⟩, others⟩ := List.cons.inj same
          obtain ⟨rfl, rest⟩ := Unary.unambiguous u e others goes goes'
          exact ⟨rfl, rest⟩
      | plain c' =>
          have begins := c'.begins.append ms
          rw [show c'.yield ++ ms = _ from same.symm] at begins
          cases begins
  | plain c =>
      cases e with
      | negated spelling' e =>
          have begins := c.begins.append ls
          rw [show c.yield ++ ls = _ from same] at begins
          cases begins
      | plain c' =>
          obtain ⟨rfl, rest⟩ := Comparison.unambiguous c c' same goes goes'
          exact ⟨rfl, rest⟩
termination_by structural u

theorem Comparison.unambiguous (c e : Comparison) {ls ms : List Lexeme} (same : c.yield ++ ls = e.yield ++ ms)
    (goes : GoesOn Lexeme.endsOperand ls) (goes' : GoesOn Lexeme.endsOperand ms) : c = e ∧ ls = ms := by
  cases c with
  | plain c =>
      cases e with
      | plain c' =>
          obtain ⟨rfl, rest⟩ := Chain.unambiguous c c' same
            (goes.mono endsChain_of_endsOperand) (goes'.mono endsChain_of_endsOperand)
          exact ⟨rfl, rest⟩
      | related left' symbol' right' =>
          rw [Comparison.yield, Comparison.yield, List.append_assoc] at same
          obtain ⟨-, rfl⟩ := Chain.unambiguous c left' same (goes.mono endsChain_of_endsOperand) rfl
          cases goes
  | related left symbol right =>
      rw [Comparison.yield, List.append_assoc] at same
      cases e with
      | plain c' =>
          obtain ⟨-, rfl⟩ := Chain.unambiguous left c' same rfl (goes'.mono endsChain_of_endsOperand)
          cases goes'
      | related left' symbol' right' =>
          rw [Comparison.yield, List.append_assoc] at same
          obtain ⟨rfl, behind⟩ := Chain.unambiguous left left' same rfl rfl
          obtain ⟨⟨⟩, others⟩ := List.cons.inj behind
          obtain ⟨rfl, rest⟩ := Chain.unambiguous right right' others
            (goes.mono endsChain_of_endsOperand) (goes'.mono endsChain_of_endsOperand)
          exact ⟨rfl, rest⟩
termination_by structural c

theorem Chain.unambiguous (c e : Chain) {ls ms : List Lexeme} (same : c.yield ++ ls = e.yield ++ ms)
    (goes : GoesOn Lexeme.endsChain ls) (goes' : GoesOn Lexeme.endsChain ms) : c = e ∧ ls = ms := by
  cases c with
  | bareIt w it =>
      cases e with
      | bareIt w' it' =>
          obtain ⟨⟨⟩, rest⟩ := List.cons.inj same
          exact ⟨rfl, rest⟩
      | linked p' l' =>
          rw [Chain.yield, Chain.yield, List.append_assoc] at same
          exact absurd same.symm (p'.ne_bareIt it goes)
  | linked p l =>
      rw [Chain.yield, List.append_assoc] at same
      cases e with
      | bareIt w' it' => exact absurd same (p.ne_bareIt it' goes')
      | linked p' l' =>
          rw [Chain.yield, List.append_assoc] at same
          obtain ⟨rfl, behind⟩ := Primary.unambiguous p p' same (l.goesOn goes) (l'.goesOn goes')
          obtain ⟨rfl, rest⟩ := Links.unambiguous l l' behind goes goes'
          exact ⟨rfl, rest⟩
termination_by structural c

theorem Links.unambiguous (l e : Links) {ls ms : List Lexeme} (same : l.yield ++ ls = e.yield ++ ms)
    (goes : GoesOn Lexeme.endsChain ls) (goes' : GoesOn Lexeme.endsChain ms) : l = e ∧ ls = ms := by
  cases l with
  | done =>
      have goes : GoesOn Lexeme.endsChain (e.yield ++ ms) := same ▸ goes
      cases e with
      | done => exact ⟨rfl, same⟩
      | part _ _ => cases goes
      | call _ _ _ => cases goes
  | part name l =>
      cases e with
      | done =>
          rw [← show _ = ms from same] at goes'
          cases goes'
      | part name' e =>
          obtain ⟨⟨⟩, others⟩ := List.cons.inj (List.cons.inj same).2
          obtain ⟨rfl, rest⟩ := Links.unambiguous l e others goes goes'
          exact ⟨rfl, rest⟩
      | call name' a' e =>
          have next := l.goesOn goes
          rw [show l.yield ++ ls = _ from (List.cons.inj (List.cons.inj same).2).2] at next
          cases next
  | call name a l =>
      cases e with
      | done =>
          rw [← show _ = ms from same] at goes'
          cases goes'
      | part name' e =>
          have next := e.goesOn goes'
          rw [show e.yield ++ ms = _ from (List.cons.inj (List.cons.inj same).2).2.symm] at next
          cases next
      | call name' a' e =>
          simp only [Links.yield, List.cons_append, List.append_assoc] at same
          obtain ⟨⟨⟩, behind⟩ := List.cons.inj (List.cons.inj same).2
          obtain ⟨rfl, others⟩ := Arguments.unambiguous a a' (List.cons.inj behind).2
          obtain ⟨rfl, rest⟩ := Links.unambiguous l e others goes goes'
          exact ⟨rfl, rest⟩
termination_by structural l

theorem Arguments.unambiguous (a e : Arguments) {ls ms : List Lexeme}
    (same : a.yield ++ .closing :: ls = e.yield ++ .closing :: ms) : a = e ∧ ls = ms := by
  cases a with
  | empty =>
      cases e with
      | empty => exact ⟨rfl, List.cons.inj same |>.2⟩
      | items l' =>
          have begins := l'.begins.append (.closing :: ms)
          rw [show l'.yield ++ _ = _ from same.symm] at begins
          cases begins
  | items l =>
      cases e with
      | empty =>
          have begins := l.begins.append (.closing :: ls)
          rw [show l.yield ++ _ = _ from same] at begins
          cases begins
      | items l' =>
          obtain ⟨rfl, rest⟩ := Items.unambiguous l l' same
          exact ⟨rfl, rest⟩
termination_by structural a

theorem Items.unambiguous (l e : Items) {ls ms : List Lexeme}
    (same : l.yield ++ .closing :: ls = e.yield ++ .closing :: ms) : l = e ∧ ls = ms := by
  cases l with
  | one d =>
      cases e with
      | one d' =>
          obtain ⟨rfl, rest⟩ := Disjunction.unambiguous d d' same rfl rfl
          exact ⟨rfl, (List.cons.inj rest).2⟩
      | more d' e =>
          rw [Items.yield, Items.yield, List.append_assoc] at same
          obtain ⟨-, behind⟩ := Disjunction.unambiguous d d' same rfl rfl
          cases behind
  | more d l =>
      rw [Items.yield, List.append_assoc] at same
      cases e with
      | one d' =>
          obtain ⟨-, behind⟩ := Disjunction.unambiguous d d' same rfl rfl
          cases behind
      | more d' e =>
          rw [Items.yield, List.append_assoc] at same
          obtain ⟨rfl, behind⟩ := Disjunction.unambiguous d d' same rfl rfl
          obtain ⟨rfl, rest⟩ := Items.unambiguous l e (List.cons.inj behind).2
          exact ⟨rfl, rest⟩
termination_by structural l

theorem Primary.unambiguous (p e : Primary) {ls ms : List Lexeme} (same : p.yield ++ ls = e.yield ++ ms)
    (goes : GoesOn Lexeme.followsPrimary ls) (goes' : GoesOn Lexeme.followsPrimary ms) : p = e ∧ ls = ms := by
  cases p with
  | string s =>
      cases e with
      | string s' =>
          obtain ⟨⟨⟩, rest⟩ := List.cons.inj same
          exact ⟨rfl, rest⟩
      | _ => cases same
  | number v =>
      cases e with
      | number v' =>
          obtain ⟨⟨⟩, rest⟩ := List.cons.inj same
          exact ⟨rfl, rest⟩
      | _ => cases same
  | constant w v reads =>
      cases e with
      | constant w' v' reads' =>
          obtain ⟨⟨⟩, rest⟩ := List.cons.inj same
          cases reads.symm.trans reads'
          exact ⟨rfl, rest⟩
      | call w' free' a' => cases same; cases reads.symm.trans free'
      | ofIt it' w' isIt' => cases same; cases reads.symm.trans (constant?_of_isIt isIt')
      | name w' free' other' => cases same; cases reads.symm.trans free'
      | _ => cases same
  | call w free a =>
      cases e with
      | constant w' v' reads' => cases same; cases reads'.symm.trans free
      | call w' free' a' =>
          simp only [Primary.yield, List.cons_append, List.append_assoc, List.nil_append] at same
          obtain ⟨⟨⟩, behind⟩ := List.cons.inj same
          obtain ⟨rfl, rest⟩ := Arguments.unambiguous a a' (List.cons.inj behind).2
          exact ⟨rfl, rest⟩
      | name w' free' other' => cases same; cases goes'
      | _ => cases same
  | ofIt it w isIt =>
      cases e with
      | constant w' v' reads' => cases same; cases reads'.symm.trans (constant?_of_isIt isIt)
      | ofIt it' w' isIt' =>
          cases same
          exact ⟨rfl, rfl⟩
      | name w' free' other' => cases same; cases other'.symm.trans isIt
      | _ => cases same
  | name w free other =>
      cases e with
      | constant w' v' reads' => cases same; cases reads'.symm.trans free
      | call w' free' a' => cases same; cases goes
      | ofIt it' w' isIt' => cases same; cases other.symm.trans isIt'
      | name w' free' other' =>
          obtain ⟨⟨⟩, rest⟩ := List.cons.inj same
          exact ⟨rfl, rest⟩
      | _ => cases same
  | group d =>
      cases e with
      | group d' =>
          simp only [Primary.yield, List.cons_append, List.append_assoc, List.nil_append] at same
          obtain ⟨rfl, behind⟩ := Disjunction.unambiguous d d' (List.cons.inj same).2 rfl rfl
          exact ⟨rfl, (List.cons.inj behind).2⟩
      | _ => cases same
termination_by structural p

end

end Grammar

/-- A readable tree comes out of the parser exactly when the lexemes derive it, and they derive it in
one way only. -/
theorem parse_iff_derives (text : List Char) (stop : Nat) (ts : List Token) :
    (∀ n : Node, n.isReadable →
      (parseTokens text stop ts = .ok n ↔ ∃ d : Grammar.Disjunction, d.yield = ts.map Token.lexeme ∧ d.node = n)) ∧
    ∀ d e : Grammar.Disjunction, d.yield = ts.map Token.lexeme → e.yield = ts.map Token.lexeme → d = e := by
  constructor
  · intro n clean
    constructor
    · intro parsed
      rw [parseTokens] at parsed
      have rest : ((disjuncts text stop ts).map Node.disjunction).rest = (disjuncts text stop ts).rest := rfl
      rw [rest] at parsed
      split at parsed
      · next ended =>
        cases parsed
        have clean : (Node.disjunction (disjuncts text stop ts).value).isReadable = true := clean
        rw [Node.isReadable_disjunction] at clean
        obtain ⟨d, nodes, covers⟩ := disjuncts_sound clean
        rw [ended, Covers, List.map_nil, List.append_nil] at covers
        exact ⟨d, covers.symm, congrArg Node.disjunction nodes⟩
      · cases parsed
    · rintro ⟨d, derives, rfl⟩
      have whole : ts.map Token.lexeme = d.yield ++ [] := by rw [derives, List.append_nil]
      have reads : Reads (disjuncts text stop ts) d.nodes [] := disjuncts_complete d whole trivial
      have rest : ((disjuncts text stop ts).map Node.disjunction).rest = [] := List.map_eq_nil_iff.1 reads.rest
      simp only [parseTokens, rest]
      exact congrArg (Except.ok ∘ Node.disjunction) reads.value
  · intro d e derives derives'
    have same : d.yield ++ [] = e.yield ++ [] := by rw [derives, derives']
    exact (d.unambiguous e same trivial trivial).1

theorem derives_of_parse_comparison :
    (Node.comparison "=" (.name "Column" ["Size"]) (.literal .null)).isReadable = true ∧
      ∃ d : Grammar.Disjunction,
        d.yield = [.opening, .word "it", .dot, .word "Column", .closing, .dot, .word "Size", .relation "=", .word "NULL"] ∧
          d.node = .comparison "=" (.name "Column" ["Size"]) (.literal .null) :=
  ⟨rfl, ((parse_iff_derives [] 24 [⟨.opening, 0⟩, ⟨.word "it", 1⟩, ⟨.dot, 3⟩, ⟨.word "Column", 4⟩, ⟨.closing, 10⟩,
    ⟨.dot, 11⟩, ⟨.word "Size", 12⟩, ⟨.relation "=", 17⟩, ⟨.word "NULL", 19⟩]).1 _ rfl).1 (by with_unfolding_all rfl)⟩

end TabularAudit.Expr
