import TabularAudit.Expr.Grammar
import TabularAudit.Proofs.Parsing.Cursor

/-!
Every readable result has a derivation. What is skipped leaves an unreadable node behind, so a tree
without such nodes was read by the turns of the grammar alone.
-/

namespace TabularAudit.Expr

namespace Node

theorem isReadable_conjunction (ns : List Node) : (Node.conjunction ns).isReadable = areReadable ns := by
  match ns with
  | [] => rfl
  | [n] => exact (Bool.and_true _).symm
  | _ :: _ :: _ => rfl

theorem isReadable_disjunction (ns : List Node) : (Node.disjunction ns).isReadable = areReadable ns := by
  match ns with
  | [] => rfl
  | [n] => exact (Bool.and_true _).symm
  | _ :: _ :: _ => rfl

theorem isReadable_extended (n : Node) (name : String) : (n.extended name).isReadable = n.isReadable := by
  cases n <;> rfl

end Node

def Covers (ls : List Lexeme) (ts us : List Token) : Prop := ts.map Token.lexeme = ls ++ us.map Token.lexeme

namespace Covers

variable {l : Lexeme} {ls ms : List Lexeme} {position : Nat} {ts us vs : List Token}

theorem rfl {ts : List Token} : Covers [] ts ts := Eq.refl _

theorem cons (covers : Covers ls us vs) : Covers (l :: ls) (⟨l, position⟩ :: us) vs :=
  congrArg (List.cons l) covers

theorem trans (first : Covers ls ts us) (second : Covers ms us vs) : Covers (ls ++ ms) ts vs := by
  rw [Covers, List.append_assoc, ← second]
  exact first

end Covers

section
variable {text : List Char} {stop : Nat}

mutual

theorem disjuncts_sound {ts : List Token} (clean : Node.areReadable (disjuncts text stop ts).value) :
    ∃ d : Grammar.Disjunction, d.nodes = (disjuncts text stop ts).value ∧
      Covers d.yield ts (disjuncts text stop ts).rest := by
  rcases disjuncts_cases ts with ⟨spelling, position, us, next, value, rest, bound⟩ | ⟨value, rest, -⟩
  · rw [value, Node.areReadable, Node.isReadable_conjunction, Bool.and_eq_true] at clean
    obtain ⟨c, nodes, covers⟩ := conjuncts_sound clean.1
    obtain ⟨d, others, behind⟩ := disjuncts_sound clean.2
    rw [next] at covers
    rw [value, rest]
    refine ⟨.more c spelling d, ?_, covers.trans behind.cons⟩
    rw [Grammar.Disjunction.nodes, nodes, others]
  · rw [value, Node.areReadable, Node.isReadable_conjunction, Bool.and_eq_true] at clean
    obtain ⟨c, nodes, covers⟩ := conjuncts_sound clean.1
    rw [value, rest]
    refine ⟨.one c, ?_, covers⟩
    rw [Grammar.Disjunction.nodes, nodes]
termination_by 10 * ts.length + 9
decreasing_by all_goals omega

theorem conjuncts_sound {ts : List Token} (clean : Node.areReadable (conjuncts text stop ts).value) :
    ∃ c : Grammar.Conjunction, c.nodes = (conjuncts text stop ts).value ∧
      Covers c.yield ts (conjuncts text stop ts).rest := by
  rcases conjuncts_cases ts with ⟨spelling, position, us, next, value, rest, bound⟩ | ⟨value, rest, -⟩
  · rw [value, Node.areReadable, Bool.and_eq_true] at clean
    obtain ⟨u, node, covers⟩ := unary_sound clean.1
    obtain ⟨c, others, behind⟩ := conjuncts_sound clean.2
    rw [next] at covers
    rw [value, rest]
    refine ⟨.more u spelling c, ?_, covers.trans behind.cons⟩
    rw [Grammar.Conjunction.nodes, node, others]
  · rw [value, Node.areReadable, Bool.and_eq_true] at clean
    obtain ⟨u, node, covers⟩ := unary_sound clean.1
    rw [value, rest]
    refine ⟨.one u, ?_, covers⟩
    rw [Grammar.Conjunction.nodes, node]
termination_by 10 * ts.length + 8
decreasing_by all_goals omega

theorem unary_sound {ts : List Token} (clean : (unary text stop ts).value.isReadable) :
    ∃ u : Grammar.Unary, u.node = (unary text stop ts).value ∧ Covers u.yield ts (unary text stop ts).rest := by
  rcases unary_cases ts with ⟨spelling, position, us, rfl, value, rest⟩ | ⟨value, rest⟩
  · rw [value] at clean
    obtain ⟨u, node, covers⟩ := unary_sound clean
    rw [value, rest]
    refine ⟨.negated spelling u, ?_, covers.cons⟩
    rw [Grammar.Unary.node, node]
  · rw [value] at clean
    obtain ⟨c, node, covers⟩ := operand_sound clean
    rw [value, rest]
    exact ⟨.plain c, node, covers⟩
termination_by 10 * ts.length + 7
decreasing_by
  · subst_vars
    simp only [List.length_cons]
    omega
  · omega

theorem operand_sound {ts : List Token} (clean : (operand text stop ts).value.isReadable) :
    ∃ c : Grammar.Comparison, c.node = (operand text stop ts).value ∧
      Covers c.yield ts (operand text stop ts).rest := by
  rw [operand] at clean ⊢
  cases read : comparison text stop ts with
  | none =>
      rw [read] at clean
      cases clean
  | some r =>
      simp only [read] at clean ⊢
      split at clean
      · next stands =>
        rw [if_pos stands]
        exact comparison_sound read clean
      · cases clean
termination_by 10 * ts.length + 6
decreasing_by omega

theorem comparison_sound {ts : List Token} {r : Read Node ts} (read : comparison text stop ts = some r)
    (clean : r.value.isReadable) : ∃ c : Grammar.Comparison, c.node = r.value ∧ Covers c.yield ts r.rest := by
  rw [comparison, Option.bind_eq_some_iff] at read
  obtain ⟨left, readLeft, read⟩ := read
  split at read
  · next symbol later next =>
    obtain ⟨right, readRight, read⟩ := Option.bind_eq_some_iff.1 read
    obtain ⟨position, rest⟩ := Read.rest_of_next?_eq_some next
    have bound := later.2.2
    split at read
    · cases read
    · cases read
      have clean := Bool.and_eq_true_iff.1 clean
      obtain ⟨l, nodeLeft, coversLeft⟩ := chain_sound readLeft clean.1
      obtain ⟨r, nodeRight, coversRight⟩ := chain_sound readRight clean.2
      rw [rest] at coversLeft
      refine ⟨.related l symbol r, ?_, coversLeft.trans coversRight.cons⟩
      rw [Grammar.Comparison.node, nodeLeft, nodeRight]
      rfl
  · cases read
    obtain ⟨c, node, covers⟩ := chain_sound readLeft clean
    exact ⟨.plain c, node, covers⟩
termination_by 10 * ts.length + 5
decreasing_by all_goals omega

theorem chain_sound {ts : List Token} {r : Read Node ts} (read : chain text stop ts = some r)
    (clean : r.value.isReadable) : ∃ c : Grammar.Chain, c.node = r.value ∧ Covers c.yield ts r.rest := by
  rw [chain, Option.bind_eq_some_iff] at read
  obtain ⟨first, readFirst, read⟩ := read
  obtain ⟨last, readLast, rfl⟩ := Option.map_eq_some_iff.1 read
  have bound := first.length_le
  obtain ⟨inner, l, node, covers⟩ := links_sound readLast clean
  rcases primary_sound readFirst inner with ⟨p, nodeFirst, coversFirst⟩ | ⟨w, it, value, coversFirst, alone⟩
  · refine ⟨.linked p l, ?_, coversFirst.trans covers⟩
    rw [Grammar.Chain.node, nodeFirst, node]
    rfl
  · rw [links] at readLast
    · cases readLast
      exact ⟨.bareIt w it, value.symm, coversFirst⟩
    all_goals
      intros
      exact alone _ _ ‹_›
termination_by 10 * ts.length + 4
decreasing_by all_goals omega

theorem links_sound {n : Node} {ts : List Token} {r : Read Node ts} (read : links text stop n ts = some r)
    (clean : r.value.isReadable) :
    n.isReadable ∧ ∃ l : Grammar.Links, l.node n = r.value ∧ Covers l.yield ts r.rest := by
  rw [links.eq_def] at read
  split at read
  · next w _ _ us =>
    obtain ⟨args, readArgs, read⟩ := Option.bind_eq_some_iff.1 read
    obtain ⟨last, readLast, rfl⟩ := Option.map_eq_some_iff.1 read
    have bound := args.length_le
    obtain ⟨inner, l, node, covers⟩ := links_sound readLast clean
    rw [Node.isReadable, Bool.and_eq_true] at inner
    obtain ⟨a, nodes, coversArgs⟩ := arguments_sound readArgs inner.2
    refine ⟨inner.1, .call w a l, ?_, ?_⟩
    · rw [Grammar.Links.node, nodes, node]
      rfl
    · have inside := coversArgs.trans covers
      rw [List.append_assoc] at inside
      exact inside.cons.cons.cons
  · next w _ us _ =>
    obtain ⟨last, readLast, rfl⟩ := Option.map_eq_some_iff.1 read
    obtain ⟨inner, l, node, covers⟩ := links_sound readLast clean
    rw [Node.isReadable_extended] at inner
    exact ⟨inner, .part w l, node, covers.cons.cons⟩
  · cases read
  · cases read
    exact ⟨clean, .done, rfl, .rfl⟩
termination_by 10 * ts.length + 3
decreasing_by all_goals (subst_vars; simp only [List.length_cons]; omega)

theorem arguments_sound {ts : List Token} {r : Read (List Node) ts} (read : arguments text stop ts = some r)
    (clean : Node.areReadable r.value) :
    ∃ a : Grammar.Arguments, a.nodes = r.value ∧ Covers (a.yield ++ [.closing]) ts r.rest := by
  rw [arguments.eq_def] at read
  split at read
  · cases read
    exact ⟨.empty, rfl, Covers.rfl.cons⟩
  · obtain ⟨value, position, rest⟩ := Read.rest_of_closed?_eq_some read
    rw [value] at clean ⊢
    obtain ⟨l, nodes, covers⟩ := items_sound clean
    rw [rest] at covers
    exact ⟨.items l, nodes, covers.trans Covers.rfl.cons⟩
termination_by 10 * ts.length + 11
decreasing_by omega

theorem items_sound {ts : List Token} (clean : Node.areReadable (argumentList text stop ts).value) :
    ∃ l : Grammar.Items, l.nodes = (argumentList text stop ts).value ∧
      Covers l.yield ts (argumentList text stop ts).rest := by
  rcases argumentList_cases ts with ⟨position, us, next, value, rest, bound⟩ | ⟨value, rest⟩
  · rw [value, Node.areReadable, Node.isReadable_disjunction, Bool.and_eq_true] at clean
    obtain ⟨d, nodes, covers⟩ := disjuncts_sound clean.1
    obtain ⟨l, others, behind⟩ := items_sound clean.2
    rw [next] at covers
    rw [value, rest]
    refine ⟨.more d l, ?_, covers.trans behind.cons⟩
    rw [Grammar.Items.nodes, nodes, others]
  · rw [value, Node.areReadable, Node.isReadable_disjunction, Bool.and_eq_true] at clean
    obtain ⟨d, nodes, covers⟩ := disjuncts_sound clean.1
    rw [value, rest]
    refine ⟨.one d, ?_, covers⟩
    rw [Grammar.Items.nodes, nodes]
termination_by 10 * ts.length + 10
decreasing_by all_goals omega

/-- Only the bare word `it` is read as no primary of the grammar, and then no member follows. -/
theorem primary_sound {ts : List Token} {r : Read Node ts} (read : primary text stop ts = some r)
    (clean : r.value.isReadable) :
    (∃ p : Grammar.Primary, p.node = r.value ∧ Covers p.yield ts r.rest) ∨
      ∃ w, isIt w = true ∧ r.value = .name w [] ∧ Covers [.word w] ts r.rest ∧
        ∀ position us, r.rest ≠ ⟨.dot, position⟩ :: us := by
  rw [primary.eq_def] at read
  split at read
  · next s _ us =>
    cases read
    exact .inl ⟨.string s, rfl, Covers.rfl.cons⟩
  · next v _ us =>
    cases read
    exact .inl ⟨.number v, rfl, Covers.rfl.cons⟩
  · next us =>
    obtain ⟨closed, close, rfl⟩ := Option.map_eq_some_iff.1 read
    obtain ⟨value, position, rest⟩ := Read.rest_of_closed?_eq_some close
    have value : closed.value = .disjunction (disjuncts text stop us).value := value
    have rest : (disjuncts text stop us).rest = _ := rest
    have clean : closed.value.isReadable = true := clean
    rw [value, Node.isReadable_disjunction] at clean
    obtain ⟨d, nodes, covers⟩ := disjuncts_sound clean
    rw [rest] at covers
    refine .inl ⟨.group d, ?_, (covers.trans Covers.rfl.cons).cons⟩
    rw [Grammar.Primary.node, nodes, ← value]
    rfl
  · next w position us =>
    split at read
    · next v reads =>
      cases read
      exact .inl ⟨.constant w v reads, rfl, Covers.rfl.cons⟩
    · next free =>
      obtain ⟨last, readLast, rfl⟩ := Option.map_eq_some_iff.1 read
      exact named_sound free readLast clean
  · cases read
termination_by 10 * ts.length + 2
decreasing_by all_goals (subst_vars; simp only [List.length_cons]; omega)

theorem named_sound {w : String} {position : Nat} {ts : List Token} {r : Read Node ts}
    (free : constant? w = none) (read : named text stop w ts = some r) (clean : r.value.isReadable) :
    (∃ p : Grammar.Primary, p.node = r.value ∧ Covers p.yield (⟨.word w, position⟩ :: ts) r.rest) ∨
      ∃ v, isIt v = true ∧ r.value = .name v [] ∧ Covers [.word v] (⟨.word w, position⟩ :: ts) r.rest ∧
        ∀ position us, r.rest ≠ ⟨.dot, position⟩ :: us := by
  rw [named.eq_def] at read
  split at read
  · next us =>
    obtain ⟨args, readArgs, rfl⟩ := Option.map_eq_some_iff.1 read
    obtain ⟨a, nodes, covers⟩ := arguments_sound readArgs clean
    refine .inl ⟨.call w free a, ?_, covers.cons.cons⟩
    rw [Grammar.Primary.node, nodes]
    rfl
  · next us =>
    split at read
    · next it =>
      obtain ⟨last, readLast, rfl⟩ := Option.map_eq_some_iff.1 read
      rw [plainWord.eq_def] at readLast
      split at readLast
      · next part _ _ =>
        cases readLast
        exact .inl ⟨.ofIt w part it, rfl, Covers.rfl.cons.cons.cons⟩
      · cases readLast
    · next other =>
      cases read
      exact .inl ⟨.name w free (by simpa using other), rfl, Covers.rfl.cons⟩
  · next _ noDot =>
    cases read
    cases it : isIt w with
    | true => exact .inr ⟨w, it, rfl, Covers.rfl.cons, noDot⟩
    | false => exact .inl ⟨.name w free it, rfl, Covers.rfl.cons⟩
termination_by 10 * ts.length + 3
decreasing_by all_goals (subst_vars; simp only [List.length_cons]; omega)

end

end

end TabularAudit.Expr
