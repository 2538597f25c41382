import Mathlib.Data.List.Forall2
import TabularAudit.Proofs.Expr.Texts
import TabularAudit.Proofs.Expr.Truth
import TabularAudit.Proofs.Lexing.Depth
import TabularAudit.Proofs.Lexing.Embedding
import TabularAudit.Proofs.Lexing.Fault
import TabularAudit.Proofs.Parsing.Recovery

/-!
An operand that cannot be read is false, and changes nothing about the rest of an expression.
-/

namespace TabularAudit.Expr

def AreLike (ts us : List Token) : Prop := List.Forall₂ (fun t u => t.lexeme.Like u.lexeme) ts us

section
variable {text text' : List Char} {stop stop' : Nat} {ts us : List Token} {ls : List Lexeme} {n : Node}

theorem parallel_areLike : Parallel text stop text' stop' (fun _ => "") AreLike where
  ends like := by
    cases like <;> simp
  step like := by
    cases like with
    | cons first others => exact ⟨first, others⟩
  texts _ _ _ _ := rfl

theorem AreLike.refl (ts : List Token) : AreLike ts ts := List.forall₂_same.2 fun t _ => .same t.lexeme

theorem AreLike.symm (like : AreLike ts us) : AreLike us ts := like.flip.imp fun _ _ => Lexeme.Like.symm

theorem AreLike.trans {vs : List Token} (first : AreLike ts us) (second : AreLike us vs) : AreLike ts vs := by
  induction first generalizing vs with
  | nil => exact second
  | cons head tail ih =>
      cases second with
      | cons head' tail' => exact .cons (head.trans head') (ih tail')

theorem balance_eq (like : AreLike ts us) : balance ts = balance us := by
  induction like with
  | nil => rfl
  | @cons t u ts us first others ih =>
      obtain ⟨l, p⟩ := t
      obtain ⟨l', q⟩ := u
      change l.Like l' at first
      cases first with
      | same => cases l <;> simp [balance, ih]
      | conjunction s s' => exact ih
      | disjunction s s' => exact ih
      | negation s s' => exact ih
      | stray s s' => exact ih

theorem like_spelledOut (l : Lexeme) : l.Like l.spelledOut := by
  cases l <;> first | exact .same _ | exact .conjunction _ _ | exact .disjunction _ _

theorem like_trimmed (l : Lexeme) : l.Like l.trimmed := by
  cases l <;> first | exact .same _ | exact .stray _ _

/-- Tokens with these lexemes; where they stand plays no part in what they say. -/
def placed (ls : List Lexeme) : List Token := ls.map fun l => ⟨l, 0⟩

theorem areLike_of_map (same : ts.map Token.lexeme = (ls.map Lexeme.spelledOut).map Lexeme.trimmed) :
    AreLike ts (placed ls) := by
  have pairs : List.Forall₂ Eq (ts.map Token.lexeme) ((ls.map Lexeme.spelledOut).map Lexeme.trimmed) := by
    rw [same]
    exact List.forall₂_refl _
  rw [AreLike, placed, List.forall₂_map_right_iff]
  simp only [List.map_map, List.forall₂_map_left_iff, List.forall₂_map_right_iff] at pairs
  refine pairs.imp fun t l equal => ?_
  have equal : t.lexeme = l.spelledOut.trimmed := equal
  rw [equal]
  exact ((like_spelledOut l).trans (like_trimmed _)).symm

theorem tokenize_normalize (s : String) :
    (∃ fault fault', lexemes true s.toList = .error fault ∧ tokenize (normalize s) = .error fault') ∨
      ∃ ls ts, lexemes true s.toList = .ok ls ∧ tokenize (normalize s) = .ok ts ∧ AreLike ts (placed ls) := by
  have normal := lexemes_normalizeChars true s.toList
  rw [lexemes_eq 0] at normal
  rw [tokenize, normalize, String.toList_ofList]
  cases found : tokensFrom 0 true 0 (normalizeChars s.toList) with
  | error fault =>
      rw [found] at normal
      cases read : lexemes true s.toList with
      | error fault' => exact .inl ⟨_, _, rfl, rfl⟩
      | ok ls => rw [read] at normal; cases normal
  | ok ts =>
      rw [found] at normal
      cases read : lexemes true s.toList with
      | error fault' => rw [read] at normal; cases normal
      | ok ls =>
          rw [read] at normal
          exact .inr ⟨ls, ts, rfl, rfl, areLike_of_map (Except.ok.inj normal)⟩

end

section
variable (node : Node) (text : String) (o : ModelObject) (env : Env)

def settled : Except Fault Bool → Bool
  | .ok b => b
  | .error _ => false

theorem result_ofTraced (x : Traced Bool) : (Outcome.ofTraced x).result = settled x.result := by
  rw [Outcome.ofTraced]
  cases x.result <;> rfl

theorem judge_of_parse {s : String} (parsed : parse s = .ok node) (obj : Option ModelObject) :
    (judge (.text s) obj env).result = settled (truth node env obj).result := by
  rw [judge, parsed, ← result_ofTraced]

theorem settled_truth {x : Except Fault Bool} (value : (eval node env (some o)).result = x.map Value.bool) :
    settled (truth node env (some o)).result = settled x := by
  rw [truth]
  generalize eval node env (some o) = y at value ⊢
  obtain ⟨result, log⟩ := y
  change result = _ at value
  subst value
  cases x with
  | ok b => rfl
  | error fault => cases fault <;> rfl

theorem settled_map (x : Traced Bool) :
    (x >>= fun b => (pure (Value.bool b) : Traced Value)).result = x.result.map Value.bool := by
  rw [Traced.result_bind]
  cases x.result <;> rfl

theorem verdict_unreadable : (verdict (some o) (eval (.unreadable text) env (some o))).result = .ok false := by
  rw [eval]
  rfl

theorem anyHolds_unreadable : (anyHolds [.unreadable text] env (some o)).result = .ok false := by
  rw [anyHolds, Traced.result_bind, verdict_unreadable, anyHolds]
  rfl

theorem allHold_unreadable : (allHold [.unreadable text] env (some o)).result = .ok false := by
  rw [allHold, Traced.result_bind, verdict_unreadable]
  rfl

theorem settled_any : settled (truth (.any [node, .unreadable text]) env (some o)).result =
    settled (truth node env (some o)).result := by
  have value : (eval (.any [node, .unreadable text]) env (some o)).result =
      (anyHolds [node, .unreadable text] env (some o)).result.map Value.bool := by
    rw [eval, settled_map]
  rw [settled_truth _ _ _ value, anyHolds, Traced.result_bind, ← truth]
  cases (truth node env (some o)).result with
  | error fault => rfl
  | ok b =>
      cases b with
      | true => rfl
      | false => exact congrArg settled (anyHolds_unreadable text o env)

theorem settled_all : settled (truth (.all [node, .unreadable text]) env (some o)).result = false := by
  have value : (eval (.all [node, .unreadable text]) env (some o)).result =
      (allHold [node, .unreadable text] env (some o)).result.map Value.bool := by
    rw [eval, settled_map]
  rw [settled_truth _ _ _ value, allHold, Traced.result_bind, ← truth]
  cases (truth node env (some o)).result with
  | error fault => rfl
  | ok b =>
      cases b with
      | true => exact congrArg settled (allHold_unreadable text o env)
      | false => rfl

theorem settled_not : settled (truth (.not (.unreadable text)) env (some o)).result = true := by
  rw [truth_not, truth, verdict_unreadable]
  rfl

theorem settled_unreadable : settled (truth (.unreadable text) env (some o)).result = false := by
  rw [truth, verdict_unreadable]
  rfl

end

section
variable {text : List Char} {stop : Nat} {us : List Token} {ls : List Lexeme} {n : Node}

theorem settled_of_withTexts {m : Node} {f : String → String} (same : n.withTexts f = m.withTexts f) (env : Env)
    (obj : Option ModelObject) : settled (truth n env obj).result = settled (truth m env obj).result := by
  rw [← result_ofTraced, ← result_ofTraced]
  exact result_ofTraced_truth _ same env obj

/-- An expression says what the syntax tree of any tokens with its lexemes says. -/
theorem judge_eq_of_lexemes {s : String} (read : lexemes true s.toList = .ok ls) (like : AreLike us (placed ls))
    (parsed : parseTokens text stop us = .ok n) (obj : Option ModelObject) (env : Env) :
    (judge (.text s) obj env).result = settled (truth n env obj).result := by
  rcases tokenize_normalize s with ⟨fault, _, failed, -⟩ | ⟨ls', ts, found, tokens, like'⟩
  · rw [read] at failed
    cases failed
  · cases read.symm.trans found
    have related : AreLike us ts := like.trans like'.symm
    obtain ⟨m, parsed', same⟩ := parseTokens_alike parallel_areLike related parsed
    have parse : parse s = .ok m := by
      rw [Expr.parse, tokens]
      exact parsed'
    rw [judge_of_parse m env parse, settled_of_withTexts same]

theorem judge_of_fault {s : String} {fault : Fault} (read : lexemes true s.toList = .error fault)
    (obj : Option ModelObject) (env : Env) : (judge (.text s) obj env).result = false := by
  rcases tokenize_normalize s with ⟨_, fault', -, tokens⟩ | ⟨ls, ts, found, -⟩
  · have parse : parse s = .error fault' := by
      rw [Expr.parse, tokens]
      rfl
    rw [judge, parse]
    cases fault' <;> rfl
  · rw [read] at found
    cases found

end

section
variable {a j : String} {top : List Char} {node : Node} {la lj : List Lexeme} {ta : List Token}

theorem closed_of_surface? {s : String} (surface : surface? s = some top) :
    unquoted? (.outside false) s.toList ≠ none ∧
      ∀ {ls ts}, lexemes true s.toList = .ok ls → ts.map Token.lexeme = ls → Shows 0 top ts := by
  obtain ⟨text, outside, level⟩ := Option.bind_eq_some_iff.1 surface
  exact ⟨by simp [outside], fun read same => isShown true s.toList read outside level same⟩

theorem map_placed (ls : List Lexeme) : (placed ls).map Token.lexeme = ls := by
  rw [placed, List.map_map]
  exact List.map_id ls

theorem fills_of_parse (parsed : parse a = .ok node) (surface : surface? a = some top) :
    ∃ la ta, lexemes true a.toList = .ok la ∧ tokenize (normalize a) = .ok ta ∧ AreLike ta (placed la) ∧
      Clears Lexeme.endsArgument 0 ta ∧
      node = Node.disjunction (disjuncts (normalize a).toList (normalize a).length ta).value := by
  rw [parse] at parsed
  rcases tokenize_normalize a with ⟨_, fault, -, tokens⟩ | ⟨la, ta, read, tokens, like⟩
  · rw [tokens] at parsed
    cases parsed
  · rw [tokens] at parsed
    obtain ⟨passed, same⟩ := of_parseTokens (normalize a).toList parsed
    have balanced := ((closed_of_surface? surface).2 read (map_placed la)).balanced
    rw [← balance_eq like] at balanced
    exact ⟨la, ta, read, tokens, like, clears_of_balance rfl passed balanced, same⟩

theorem areUnreadable_of_surface? (read : lexemes true j.toList = .ok lj) (surface : surface? j = some top)
    (unbroken : IsUnbroken top) (begins : beginsNegated j = false) (foreign : ∃ c ∈ top, isForeign c = true) :
    AreUnreadable (placed lj) := by
  have shows := (closed_of_surface? surface).2 read (map_placed lj)
  refine ⟨shows.unbroken unbroken, shows.foreign foreign, ?_⟩
  intro t head
  cases lj with
  | nil => cases head
  | cons l ls =>
      cases head
      exact not_isNegation_of_begins begins read

theorem areLike_group (like : AreLike ta (placed la)) (start stop : Nat) (l : Lexeme) :
    AreLike (group start stop ta ++ ⟨l, stop⟩ :: placed lj) (placed (.opening :: (la ++ .closing :: l :: lj))) := by
  rw [group, placed, placed, List.map_cons, List.map_append, List.cons_append, List.append_assoc]
  exact .cons (.same _) (List.rel_append like (.cons (.same _) (.cons (.same _) (AreLike.refl _))))

theorem lexemes_or_text (closed : unquoted? (.outside false) a.toList ≠ none) :
    lexemes true ("(" ++ a ++ ") or " ++ j).toList =
      (lexemes true a.toList).bind fun la => (lexemes true j.toList).map fun lj =>
        .opening :: (la ++ .closing :: .disjunction "or" :: lj) := by
  have whole : ("(" ++ a ++ ") or " ++ j).toList = '(' :: (a.toList ++ ')' :: ' ' :: 'o' :: 'r' :: ' ' :: j.toList) := by
    simp
  rw [whole, lexemes_group closed, lexemes_blank (by decide), lexemes_or_word]
  cases lexemes true j.toList <;> rfl

theorem lexemes_and_text (closed : unquoted? (.outside false) a.toList ≠ none) :
    lexemes true ("(" ++ a ++ ") and " ++ j).toList =
      (lexemes true a.toList).bind fun la => (lexemes true j.toList).map fun lj =>
        .opening :: (la ++ .closing :: .conjunction "and" :: lj) := by
  have whole : ("(" ++ a ++ ") and " ++ j).toList =
      '(' :: (a.toList ++ ')' :: ' ' :: 'a' :: 'n' :: 'd' :: ' ' :: j.toList) := by
    simp
  rw [whole, lexemes_group closed, lexemes_blank (by decide), lexemes_and_word]
  cases lexemes true j.toList <;> rfl

theorem lexemes_not_text (closed : unquoted? (.outside false) j.toList ≠ none) :
    lexemes true ("not (" ++ j ++ ")").toList =
      (lexemes true j.toList).map fun lj => .negation "not" :: .opening :: (lj ++ [.closing]) := by
  have whole : ("not (" ++ j ++ ")").toList = 'n' :: 'o' :: 't' :: ' ' :: '(' :: (j.toList ++ [')']) := by
    simp
  rw [whole, lexemes_not_word, lexemes_group closed, lexemes]
  cases lexemes true j.toList <;> rfl

theorem result_not (read : lexemes true j.toList = .ok lj) (closed : unquoted? (.outside false) j.toList ≠ none)
    (clear : Clears Lexeme.endsArgument 0 (placed lj)) (parsed : parseTokens [] 0 (placed lj) = .ok node)
    (obj : Option ModelObject) (env : Env) :
    (judge (.text ("not (" ++ j ++ ")")) obj env).result = settled (truth (.not node) env obj).result := by
  have whole := lexemes_not_text closed
  rw [read] at whole
  have same : placed (.negation "not" :: .opening :: (lj ++ [.closing])) =
      ⟨.negation "not", 0⟩ :: group 0 0 (placed lj) := by
    simp [placed, group]
  have tree : parseTokens [] 0 (⟨.negation "not", 0⟩ :: group 0 0 (placed lj)) = .ok (.not node) := by
    rw [parse_not_group [] clear, ← (of_parseTokens [] parsed).2]
  rw [judge_eq_of_lexemes whole (same ▸ AreLike.refl _) tree]

section
variable (read : lexemes true j.toList = .ok lj) (junk : AreUnreadable (placed lj)) (o : ModelObject) (env : Env)
include read junk

theorem result_of_unreadable : (judge (.text j) (some o) env).result = false := by
  have tree := parse_unreadable [] 0 junk
  rw [judge_eq_of_lexemes read (AreLike.refl _) tree, Expr.unreadable, settled_unreadable]

theorem result_not_unreadable (surface : surface? j = some top) :
    (judge (.text ("not (" ++ j ++ ")")) (some o) env).result = true := by
  rw [result_not read (closed_of_surface? surface).1 junk.fills (parse_unreadable [] 0 junk), Expr.unreadable,
    settled_not]

variable (surface : surface? a = some top) (parsed : parse a = .ok node)
include surface parsed

theorem result_or_unreadable : (judge (.text ("(" ++ a ++ ") or " ++ j)) (some o) env).result =
    (judge (.text a) (some o) env).result := by
  obtain ⟨la, ta, readA, -, like, clear, same⟩ := fills_of_parse parsed surface
  have whole := lexemes_or_text (j := j) (closed_of_surface? surface).1
  rw [readA, read] at whole
  have tree := parse_or_unreadable (normalize a).toList 0 (normalize a).length clear junk 0 "or"
  rw [judge_eq_of_lexemes whole (areLike_group like _ _ _) tree, ← same, Expr.unreadable, settled_any,
    judge_of_parse node env parsed]

theorem result_and_unreadable : (judge (.text ("(" ++ a ++ ") and " ++ j)) (some o) env).result = false := by
  obtain ⟨la, ta, readA, -, like, clear, -⟩ := fills_of_parse parsed surface
  have whole := lexemes_and_text (j := j) (closed_of_surface? surface).1
  rw [readA, read] at whole
  have tree := parse_and_unreadable (normalize a).toList 0 (normalize a).length clear junk 0 "and"
  rw [judge_eq_of_lexemes whole (areLike_group like _ _ _) tree, Expr.unreadable, settled_all]

end

/-- An operand that cannot be read is false, and the rest of the expression keeps its value. Only where the operand is
not made of tokens does nothing of the expression hold. -/
theorem unreadable_operand_is_false (parsed : parse a = .ok node) (closed : (surface? a).isSome = true)
    (surface : surface? j = some top) (unbroken : IsUnbroken top) (begins : beginsNegated j = false)
    (foreign : ∃ c ∈ top, isForeign c = true) (o : ModelObject) (c : Index) :
    holds (.text ("(" ++ a ++ ") or " ++ j)) o c = ((tokenize j).isOk && holds (.text a) o c) ∧
      holds (.text ("(" ++ a ++ ") and " ++ j)) o c = false ∧
      holds (.text ("not (" ++ j ++ ")")) o c = (tokenize j).isOk ∧
      holds (.text j) o c = false := by
  obtain ⟨topA, surfaceA⟩ := Option.isSome_iff_exists.1 closed
  rw [isOk_tokenize]
  cases read : lexemes true j.toList with
  | ok lj =>
      have junk := areUnreadable_of_surface? read surface unbroken begins foreign
      exact ⟨result_or_unreadable read junk o _ surfaceA parsed, result_and_unreadable read junk o _ surfaceA parsed,
        result_not_unreadable read junk o _ surface, result_of_unreadable read junk o _⟩
  | error fault =>
      obtain ⟨la, -, readA, -⟩ := fills_of_parse parsed surfaceA
      have outsideA := (closed_of_surface? surfaceA).1
      have either := lexemes_or_text (j := j) outsideA
      have both := lexemes_and_text (j := j) outsideA
      have negated := lexemes_not_text (closed_of_surface? surface).1
      rw [readA, read] at either both
      rw [read] at negated
      exact ⟨judge_of_fault either _ _, judge_of_fault both _ _, judge_of_fault negated _ _, judge_of_fault read _ _⟩

theorem unreadable_operand_is_false_of_plus :
    let table : ModelObject := ⟨"Sales", .table, {}, none, none⟩
    parse "true" = .ok (.literal (.bool true)) ∧ surface? "+ (1 or 2)" = some ['+', ' ', '('] ∧
      holds (.text "(true) or + (1 or 2)") table {} = true ∧ holds (.text "(true) and + (1 or 2)") table {} = false ∧
      holds (.text "not (+ (1 or 2))") table {} = true := by
  intro table
  have parsed : parse "true" = .ok (.literal (.bool true)) := by with_unfolding_all rfl
  have surface : surface? "+ (1 or 2)" = some ['+', ' ', '('] := by decide
  have unbroken : IsUnbroken ['+', ' ', '('] := ⟨by decide, by decide, by decide⟩
  have value : holds (.text "true") table {} = true := by
    rw [holds, judge, parsed]
    rfl
  have tokens : (tokenize "+ (1 or 2)").isOk = true := by decide
  have foreign : ∃ c ∈ ['+', ' ', '('], isForeign c = true := ⟨'+', by decide, by decide⟩
  have results := unreadable_operand_is_false parsed (by decide) surface unbroken (by decide) foreign table {}
  rw [value, tokens] at results
  exact ⟨parsed, surface, results.1, results.2.1, results.2.2.1⟩

/-- An accented letter sinks the expression around it. -/
theorem expression_lost_of_accented_letter :
    let table : ModelObject := ⟨"Sales", .table, {}, none, none⟩
    parse "true" = .ok (.literal (.bool true)) ∧ (surface? "true").isSome = true ∧
      surface? "é" = some ['é'] ∧ IsUnbroken ['é'] ∧ beginsNegated "é" = false ∧ isForeign 'é' = true ∧
      holds (.text "true") table {} = true ∧ holds (.text "(true) or é") table {} = false ∧
      holds (.text "not (é)") table {} = false := by
  intro table
  have parsed : parse "true" = .ok (.literal (.bool true)) := by with_unfolding_all rfl
  have value : holds (.text "true") table {} = true := by
    rw [holds, judge, parsed]
    rfl
  have refused : ∀ s, parse s = .error .foreignCharacter → holds (.text s) table {} = false := by
    intro s fault
    rw [holds, judge, fault]
  have unbroken : IsUnbroken ['é'] := ⟨by decide, by decide, by decide⟩
  exact ⟨parsed, by decide, by decide, unbroken, by decide, by decide, value, refused _ rfl, refused _ rfl⟩

end

end TabularAudit.Expr
