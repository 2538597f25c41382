import TabularAudit.Proofs.Expr.Parentheses

/-!
Comparisons of whole texts. Two texts, each of them one side of a comparison, are compared as they stand when the sign
of a relation is put between them.
-/

namespace TabularAudit.Expr

section
variable {symbol : String} {sign : Bool} {cs tail : List Char} {ls : List Lexeme}

theorem tokensFrom_relation (known : symbol ∈ relationSymbols) (start : Nat) (sign : Bool) (cs : List Char) :
    tokensFrom start sign 0 (symbol.toList ++ ' ' :: cs) =
      (tokensFrom (start + symbol.toList.length + 1) true 0 cs).map (⟨.relation symbol, start⟩ :: ·) := by
  have whole : ∀ c more, symbol.toList = c :: more → Text.isBlank c = false →
      lexemeAt sign c (more ++ ' ' :: cs) = .ok (.relation symbol, more.length + 1) →
      tokensFrom start sign 0 (symbol.toList ++ ' ' :: cs) =
        (tokensFrom (start + symbol.toList.length + 1) true 0 cs).map (⟨.relation symbol, start⟩ :: ·) := by
    intro c more spelled ink read
    rw [spelled, List.cons_append, tokensFrom_cons ink read, Nat.add_sub_cancel, tokensFrom_skip, List.drop_left,
      tokensFrom_blank (by decide), Nat.add_right_comm start 1]
    rfl
  simp only [relationSymbols, List.mem_cons, List.not_mem_nil, or_false] at known
  rcases known with rfl | rfl | rfl | rfl | rfl | rfl | rfl | rfl <;> exact whole _ _ rfl (by decide) rfl

theorem lexemes_relation (known : symbol ∈ relationSymbols) (closed : unquoted? (.outside false) cs ≠ none) :
    lexemes sign (cs ++ ' ' :: (symbol.toList ++ ' ' :: tail)) =
      (lexemes sign cs).bind fun ls => (lexemes true tail).map fun ms => ls ++ .relation symbol :: ms := by
  have free : BeginsWithout (fun c => isLink c || isTwin c) (' ' :: (symbol.toList ++ ' ' :: tail)) :=
    (beginsWithout_cons _ _ _).2 (by decide)
  have behind : ∀ start sign, tokensFrom start sign 0 (' ' :: (symbol.toList ++ ' ' :: tail)) =
      (tokensFrom (start + 1 + symbol.toList.length + 1) true 0 tail).map (⟨.relation symbol, start + 1⟩ :: ·) := by
    intro start sign
    rw [tokensFrom_blank (by decide), tokensFrom_relation known]
  rw [lexemes_append free (fun start sign => (behind start sign).trans (behind start true).symm) closed,
    lexemes_eq 0 true (' ' :: _), behind, lexemes_eq (0 + 1 + symbol.toList.length + 1) true tail]
  cases lexemes sign cs with
  | error fault => rfl
  | ok ls => cases tokensFrom (0 + 1 + symbol.toList.length + 1) true 0 tail <;> rfl

theorem not_stray_of_clears {depth : Nat} {ts : List Token} {t : Token}
    (clear : Clears Lexeme.isStray depth (ts ++ [t])) : t.lexeme.isStray = false := by
  induction ts generalizing depth with
  | nil =>
      obtain ⟨goes, level⟩ := clear
      cases kind : t.lexeme with
      | stray source =>
          rw [kind] at goes level
          exact absurd ⟨level, rfl⟩ goes
      | _ => rfl
  | cons head ts ih => exact ih clear.2

/-- The quotes of a text are closed if no lexeme of depth zero is stray: the tail behind an open quote would be the last
one. -/
theorem closed_of_clears (read : lexemes true cs = .ok ls) (clear : Clears Lexeme.isStray 0 (placed ls)) :
    unquoted? (.outside false) cs ≠ none := by
  rw [closed_iff read]
  intro l member
  by_contra opens
  rw [Bool.not_eq_false] at opens
  rw [lexemes_eq 0] at read
  cases found : tokensFrom 0 true 0 cs with
  | error fault =>
      rw [found] at read
      cases read
  | ok ts =>
      rw [found] at read
      cases read
      obtain ⟨ps, rfl, layout⟩ := layout_of_tokensFrom found
      obtain ⟨t, here, rfl⟩ := List.mem_map.1 member
      obtain ⟨p, within, rfl⟩ := List.mem_map.1 here
      obtain ⟨kind, last⟩ := layout.tail (List.nil_append cs).symm rfl p within opens
      obtain ⟨front, split⟩ := List.getLast?_eq_some_iff.1 last
      rw [split, placed, List.map_append, List.map_append] at clear
      have plain := not_stray_of_clears clear
      rw [kind] at plain
      cases plain

end

/-- What a text says on one side of a comparison, but for the texts of operands that cannot be read. -/
structure IsSide (s : String) (ls : List Lexeme) (n : Node) : Prop where
  read : lexemes true s.toList = .ok ls
  tree : ∃ r, chain [] 0 (placed ls) = some r ∧ r.rest = [] ∧ n.withTexts (fun _ => "") = r.value.withTexts fun _ => ""

section
variable {a b symbol : String} {n m : Node} {la lb : List Lexeme}

theorem parse_of_side? (side : side? a = some n) : parse a = .ok n := by
  rw [side?] at side
  rw [parse]
  cases tokens : tokenize (normalize a) with
  | error fault =>
      rw [tokens] at side
      cases side
  | ok ts =>
      rw [tokens] at side
      simp only at side
      split at side
      · next k suffix linked =>
        cases side
        exact (parseTokens_of_comparison _ (comparison_of_chain _ linked rfl) rfl).2
      · cases side

theorem side?_of_parse (parsed : parse a = .ok n) (side : (side? a).isSome = true) : side? a = some n := by
  obtain ⟨k, found⟩ := Option.isSome_iff_exists.1 side
  cases parsed.symm.trans (parse_of_side? found)
  exact found

theorem exists_isSide (side : side? a = some n) : ∃ ls, IsSide a ls n := by
  rw [side?] at side
  rcases tokenize_normalize a with ⟨_, fault, -, tokens⟩ | ⟨ls, ts, read, tokens, like⟩
  · rw [tokens] at side
    cases side
  · rw [tokens] at side
    have alike : Option.Rel (Alike AreLike (Node.withTexts fun _ => "")) (chain [] 0 (placed ls))
        (chain (normalize a).toList (normalize a).length ts) := chain_alike parallel_areLike like.symm
    simp only at side
    split at side
    · next k suffix found =>
      cases side
      rw [found] at alike
      obtain ⟨r, other, same⟩ := exists_of_rel_some alike
      exact ⟨ls, read, r, other, List.forall₂_nil_right_iff.1 same.rest, same.value.symm⟩
    · cases side

theorem IsSide.clear (side : IsSide a la n) : Clears Lexeme.endsComparison 0 (placed la) := by
  obtain ⟨r, read, rest, -⟩ := side.tree
  obtain ⟨p, same, clear⟩ := chain_consumes read
  rw [same, rest, List.append_nil]
  exact clear

theorem IsSide.closed (side : IsSide a la n) : unquoted? (.outside false) a.toList ≠ none :=
  closed_of_clears side.read (side.clear.mono endsComparison_of_isStray)

theorem comparison_of_sides (left : IsSide a la n) (right : IsSide b lb m) (symbol : String) :
    ∃ r, comparison [] 0 (placed (la ++ .relation symbol :: lb)) = some r ∧ r.rest = [] ∧
      (Node.comparison symbol n m).withTexts (fun _ => "") = r.value.withTexts fun _ => "" := by
  obtain ⟨first, readFirst, restFirst, sameFirst⟩ := left.tree
  have split : placed (la ++ .relation symbol :: lb) = placed la ++ ⟨.relation symbol, 0⟩ :: placed lb := by
    simp [placed]
  -- The sign of the relation ends the left side just as the end of its own text does.
  have agrees : Option.Rel _ (chain [] 0 (placed (la ++ .relation symbol :: lb))) (chain [] 0 (placed la)) :=
    chain_agrees split (left.clear.mono endsComparison_of_endsOperand) rfl
  rw [readFirst] at agrees
  obtain ⟨long, found, agree⟩ := exists_of_rel_some agrees
  have rest := agree.rest
  rw [restFirst, List.nil_append] at rest
  obtain ⟨later, next, same⟩ := Read.next?_of_rest_cons rest
  obtain ⟨second, readSecond, restSecond, sameSecond⟩ : ∃ r, chain [] 0 later.1 = some r ∧ r.rest = [] ∧
      m.withTexts (fun _ => "") = r.value.withTexts fun _ => "" := by
    rw [same]
    exact right.tree
  rw [comparison, found, Option.bind_some, next]
  simp only [readSecond, Option.bind_some, restSecond]
  refine ⟨_, rfl, restSecond, ?_⟩
  simp only [Read.map, Read.within, Node.withTexts, agree.value, sameFirst, sameSecond]

theorem lexemes_of_sides (left : IsSide a la n) (right : IsSide b lb m) (known : symbol ∈ relationSymbols) :
    lexemes true (a ++ " " ++ symbol ++ " " ++ b).toList = .ok (la ++ .relation symbol :: lb) := by
  have text : (a ++ " " ++ symbol ++ " " ++ b).toList = a.toList ++ ' ' :: (symbol.toList ++ ' ' :: b.toList) := by simp
  rw [text, lexemes_relation known left.closed, left.read, right.read]
  rfl

theorem result_comparison (left : side? a = some n) (right : side? b = some m) (known : symbol ∈ relationSymbols)
    (obj : Option ModelObject) (env : Env) :
    (judge (.text (a ++ " " ++ symbol ++ " " ++ b)) obj env).result =
      settled (truth (.comparison symbol n m) env obj).result := by
  obtain ⟨la, left⟩ := exists_isSide left
  obtain ⟨lb, right⟩ := exists_isSide right
  obtain ⟨r, read, rest, same⟩ := comparison_of_sides left right symbol
  obtain ⟨-, parsed⟩ := parseTokens_of_comparison [] read rest
  rw [judge_eq_of_lexemes (lexemes_of_sides left right known) (AreLike.refl _) parsed, settled_of_withTexts same]

theorem result_not_comparison (left : side? a = some n) (right : side? b = some m) (known : symbol ∈ relationSymbols)
    (obj : Option ModelObject) (env : Env) :
    (judge (.text ("not (" ++ (a ++ " " ++ symbol ++ " " ++ b) ++ ")")) obj env).result =
      settled (truth (.not (.comparison symbol n m)) env obj).result := by
  obtain ⟨la, left⟩ := exists_isSide left
  obtain ⟨lb, right⟩ := exists_isSide right
  obtain ⟨r, read, rest, same⟩ := comparison_of_sides left right symbol
  obtain ⟨clear, parsed⟩ := parseTokens_of_comparison [] read rest
  have lexed := lexemes_of_sides left right known
  have closed := closed_of_clears lexed (clear.mono endsComparison_of_isStray)
  have alike : (Node.not (.comparison symbol n m)).withTexts (fun _ => "") =
      (Node.not r.value).withTexts fun _ => "" := congrArg Node.not same
  rw [result_not lexed closed (clear.mono endsComparison_of_endsArgument) parsed, settled_of_withTexts alike]

end

end TabularAudit.Expr
