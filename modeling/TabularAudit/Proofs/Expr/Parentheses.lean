import TabularAudit.Proofs.Expr.Recovery

/-!
Parentheses around whole texts. A text whose parentheses and quotes are closed has one syntax tree, on its own and
between parentheses in another text: the unreadable operands in it keep their texts, too.
-/

namespace TabularAudit

namespace Expr

section
variable {text blanks : List Char} {p q : Nat}

theorem slice_moved (before : List Char) (high : q ≤ text.length) (after : List Char) :
    slice (before ++ (text ++ after)) (p + before.length) (q + before.length) = slice text p q := by
  have dropped : (before ++ (text ++ after)).drop (p + before.length) = (text ++ after).drop p := by
    rw [Nat.add_comm, List.drop_length_add_append]
  rw [slice, slice, dropped, Nat.add_sub_add_right]
  by_cases low : p ≤ text.length
  · rw [List.drop_append_of_le_length low, List.take_append_of_le_length]
    rw [List.length_drop]
    omega
  · have none : q - p = 0 := by omega
    rw [none, List.take_zero, List.take_zero]

theorem slice_end (before : List Char) (low : p ≤ text.length) (blank : ∀ c ∈ blanks, Text.isBlank c = true)
    (after : List Char) :
    slice (before ++ ((text ++ blanks) ++ after)) (p + before.length) ((text ++ blanks).length + before.length) =
      slice text p text.length := by
  have whole : (text ++ blanks).drop p = text.drop p ++ blanks := List.drop_append_of_le_length low
  rw [slice_moved before (Nat.le_refl _), slice, slice, whole, List.take_of_length_le, List.take_of_length_le,
    Text.strip_append_of_isBlank _ blank]
  · simp
  · rw [List.length_append, List.length_append, List.length_drop]
    omega

def Moves (text before : List Char) (ts us : List Token) : Prop :=
  us = ts.map (Token.moved before.length) ∧ ∀ t ∈ ts, t.position ≤ text.length

theorem parallel_moves (before : List Char) (blank : ∀ c ∈ blanks, Text.isBlank c = true) (after : List Char) :
    Parallel text text.length (before ++ ((text ++ blanks) ++ after)) ((text ++ blanks).length + before.length) id
      (Moves text before) where
  ends := by
    rintro ts us ⟨rfl, -⟩
    exact List.map_eq_nil_iff.symm
  step := by
    rintro t u ts us ⟨same, within⟩
    obtain ⟨rfl, rfl⟩ := List.cons.inj same
    exact ⟨.same _, rfl, (List.forall_mem_cons.1 within).2⟩
  texts := by
    rintro ts us vs ws ⟨rfl, withinTs⟩ ⟨rfl, withinVs⟩ suffix -
    refine congrArg (fun cs => (Node.unreadable (String.ofList cs)).withTexts id) ?_
    cases ts with
    | nil =>
        rw [List.eq_nil_of_suffix_nil suffix]
        simp [slice, position]
    | cons t ts =>
        have low := withinTs t List.mem_cons_self
        cases vs with
        | nil => exact (slice_end before low blank after).symm
        | cons v vs =>
            have high := withinVs v List.mem_cons_self
            rw [List.append_assoc]
            exact (slice_moved before high (blanks ++ after)).symm

theorem disjuncts_moved {ts : List Token} (within : ∀ t ∈ ts, t.position ≤ text.length) (before : List Char)
    (blank : ∀ c ∈ blanks, Text.isBlank c = true) (after : List Char) :
    (disjuncts (before ++ ((text ++ blanks) ++ after)) ((text ++ blanks).length + before.length)
      (ts.map (Token.moved before.length))).value = (disjuncts text text.length ts).value := by
  have moves : Moves text before ts (ts.map (Token.moved before.length)) := ⟨rfl, within⟩
  have alike := disjuncts_alike (parallel_moves before blank after) moves
  have same : Node.withTexts id = id := funext Node.withTexts_id
  have value := alike.value
  rw [same, List.map_id, List.map_id] at value
  exact value.symm

theorem clears_moved {stops : Lexeme → Bool} {depth : Nat} {ts : List Token} (clear : Clears stops depth ts) (k : Nat) :
    Clears stops depth (ts.map (Token.moved k)) := by
  induction ts generalizing depth with
  | nil => exact clear
  | cons t ts ih => exact ⟨clear.1, ih clear.2⟩

end

/-- A text between parentheses, behind `before`, has tokens of its own, and the tree `n`. -/
structure Encloses (before inner after : List Char) (n : Node) (ts : List Token) : Prop where
  clear : Clears Lexeme.endsArgument 0 ts
  tree : Node.disjunction
    (disjuncts (before ++ '(' :: (inner ++ ')' :: after)) (before.length + 1 + inner.length) ts).value = n
  tokens : ∀ sign, tokensFrom before.length sign 0 ('(' :: (inner ++ ')' :: after)) =
    (tokensFrom (before.length + 1 + inner.length + 1) false 0 after).map
      (group before.length (before.length + 1 + inner.length) ts ++ ·)

section
variable {a b : String} {n m : Node}

theorem exists_encloses {inner : List Char} (parsed : parse a = .ok n) (closed : (surface? a).isSome = true)
    (normal : normalizeFrom (.outside false) a.toList = inner) (before after : List Char) :
    ∃ ts, Encloses before inner after n ts := by
  obtain ⟨top, surface⟩ := Option.isSome_iff_exists.1 closed
  obtain ⟨la, ta, read, tokens, -, clear, rfl⟩ := fills_of_parse parsed surface
  obtain ⟨shut, shutInner⟩ := closed_normalize read (closed_of_surface? surface).1
  obtain ⟨left, right, blankLeft, blankRight, split⟩ := exists_normalizeChars a.toList
  rw [normal] at shutInner split
  rw [tokenize, normalize, String.toList_ofList] at tokens
  rw [normalize, String.toList_ofList, String.length_ofList]
  have within : ∀ t ∈ ta, t.position ≤ (normalizeChars a.toList).length := by
    intro t member
    have below := position_lt_of_tokensFrom tokens t member
    omega
  have moved := tokensFrom_between tokens shut blankLeft blankRight (before.length + 1)
  have size : (before ++ '(' :: left).length = before.length + 1 + left.length := by
    rw [List.length_append, List.length_cons]
    omega
  refine ⟨ta.map (Token.moved (before ++ '(' :: left).length), clears_moved clear _, ?_, fun sign => ?_⟩
  · have value := disjuncts_moved within (before ++ '(' :: left) blankRight (')' :: after)
    have text : before ++ '(' :: left ++ (normalizeChars a.toList ++ right ++ ')' :: after) =
        before ++ '(' :: (left ++ (normalizeChars a.toList ++ right) ++ ')' :: after) := by simp
    have stop : (normalizeChars a.toList ++ right).length + (before ++ '(' :: left).length =
        before.length + 1 + (left ++ (normalizeChars a.toList ++ right)).length := by
      simp only [List.length_append, List.length_cons]
      omega
    rw [text, stop] at value
    rw [split, value]
  · rw [tokensFrom_group shutInner, split, moved, size]
    rfl

theorem closed_of_isSome {s : String} (closed : (surface? s).isSome = true) :
    unquoted? (.outside false) s.toList ≠ none := by
  obtain ⟨top, surface⟩ := Option.isSome_iff_exists.1 closed
  exact (closed_of_surface? surface).1

theorem parse_of_normal {s : String} {text : List Char} {ts : List Token}
    (normal : normalizeFrom (.outside true) s.toList = text) (inked : Text.strip text = text)
    (tokens : tokensFrom 0 true 0 text = .ok ts) : parse s = parseTokens text text.length ts := by
  have chars : normalizeChars s.toList = text := by rw [normalizeChars, normal, inked]
  rw [parse, tokenize, normalize, String.toList_ofList, String.length_ofList, chars, tokens]
  rfl

theorem Encloses.tokens_last {before inner : List Char} {ts : List Token} (encloses : Encloses before inner [] n ts)
    (sign : Bool) : tokensFrom before.length sign 0 ('(' :: (inner ++ [')'])) =
      .ok (group before.length (before.length + 1 + inner.length) ts) := by
  have tokens := encloses.tokens sign
  rw [tokensFrom] at tokens
  rw [tokens]
  exact congrArg Except.ok (List.append_nil _)

theorem tokenize_in_parentheses (parsed : parse a = .ok n) (closed : (surface? a).isSome = true) :
    ∃ stop ts, tokenize (normalize ("(" ++ a ++ ")")) = .ok (group 0 stop ts) ∧ Clears Lexeme.endsArgument 0 ts ∧
      Node.disjunction (disjuncts (normalize ("(" ++ a ++ ")")).toList stop ts).value = n := by
  obtain ⟨ts, encloses⟩ := exists_encloses parsed closed rfl [] []
  have text : ("(" ++ a ++ ")").toList = '(' :: (a.toList ++ [')']) := by simp
  have normal : normalizeFrom (.outside true) ("(" ++ a ++ ")").toList =
      '(' :: (normalizeFrom (.outside false) a.toList ++ [')']) := by
    rw [text, normalizeFrom_group (closed_of_isSome closed), normalizeFrom]
  have inked := Text.strip_of_ends (c := '(') (d := ')') (normalizeFrom (.outside false) a.toList)
    (by decide) (by decide)
  have chars : (normalize ("(" ++ a ++ ")")).toList = '(' :: (normalizeFrom (.outside false) a.toList ++ [')']) := by
    rw [normalize, String.toList_ofList, normalizeChars, normal]
    exact inked
  rw [tokenize, chars]
  exact ⟨_, ts, encloses.tokens_last true, encloses.clear, encloses.tree⟩

theorem parse_in_parentheses (parsed : parse a = .ok n) (closed : (surface? a).isSome = true) :
    parse ("(" ++ a ++ ")") = .ok n := by
  obtain ⟨stop, ts, tokens, clear, tree⟩ := tokenize_in_parentheses parsed closed
  rw [parse, tokens]
  exact (parse_group _ clear).trans (congrArg Except.ok tree)

theorem side?_in_parentheses (parsed : parse a = .ok n) (closed : (surface? a).isSome = true) :
    side? ("(" ++ a ++ ")") = some n := by
  obtain ⟨stop, ts, tokens, clear, tree⟩ := tokenize_in_parentheses parsed closed
  obtain ⟨suffix, linked⟩ :=
    chain_group (normalize ("(" ++ a ++ ")")).toList clear 0 (normalize ("(" ++ a ++ ")")).length
  rw [tree] at linked
  simp only [side?, tokens, linked]

theorem parse_not_parentheses (parsed : parse a = .ok n) (closed : (surface? a).isSome = true) :
    parse ("not (" ++ a ++ ")") = .ok (.not n) := by
  obtain ⟨ts, encloses⟩ := exists_encloses parsed closed rfl ['n', 'o', 't', ' '] []
  have text : ("not (" ++ a ++ ")").toList = 'n' :: (['o', 't'] ++ ' ' :: '(' :: (a.toList ++ [')'])) := by simp
  have normal : normalizeFrom (.outside true) ("not (" ++ a ++ ")").toList =
      'n' :: (['o', 't'] ++ ' ' :: '(' :: (normalizeFrom (.outside false) a.toList ++ [')'])) := by
    rw [text, isOperator_not.normalizeFrom, normalizeFrom_group (closed_of_isSome closed), normalizeFrom]
  have inked := Text.strip_of_ends (c := 'n') (d := ')')
    ('o' :: 't' :: ' ' :: '(' :: normalizeFrom (.outside false) a.toList) (by decide) (by decide)
  have tokens := isOperator_not.tokensFrom 0 true ('(' :: (normalizeFrom (.outside false) a.toList ++ [')']))
  have here : 0 + ['o', 't'].length + 2 = ['n', 'o', 't', ' '].length := rfl
  rw [here, encloses.tokens_last] at tokens
  rw [parse_of_normal normal inked tokens]
  refine (parse_not_group _ encloses.clear).trans ?_
  exact congrArg (Except.ok ∘ Node.not) encloses.tree

theorem Encloses.tokens_behind {before inner : List Char} {us : List Token} {start : Nat} {c : Char} {more : List Char}
    {l : Lexeme} (encloses : Encloses before inner [] m us) (operator : IsOperator c more l)
    (here : before.length = start + 1 + more.length + 2) :
    tokensFrom start false 0 (' ' :: c :: (more ++ ' ' :: '(' :: (inner ++ [')']))) =
      .ok (⟨l, start + 1⟩ :: group before.length (before.length + 1 + inner.length) us) := by
  rw [tokensFrom_blank (by decide), operator.tokensFrom, ← here, encloses.tokens_last]
  rfl

theorem exists_groups {c : Char} {more : List Char} {l : Lexeme} (operator : IsOperator c more l)
    (parsedA : parse a = .ok n) (parsedB : parse b = .ok m) (closedA : (surface? a).isSome = true)
    (closedB : (surface? b).isSome = true) :
    ∃ text ts us stop p first last,
      parse ("(" ++ a ++ ") " ++ String.ofList (c :: more) ++ " (" ++ b ++ ")") =
          parseTokens text text.length (group 0 stop ts ++ ⟨l, p⟩ :: group first last us) ∧
        (Clears Lexeme.endsArgument 0 ts ∧ Node.disjunction (disjuncts text stop ts).value = n) ∧
        Clears Lexeme.endsArgument 0 us ∧ Node.disjunction (disjuncts text last us).value = m := by
  obtain ⟨left, normalA⟩ : ∃ left, normalizeFrom (.outside false) a.toList = left := ⟨_, rfl⟩
  obtain ⟨right, normalB⟩ : ∃ right, normalizeFrom (.outside false) b.toList = right := ⟨_, rfl⟩
  obtain ⟨ts, enclosesA⟩ :=
    exists_encloses parsedA closedA normalA [] (' ' :: c :: (more ++ ' ' :: '(' :: (right ++ [')'])))
  obtain ⟨us, enclosesB⟩ :=
    exists_encloses parsedB closedB normalB ('(' :: (left ++ ')' :: ' ' :: c :: (more ++ [' ']))) []
  have text : ("(" ++ a ++ ") " ++ String.ofList (c :: more) ++ " (" ++ b ++ ")").toList =
      '(' :: (a.toList ++ ')' :: ' ' :: c :: (more ++ ' ' :: '(' :: (b.toList ++ [')']))) := by simp
  have normal : normalizeFrom (.outside true)
      ("(" ++ a ++ ") " ++ String.ofList (c :: more) ++ " (" ++ b ++ ")").toList =
      '(' :: (left ++ ')' :: ' ' :: c :: (more ++ ' ' :: '(' :: (right ++ [')']))) := by
    rw [text, normalizeFrom_group (closed_of_isSome closedA), normalizeFrom_space, operator.normalizeFrom,
      normalizeFrom_group (closed_of_isSome closedB), normalA, normalB, normalizeFrom]
  have inked := Text.strip_of_ends (c := '(') (d := ')') (left ++ ')' :: ' ' :: c :: (more ++ ' ' :: '(' :: right))
    (by decide) (by decide)
  have here : ('(' :: (left ++ ')' :: ' ' :: c :: (more ++ [' ']))).length =
      0 + 1 + left.length + 1 + 1 + more.length + 2 := by
    simp only [List.length_cons, List.length_append, List.length_nil]
    omega
  have tokens := enclosesA.tokens true
  rw [List.length_nil, enclosesB.tokens_behind operator here] at tokens
  have treeB := enclosesB.tree
  have whole : '(' :: (left ++ ')' :: ' ' :: c :: (more ++ [' '])) ++ '(' :: (right ++ [')']) =
      '(' :: (left ++ ')' :: ' ' :: c :: (more ++ ' ' :: '(' :: (right ++ [')']))) := by simp
  rw [whole] at treeB
  have tree := parse_of_normal normal (by simpa using inked) tokens
  exact ⟨_, ts, us, _, _, _, _, tree, ⟨enclosesA.clear, enclosesA.tree⟩, enclosesB.clear, treeB⟩

/-- Parentheses around a text, and the boolean operators between such groups, build the tree from the trees of the
parts, as far as the parts close their own parentheses and quotes. -/
theorem parse_compositional (parsedA : parse a = .ok n) (parsedB : parse b = .ok m)
    (closedA : (surface? a).isSome = true) (closedB : (surface? b).isSome = true) :
    parse ("(" ++ a ++ ")") = .ok n ∧ parse ("not (" ++ a ++ ")") = .ok (.not n) ∧
      parse ("(" ++ a ++ ") and (" ++ b ++ ")") = .ok (.all [n, m]) ∧
      parse ("(" ++ a ++ ") or (" ++ b ++ ")") = .ok (.any [n, m]) := by
  refine ⟨parse_in_parentheses parsedA closedA, parse_not_parentheses parsedA closedA, ?_, ?_⟩
  · obtain ⟨text, ts, us, stop, p, first, last, parsed, ⟨clear, rfl⟩, clear', rfl⟩ :=
      exists_groups isOperator_and parsedA parsedB closedA closedB
    have same : "(" ++ a ++ ") and (" ++ b ++ ")" =
        "(" ++ a ++ ") " ++ String.ofList ['a', 'n', 'd'] ++ " (" ++ b ++ ")" := by
      apply String.toList_injective
      simp
    rw [same, parsed, parse_and_groups text clear clear' rfl]
  · obtain ⟨text, ts, us, stop, p, first, last, parsed, ⟨clear, rfl⟩, clear', rfl⟩ :=
      exists_groups isOperator_or parsedA parsedB closedA closedB
    have same : "(" ++ a ++ ") or (" ++ b ++ ")" =
        "(" ++ a ++ ") " ++ String.ofList ['o', 'r'] ++ " (" ++ b ++ ")" := by
      apply String.toList_injective
      simp
    rw [same, parsed, parse_or_groups text clear clear' rfl]

theorem parse_compositional_of_plus :
    let a := "+  ')' &&\ty"
    let left : Node := .all [.unreadable "+ ')'", .name "y" []]
    parse a = .ok left ∧ parse ("(" ++ a ++ ")") = .ok left ∧ parse ("not (" ++ a ++ ")") = .ok (.not left) ∧
      parse ("(" ++ a ++ ") and (" ++ "z" ++ ")") = .ok (.all [left, .name "z" []]) ∧
      parse ("(" ++ a ++ ") or (" ++ "z" ++ ")") = .ok (.any [left, .name "z" []]) := by
  intro a left
  have parsed : parse "+  ')' &&\ty" = .ok left := by with_unfolding_all rfl
  have parsed' : parse "z" = .ok (.name "z" []) := by with_unfolding_all rfl
  have closed : (surface? "+  ')' &&\ty").isSome = true := by decide
  exact ⟨parsed, parse_compositional parsed parsed' closed (by decide)⟩

end

end Expr

end TabularAudit
