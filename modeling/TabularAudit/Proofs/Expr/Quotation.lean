import TabularAudit.Proofs.Lexing.Spacing
import TabularAudit.Proofs.Parsing.Dotted

/-!
Strings as expressions. A string between quotes, with its backslashes and such quotes behind backslashes, is read back
as itself.
-/

namespace TabularAudit.Expr

section
variable {quote : Char} {cs : List Char}

theorem closes_escaped (quote : Char) (cs : List Char) : Closes quote (escaped quote cs ++ [quote]) := by
  induction cs with
  | nil => exact .quote
  | cons c cs ih =>
      rw [escaped, List.flatMap_cons]
      split
      · exact .escape c ih
      · next other =>
        rw [not_or] at other
        exact .plain other.1 other.2 ih

theorem unescape_escaped (quotes : isQuote quote = true) (cs : List Char) : unescape (escaped quote cs) = cs := by
  induction cs with
  | nil => rw [escaped, List.flatMap_nil, unescape]
  | cons c cs ih =>
      rw [escaped, List.flatMap_cons, ← escaped]
      split
      · next special =>
        have kept : (isQuote c || c == '\\') = true := by
          rcases special with rfl | rfl
          · rfl
          · rw [quotes, Bool.true_or]
        rw [List.cons_append, List.singleton_append, unescape, if_pos kept, ih]
      · next other =>
        rw [not_or] at other
        rw [List.singleton_append, unescape, ih]
        · exact fun backslash _ => other.1 backslash
        · exact fun _ _ backslash _ => other.1 backslash

theorem isNormal_quotedWith (quotes : isQuote quote = true) (s : String) : IsNormal (quotedWith quote s).toList := by
  have closes := closes_escaped quote s.toList
  have outside := unquotedText_string quotes closes []
  rw [List.append_nil] at outside
  rw [quotedWith, String.toList_ofList]
  refine ⟨?_, ?_⟩
  · rw [outside, unquotedText, isTidy_of_ink (ink_of_isQuote quotes) (by simp)]
    exact isTidy_nil
  · rintro c (first | last)
    · cases first
      exact ink_of_isQuote quotes
    · rw [← List.cons_append, List.getLast?_concat] at last
      cases last
      exact ink_of_isQuote quotes

theorem tokenize_quotedWith (quotes : isQuote quote = true) (s : String) :
    tokenize (quotedWith quote s) = .ok [⟨.string s, 0⟩] := by
  have closes := closes_escaped quote s.toList
  have read := lexemeAt_string quotes closes true []
  rw [List.append_nil, List.dropLast_concat, unescape_escaped quotes, String.ofList_toList] at read
  rw [tokenize, quotedWith, String.toList_ofList, tokensFrom_cons (ink_of_isQuote quotes) read, Nat.add_sub_cancel,
    tokensFrom_skip, List.drop_length, tokensFrom]
  rfl

/-- Every string can be written between quotes of either kind. -/
theorem parse_quotedWith (quotes : isQuote quote = true) (s : String) :
    normalize (quotedWith quote s) = quotedWith quote s ∧ tokenize (quotedWith quote s) = .ok [⟨.string s, 0⟩] ∧
      parse (quotedWith quote s) = .ok (.literal (.text s)) := by
  have normal := (normalize_eq_self_iff _).2 (isNormal_quotedWith quotes s)
  have tokens := tokenize_quotedWith quotes s
  let literal : Grammar.Disjunction := .one (.one (.plain (.plain (.linked (.string s) .done))))
  have read : lexemes true (quotedWith quote s).toList = .ok literal.yield := by
    rw [lexemes_eq 0, ← tokenize, tokens]
    rfl
  exact ⟨normal, tokens, parse_of_derives literal read (List.forall_mem_singleton.2 rfl)⟩

theorem parse_quotedWith_of_pattern :
    let s := "\\s\"it's\\"
    isQuote '\'' = true ∧ quotedWith '\'' s = "'\\\\s\"it\\'s\\\\'" ∧
      normalize (quotedWith '\'' s) = quotedWith '\'' s ∧ tokenize (quotedWith '\'' s) = .ok [⟨.string s, 0⟩] ∧
      parse (quotedWith '\'' s) = .ok (.literal (.text s)) := by
  intro s
  exact ⟨rfl, by decide, parse_quotedWith rfl s⟩

end

end TabularAudit.Expr
