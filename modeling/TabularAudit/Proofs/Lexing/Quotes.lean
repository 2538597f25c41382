import TabularAudit.Expr.Surface

/-! Where quoted strings end, for each of the scanners that pass over them. -/

namespace TabularAudit.Expr

/-- The rest of a string behind its opening quote, up to and with the first quote that is not escaped. -/
inductive Closes (quote : Char) : List Char → Prop where
  | quote : Closes quote [quote]
  | escape (c : Char) {body : List Char} : Closes quote body → Closes quote ('\\' :: c :: body)
  | plain {c : Char} {body : List Char} : c ≠ '\\' → c ≠ quote → Closes quote body → Closes quote (c :: body)

section
variable {quote : Char} {body cs : List Char} {n : Nat}

theorem ne_backslash_of_isQuote {c : Char} (quotes : isQuote c = true) : c ≠ '\\' := by
  rintro rfl
  cases quotes

theorem Closes.closingQuote? (closes : Closes quote body) (plain : quote ≠ '\\') (rest : List Char) :
    closingQuote? quote (body ++ rest) = some body.length := by
  induction closes with
  | quote => simp [Expr.closingQuote?, plain]
  | escape c closes ih => simp [Expr.closingQuote?, ih]
  | plain notBackslash notQuote closes ih => simp [Expr.closingQuote?, notBackslash, notQuote, ih]

theorem Closes.normalizeFrom (closes : Closes quote body) (plain : quote ≠ '\\') (rest : List Char) :
    normalizeFrom (.inside quote) (body ++ rest) = body ++ normalizeFrom (.outside false) rest := by
  induction closes with
  | quote => simp [Expr.normalizeFrom, plain]
  | escape c closes ih => simp [Expr.normalizeFrom, ih]
  | plain notBackslash notQuote closes ih => simp [Expr.normalizeFrom, notBackslash, notQuote, ih]

theorem Closes.unquoted? (closes : Closes quote body) (plain : quote ≠ '\\') (rest : List Char) :
    unquoted? (.inside quote) (body ++ rest) = unquoted? (.outside false) rest := by
  induction closes with
  | quote => simp [Expr.unquoted?, plain]
  | escape c closes ih => simp [Expr.unquoted?, ih]
  | plain notBackslash notQuote closes ih => simp [Expr.unquoted?, notBackslash, notQuote, ih]

theorem Closes.unquotedText (closes : Closes quote body) (plain : quote ≠ '\\') (rest : List Char) :
    unquotedText (.inside quote) (body ++ rest) = unquotedText (.outside false) rest := by
  induction closes with
  | quote => simp [Expr.unquotedText, plain]
  | escape c closes ih => simp [Expr.unquotedText, ih]
  | plain notBackslash notQuote closes ih => simp [Expr.unquotedText, notBackslash, notQuote, ih]

theorem ne_backslash_of_cases {c : Char} (last : c = '\\' → cs = [] → False)
    (escape : ∀ d ds, c = '\\' → cs = d :: ds → False) : c ≠ '\\' := by
  rintro rfl
  cases cs with
  | nil => exact last rfl rfl
  | cons d ds => exact escape d ds rfl rfl

theorem closes_of_closingQuote? (found : closingQuote? quote cs = some n) :
    ∃ body rest, cs = body ++ rest ∧ body.length = n ∧ Closes quote body := by
  induction cs using Expr.closingQuote?.induct quote generalizing n with
  | case1 => cases found
  | case2 => cases found
  | case3 c cs ih =>
      rw [Expr.closingQuote?, Option.map_eq_some_iff] at found
      obtain ⟨m, found, rfl⟩ := found
      obtain ⟨body, rest, rfl, rfl, closes⟩ := ih found
      exact ⟨'\\' :: c :: body, rest, rfl, rfl, .escape c closes⟩
  | case4 cs last escape =>
      rw [Expr.closingQuote?, if_pos rfl] at found
      · cases found
        exact ⟨[quote], cs, rfl, rfl, .quote⟩
      · exact last
      · exact escape
  | case5 c cs last escape other ih =>
      rw [Expr.closingQuote?, if_neg other, Option.map_eq_some_iff] at found
      · obtain ⟨m, found, rfl⟩ := found
        obtain ⟨body, rest, rfl, rfl, closes⟩ := ih found
        exact ⟨c :: body, rest, rfl, rfl, .plain (ne_backslash_of_cases last escape) other closes⟩
      · exact last
      · exact escape

theorem Closes.mem (closes : Closes quote body) : quote ∈ body := by
  induction closes with
  | quote => simp
  | escape c closes ih => simp [ih]
  | plain notBackslash notQuote closes ih => simp [ih]

theorem closingQuote?_eq_none (free : quote ∉ cs) : closingQuote? quote cs = none := by
  cases found : closingQuote? quote cs with
  | none => rfl
  | some n =>
      obtain ⟨body, rest, rfl, -, closes⟩ := closes_of_closingQuote? found
      exact absurd (List.mem_append_left rest closes.mem) free

theorem open_tail {blanks : List Char} (plain : quote ≠ '\\') (free : quote ∉ blanks)
    (never : closingQuote? quote cs = none) :
    normalizeFrom (.inside quote) cs = cs ∧ unquoted? (.inside quote) cs = none ∧
      closingQuote? quote (cs ++ blanks) = none ∧ unquotedText (.inside quote) cs = [] := by
  induction cs using Expr.closingQuote?.induct quote with
  | case1 => exact ⟨rfl, rfl, closingQuote?_eq_none free, rfl⟩
  | case2 =>
      refine ⟨by simp [Expr.normalizeFrom], by simp [Expr.unquoted?], closingQuote?_eq_none ?_,
        by simp [Expr.unquotedText]⟩
      simp [plain, free]
  | case3 c cs ih =>
      rw [Expr.closingQuote?, Option.map_eq_none_iff] at never
      simp [Expr.normalizeFrom, Expr.unquoted?, Expr.closingQuote?, Expr.unquotedText, ih never]
  | case4 cs last escape =>
      rw [Expr.closingQuote?, if_pos rfl] at never
      · cases never
      · exact last
      · exact escape
  | case5 c cs last escape other ih =>
      have ordinary := ne_backslash_of_cases last escape
      rw [Expr.closingQuote?, if_neg other, Option.map_eq_none_iff] at never
      · simp [Expr.normalizeFrom, Expr.unquoted?, Expr.closingQuote?, Expr.unquotedText, ih never, ordinary, other]
      · exact last
      · exact escape

end

end TabularAudit.Expr
