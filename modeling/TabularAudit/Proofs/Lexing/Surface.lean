import TabularAudit.Proofs.Lexing.Lexemes

/-!
What stands outside of the strings of a text, lexeme by lexeme.
-/

namespace TabularAudit.Expr

section
variable {c : Char} {cs body : List Char}

theorem unquoted?_cons (unquoted : isQuote c = false) (cs : List Char) :
    unquoted? (.outside false) (c :: cs) = (unquoted? (.outside false) cs).map (c :: ·) := by
  rw [unquoted?, unquoted]
  rfl

theorem head?_unquoted? {text : List Char} (read : unquoted? (.outside false) cs = some text) : text.head? = cs.head? := by
  cases cs with
  | nil => cases read; rfl
  | cons d cs =>
      rw [unquoted?, Option.map_eq_some_iff] at read
      obtain ⟨behind, -, rfl⟩ := read
      rfl

theorem unquoted?_append {more : List Char} (unquoted : ∀ d ∈ more, isQuote d = false) (cs : List Char) :
    unquoted? (.outside false) (more ++ cs) = (unquoted? (.outside false) cs).map (more ++ ·) := by
  induction more with
  | nil => simp
  | cons d more ih =>
      rw [List.cons_append, unquoted?_cons (unquoted d (by simp)), ih fun e member => unquoted e (by simp [member]),
        Option.map_map]
      rfl

theorem unquoted?_string (quotes : isQuote c = true) (closes : Closes c body) (rest : List Char) :
    unquoted? (.outside false) (c :: (body ++ rest)) = (unquoted? (.outside false) rest).map (c :: ·) := by
  rw [unquoted?, quotes, if_pos rfl, closes.unquoted? (ne_backslash_of_isQuote quotes)]

theorem unquoted?_unclosed (quotes : isQuote c = true) (never : closingQuote? c cs = none) :
    unquoted? (.outside false) (c :: cs) = none := by
  have stays := (open_tail (ne_backslash_of_isQuote quotes) List.not_mem_nil never).2.1
  rw [unquoted?, quotes, if_pos rfl, stays]
  rfl

theorem Spelled.unquoted {more rest : List Char} {l : Lexeme} (spelled : Spelled c more rest l) :
    ∀ d ∈ more, isQuote d = false := by
  have apart : ∀ p : Char → Bool, p '"' = false → p '\'' = false → ∀ d, p d = true → isQuote d = false := by
    intro p double single d holds
    rw [Bool.eq_false_iff]
    intro quotes
    rcases eq_of_isQuote quotes with rfl | rfl
    · rw [double] at holds
      cases holds
    · rw [single] at holds
      cases holds
  exact spelled.forall_more (apart isNumeric rfl rfl) (apart isWordChar rfl rfl) (by decide)

theorem unquoted?_lexeme {sign : Bool} {l : Lexeme} {length : Nat} (unquoted : isQuote c = false)
    (read : lexemeAt sign c cs = .ok (l, length)) :
    unquoted? (.outside false) (c :: cs) =
      (unquoted? (.outside false) (cs.drop (length - 1))).map (c :: cs.take (length - 1) ++ ·) := by
  have plain := (spelled_of_lexemeAt unquoted read).unquoted
  have prefixPlain : ∀ d ∈ c :: cs.take (length - 1), isQuote d = false := by
    simpa only [List.forall_mem_cons] using ⟨unquoted, plain⟩
  rw [← unquoted?_append prefixPlain, List.cons_append,
    List.take_append_drop]

theorem unquotedText_cons (unquoted : isQuote c = false) (cs : List Char) :
    unquotedText (.outside false) (c :: cs) = c :: unquotedText (.outside false) cs := by
  rw [unquotedText, unquoted]
  rfl

theorem unquotedText_gap (gap gap' : Bool) (cs : List Char) :
    unquotedText (.outside gap) cs = unquotedText (.outside gap') cs := by
  induction cs with
  | nil => rfl
  | cons c cs ih =>
      rw [unquotedText, unquotedText]
      split
      · rfl
      · rw [ih]

theorem unquotedText_prefix (place : Place) (cs ds : List Char) :
    unquotedText place cs <+: unquotedText place (cs ++ ds) := by
  induction cs generalizing place with
  | nil =>
      rw [unquotedText]
      exact List.nil_prefix
  | cons c cs ih =>
      cases place with
      | outside gap => exact List.cons_prefix_cons.2 ⟨rfl, ih _⟩
      | inside quote => exact ih _
      | escaped quote => exact ih _

theorem unquotedText_append {more : List Char} (unquoted : ∀ d ∈ more, isQuote d = false) (cs : List Char) :
    unquotedText (.outside false) (more ++ cs) = more ++ unquotedText (.outside false) cs := by
  induction more with
  | nil => rfl
  | cons d more ih =>
      rw [List.cons_append, unquotedText_cons (unquoted d (by simp)), ih fun e member => unquoted e (by simp [member]),
        List.cons_append]

theorem unquotedText_string (quotes : isQuote c = true) (closes : Closes c body) (rest : List Char) :
    unquotedText (.outside false) (c :: (body ++ rest)) = c :: unquotedText (.outside false) rest := by
  rw [unquotedText, if_pos quotes, closes.unquotedText (ne_backslash_of_isQuote quotes)]

theorem unquotedText_unclosed (quotes : isQuote c = true) (never : closingQuote? c cs = none) :
    unquotedText (.outside false) (c :: cs) = [c] := by
  have inside := (open_tail (ne_backslash_of_isQuote quotes) List.not_mem_nil never).2.2.2
  rw [unquotedText, if_pos quotes, inside]

theorem unquotedText_lexeme {sign : Bool} {l : Lexeme} {length : Nat} (unquoted : isQuote c = false)
    (read : lexemeAt sign c cs = .ok (l, length)) :
    unquotedText (.outside false) (c :: cs) =
      c :: cs.take (length - 1) ++ unquotedText (.outside false) (cs.drop (length - 1)) := by
  have plain := (spelled_of_lexemeAt unquoted read).unquoted
  have prefixPlain : ∀ d ∈ c :: cs.take (length - 1), isQuote d = false := by
    simpa only [List.forall_mem_cons] using ⟨unquoted, plain⟩
  rw [← unquotedText_append prefixPlain, List.cons_append, List.take_append_drop]

theorem head?_unquotedText (cs : List Char) : (unquotedText (.outside false) cs).head? = cs.head? := by
  cases cs <;> rfl

theorem takeWhile_unquotedText {p : Char → Bool} (plain : p '"' = false ∧ p '\'' = false) (cs : List Char) :
    (unquotedText (.outside false) cs).takeWhile p = cs.takeWhile p := by
  induction cs with
  | nil => rfl
  | cons d cs ih =>
      cases quotes : isQuote d with
      | true =>
          have off : p d = false := by
            rcases eq_of_isQuote quotes with rfl | rfl
            · exact plain.1
            · exact plain.2
          rw [unquotedText, List.takeWhile_cons, List.takeWhile_cons, off]
          rfl
      | false => rw [unquotedText_cons quotes, List.takeWhile_cons, List.takeWhile_cons, ih]

end

end TabularAudit.Expr
