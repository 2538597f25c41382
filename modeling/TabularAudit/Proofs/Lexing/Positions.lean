import TabularAudit.Proofs.Lexing.Surface

/-! The tokens of a text with their positions, lexeme by lexeme. -/

namespace TabularAudit.Expr

def Token.moved (k : Nat) (t : Token) : Token := ⟨t.lexeme, t.position + k⟩

section
variable {start length : Nat} {sign : Bool} {c : Char} {cs blanks : List Char} {l : Lexeme}

theorem tokensFrom_blank (blank : Text.isBlank c = true) (start : Nat) (sign : Bool) (cs : List Char) :
    tokensFrom start sign 0 (c :: cs) = tokensFrom (start + 1) sign 0 cs := by
  rw [tokensFrom, if_pos blank]

theorem tokensFrom_cons (ink : Text.isBlank c = false) (read : lexemeAt sign c cs = .ok (l, length)) (start : Nat) :
    tokensFrom start sign 0 (c :: cs) =
      (tokensFrom (start + 1) l.expectsValue (length - 1) cs).map (⟨l, start⟩ :: ·) := by
  rw [tokensFrom, if_neg (by simp [ink]), read]
  change (tokensFrom (start + 1) l.expectsValue (length - 1) cs).bind _ = _
  cases tokensFrom (start + 1) l.expectsValue (length - 1) cs with
  | error fault => rfl
  | ok ts => rfl

theorem tokensFrom_fault {fault : Fault} (ink : Text.isBlank c = false) (read : lexemeAt sign c cs = .error fault)
    (start : Nat) : tokensFrom start sign 0 (c :: cs) = .error fault := by
  rw [tokensFrom, if_neg (by simp [ink]), read]
  rfl

theorem tokensFrom_skip (start : Nat) (sign : Bool) (skip : Nat) (cs : List Char) :
    tokensFrom start sign skip cs = tokensFrom (start + skip) sign 0 (cs.drop skip) := by
  induction cs generalizing start skip with
  | nil => rw [List.drop_nil, tokensFrom, tokensFrom]
  | cons c cs ih =>
      cases skip with
      | zero => rfl
      | succ skip => rw [tokensFrom, ih, List.drop_succ_cons, Nat.add_right_comm, Nat.add_assoc]

theorem tokensFrom_blanks (blank : ∀ c ∈ blanks, Text.isBlank c = true) (start : Nat) (sign : Bool) (cs : List Char) :
    tokensFrom start sign 0 (blanks ++ cs) = tokensFrom (start + blanks.length) sign 0 cs := by
  induction blanks generalizing start with
  | nil => rfl
  | cons c blanks ih =>
      rw [List.forall_mem_cons] at blank
      rw [List.cons_append, tokensFrom_blank blank.1, ih blank.2, List.length_cons, Nat.add_right_comm, Nat.add_assoc]

theorem tokensFrom_moved (start k : Nat) (sign : Bool) (skip : Nat) (cs : List Char) :
    tokensFrom (start + k) sign skip cs = (tokensFrom start sign skip cs).map (List.map (Token.moved k)) := by
  induction cs generalizing start sign skip with
  | nil => rw [tokensFrom, tokensFrom]; rfl
  | cons c cs ih =>
      cases skip with
      | succ skip => rw [tokensFrom, tokensFrom, Nat.add_right_comm, ih]
      | zero =>
          cases ink : Text.isBlank c with
          | true => rw [tokensFrom_blank ink, tokensFrom_blank ink, Nat.add_right_comm, ih]
          | false =>
              cases read : lexemeAt sign c cs with
              | error fault =>
                  rw [tokensFrom_fault ink read, tokensFrom_fault ink read]
                  rfl
              | ok found =>
                  obtain ⟨l, length⟩ := found
                  rw [tokensFrom_cons ink read, tokensFrom_cons ink read, Nat.add_right_comm, ih]
                  cases tokensFrom (start + 1) l.expectsValue (length - 1) cs <;> rfl

end

end TabularAudit.Expr
