import TabularAudit.Expr.Outline

/-!
Where the procedures of the parser leave the cursor. An operand ends at the same token whether it
could be read or not, so every cursor is found by counting parentheses.
-/

namespace TabularAudit.Expr

def Lexeme.endsChain : Lexeme → Bool
  | .relation _ => true
  | l => l.endsOperand

/-- These tokens hold no stop of depth zero, and close every parenthesis that they open. -/
def Clears (stops : Lexeme → Bool) : (depth : Nat) → List Token → Prop
  | depth, [] => depth = 0
  | depth, t :: ts =>
    ¬(depth = 0 ∧ stops t.lexeme) ∧ Clears stops (t.lexeme.depthAfter depth) ts

section
variable {stops other : Lexeme → Bool} {depth : Nat} {t : Token} {p ts us : List Token}

theorem Clears.mono {wide narrow : Lexeme → Bool} (clear : Clears wide depth p)
    (narrower : ∀ l, narrow l = true → wide l = true) : Clears narrow depth p := by
  induction p generalizing depth with
  | nil => exact clear
  | cons t p ih => exact ⟨fun stop => clear.1 ⟨stop.1, narrower _ stop.2⟩, ih clear.2⟩

theorem endsComparison_of_endsOperand (l : Lexeme) (ends : l.endsOperand = true) : l.endsComparison = true := by
  cases l <;> first | rfl | cases ends

theorem endsComparison_of_endsArgument (l : Lexeme) (ends : l.endsArgument = true) : l.endsComparison = true := by
  cases l <;> first | rfl | cases ends

theorem endsComparison_of_isStray (l : Lexeme) (stray : l.isStray = true) : l.endsComparison = true := by
  cases l <;> first | rfl | cases stray

theorem endsChain_of_endsOperand (l : Lexeme) (ends : l.endsOperand = true) : l.endsChain = true := by
  cases l <;> first | rfl | exact ends

theorem clears_append (clear : Clears stops depth p) (q : List Token) :
    Clears stops depth (p ++ q) ↔ Clears stops 0 q := by
  induction p generalizing depth with
  | nil => rw [show depth = 0 from clear, List.nil_append]
  | cons t p ih =>
      rw [List.cons_append, Clears, ih clear.2]
      exact and_iff_right clear.1

theorem passOver_append (clear : Clears stops depth p) (q : List Token) :
    passOver stops depth (p ++ q) = passOver stops 0 q := by
  induction p generalizing depth with
  | nil => rw [show depth = 0 from clear, List.nil_append]
  | cons t p ih =>
      rw [List.cons_append, passOver, if_neg clear.1]
      exact ih clear.2

theorem passOver_of_standsAt (stands : standsAt stops ts = true) : passOver stops 0 ts = ts := by
  cases ts with
  | nil => rfl
  | cons t ts => exact if_pos ⟨rfl, stands⟩

theorem passOver_of_clears (clear : Clears stops 0 p) : passOver stops 0 p = [] := by
  rw [← List.append_nil p, passOver_append clear]
  rfl

theorem passOver_append_stop (clear : Clears stops depth p) (ends : stops t.lexeme = true) (us : List Token) :
    passOver stops depth (p ++ t :: us) = t :: us := by
  rw [passOver_append clear]
  exact passOver_of_standsAt ends

theorem standsAt_passOver (stops : Lexeme → Bool) (depth : Nat) (ts : List Token) :
    standsAt stops (passOver stops depth ts) = true := by
  induction ts generalizing depth with
  | nil => rfl
  | cons t ts ih =>
      rw [passOver]
      split
      · next stop => exact stop.2
      · exact ih _

theorem clears_of_passOver_eq (passed : passOver stops depth ts = t :: us) :
    ∃ p, ts = p ++ t :: us ∧ Clears stops depth p := by
  induction ts generalizing depth with
  | nil => cases passed
  | cons head ts ih =>
      rw [passOver] at passed
      split at passed
      · next stop =>
        cases passed
        exact ⟨[], rfl, stop.1⟩
      · next goes =>
        obtain ⟨p, rfl, clear⟩ := ih passed
        exact ⟨head :: p, rfl, goes, clear⟩

theorem depthAfter_deeper (closes : other .closing = true) (goes : ¬(depth = 0 ∧ other t.lexeme)) (k : Nat) :
    t.lexeme.depthAfter (depth + k + 1) = t.lexeme.depthAfter depth + k + 1 := by
  cases kind : t.lexeme with
  | closing =>
      have inside : depth ≠ 0 := by
        intro zero
        exact goes ⟨zero, by rw [kind, closes]⟩
      simp only [Lexeme.depthAfter]
      omega
  | opening => simp only [Lexeme.depthAfter]; omega
  | _ => rfl

theorem clears_deeper (closes : other .closing = true) (clear : Clears other depth p) (k : Nat)
    (q : List Token) : Clears stops (depth + k + 1) (p ++ q) ↔ Clears stops (k + 1) q := by
  induction p generalizing depth with
  | nil => rw [show depth = 0 from clear, List.nil_append, Nat.zero_add]
  | cons t p ih =>
      rw [List.cons_append, Clears, depthAfter_deeper closes clear.1, ih clear.2]
      exact and_iff_right (by omega)

theorem exists_stop_of_clears (inner : Lexeme → Bool) (depth k : Nat) (closes : inner .closing = true)
    (clear : Clears stops (depth + k + 1) p) :
    ∃ q c us, p = q ++ c :: us ∧ Clears inner depth q ∧ inner c.lexeme ∧
      Clears stops (c.lexeme.depthAfter (k + 1)) us := by
  induction p generalizing depth with
  | nil => exact absurd clear (Nat.succ_ne_zero _)
  | cons t p ih =>
      by_cases stop : depth = 0 ∧ inner t.lexeme
      · refine ⟨[], t, p, rfl, stop.1, stop.2, ?_⟩
        rw [stop.1, Nat.zero_add] at clear
        exact clear.2
      · have deeper := clear.2
        rw [depthAfter_deeper closes stop] at deeper
        obtain ⟨q, c, us, rfl, clearQ, ends, rest⟩ := ih _ deeper
        exact ⟨t :: q, c, us, rfl, ⟨stop, clearQ⟩, ends, rest⟩

theorem clears_or_exists_stop {wide narrow : Lexeme → Bool} (opens : wide .opening = false)
    (clear : Clears narrow depth p) :
    Clears wide depth p ∨ ∃ q c us, p = q ++ c :: us ∧ Clears wide depth q ∧ wide c.lexeme ∧
      narrow c.lexeme = false ∧ Clears narrow 0 us := by
  induction p generalizing depth with
  | nil => exact .inl clear
  | cons t p ih =>
      by_cases stop : depth = 0 ∧ wide t.lexeme
      · obtain ⟨rfl, ends⟩ := stop
        have level : t.lexeme.depthAfter 0 = 0 := by
          cases kind : t.lexeme with
          | opening => rw [kind, opens] at ends; cases ends
          | _ => rfl
        have goes : narrow t.lexeme = false := by
          simpa using fun h => clear.1 ⟨rfl, h⟩
        exact .inr ⟨[], t, p, rfl, rfl, ends, goes, level ▸ clear.2⟩
      · rcases ih clear.2 with whole | ⟨q, c, us, rfl, clearQ, ends, goes, rest⟩
        · exact .inl ⟨stop, whole⟩
        · exact .inr ⟨t :: q, c, us, rfl, ⟨stop, clearQ⟩, ends, goes, rest⟩

theorem clears_of_cursor {wide narrow : Lexeme → Bool} (opens : wide .opening = false)
    (clear : Clears narrow 0 p) (cursor : passOver wide 0 p = t :: us) : Clears narrow 0 us := by
  rcases clears_or_exists_stop opens clear with whole | ⟨q, c, vs, rfl, clearQ, ends, -, rest⟩
  · rw [passOver_of_clears whole] at cursor
    cases cursor
  · rw [passOver_append_stop clearQ ends] at cursor
    cases cursor
    exact rest

theorem passOver_passOver (narrower : ∀ l, stops l = true → other l = true) (depth : Nat)
    (ts : List Token) : passOver stops 0 (passOver other depth ts) = passOver stops depth ts := by
  induction ts generalizing depth with
  | nil => rfl
  | cons t ts ih =>
      by_cases stop : depth = 0 ∧ other t.lexeme
      · simp only [passOver, stop.1, stop.2, and_self, if_true]
      · have goes : ¬(depth = 0 ∧ stops t.lexeme) := fun h => stop ⟨h.1, narrower _ h.2⟩
        simp only [passOver, if_neg stop, if_neg goes, ih]

end

/-- What a procedure reads from one cursor to another, seen from a depth of parentheses. -/
def Consumes (depth : Nat) (ts us : List Token) : Prop :=
  ∃ p, ts = p ++ us ∧ Clears Lexeme.endsComparison depth p

namespace Consumes

variable {depth : Nat} {ts us vs : List Token}

theorem rfl {ts : List Token} : Consumes 0 ts ts := ⟨[], Eq.refl ts, Eq.refl 0⟩

theorem trans (first : Consumes depth ts us) (second : Consumes 0 us vs) : Consumes depth ts vs := by
  obtain ⟨p, same, clearP⟩ := first
  obtain ⟨q, again, clearQ⟩ := second
  exact ⟨p ++ q, by rw [same, again, List.append_assoc], (clears_append clearP q).2 clearQ⟩

theorem cons {t : Token} (goes : ¬(depth = 0 ∧ t.lexeme.endsComparison))
    (rest : Consumes (t.lexeme.depthAfter depth) us vs) : Consumes depth (t :: us) vs := by
  obtain ⟨p, same, clear⟩ := rest
  exact ⟨t :: p, by rw [same]; exact Eq.refl _, goes, clear⟩

theorem inside {t : Token} (passed : passOver Lexeme.endsArgument 0 ts = t :: us)
    (rest : Consumes (t.lexeme.depthAfter 1) us vs) : Consumes 1 ts vs := by
  obtain ⟨p, same, clear⟩ := clears_of_passOver_eq passed
  obtain ⟨q, again, clearRest⟩ := rest
  refine ⟨p ++ t :: q, by rw [same, again, List.append_assoc, List.cons_append], ?_⟩
  exact (clears_deeper (Eq.refl _) clear 0 (t :: q)).2 ⟨by omega, clearRest⟩

theorem clears (read : Consumes depth ts us) (clear : Clears Lexeme.endsOperand depth ts) :
    Clears Lexeme.endsOperand 0 us := by
  obtain ⟨p, rfl, clearP⟩ := read
  exact (clears_append (clearP.mono endsComparison_of_endsOperand) us).1 clear

theorem passOver_eq (read : Consumes 0 ts us) :
    passOver Lexeme.endsOperand 0 ts = passOver Lexeme.endsOperand 0 us := by
  obtain ⟨p, same, clear⟩ := read
  rw [same, passOver_append (clear.mono endsComparison_of_endsOperand)]

end Consumes

namespace Read

variable {α : Type} {ts us : List Token} {r : Read α ts} {l : Lexeme} {later : Later ts}

theorem rest_of_next?_eq_some (next : r.next? = some (l, later)) :
    ∃ position, r.rest = ⟨l, position⟩ :: later.1 := by
  obtain ⟨value, rest, suffix⟩ := r
  cases rest with
  | nil => cases next
  | cons t us =>
      simp only [next?, Option.some.injEq, Prod.mk.injEq] at next
      obtain ⟨rfl, rfl⟩ := next
      exact ⟨t.position, Eq.refl _⟩

theorem next?_of_rest_nil (rest : r.rest = []) : r.next? = none := by
  obtain ⟨value, _, suffix⟩ := r
  cases rest
  exact Eq.refl _

theorem next?_of_rest_cons {t : Token} (rest : r.rest = t :: us) :
    ∃ later, r.next? = some (t.lexeme, later) ∧ later.1 = us := by
  obtain ⟨value, _, suffix⟩ := r
  cases rest
  exact ⟨_, Eq.refl _, Eq.refl _⟩

theorem rest_of_closed?_eq_some {closed : Read α ts} (close : r.closed? = some closed) :
    closed.value = r.value ∧ ∃ position, r.rest = ⟨.closing, position⟩ :: closed.rest := by
  unfold closed? at close
  split at close
  · next us next =>
    cases close
    exact ⟨Eq.refl _, rest_of_next?_eq_some next⟩
  · cases close

end Read

section
variable {text : List Char} {stop : Nat}

theorem endsDisjunct_of_endsArgument (l : Lexeme) (ends : l.endsArgument = true) :
    l.endsDisjunct = true := by
  simp [Lexeme.endsDisjunct, ends]

theorem endsOperand_of_endsDisjunct (l : Lexeme) (ends : l.endsDisjunct = true) :
    l.endsOperand = true := by
  cases l <;> first | rfl | cases ends

theorem standsAt_of_ne {wide narrow : Lexeme → Bool} {ts : List Token} (stands : standsAt wide ts = true)
    (others : ∀ t us, ts = t :: us → wide t.lexeme = true → narrow t.lexeme = true) : standsAt narrow ts = true := by
  cases ts with
  | nil => rfl
  | cons t us => exact others t us rfl stands

theorem stops_of_next? {α : Type} {ts : List Token} {r : Read α ts} {stops : Lexeme → Bool}
    {l : Lexeme} {later : Later ts} (stands : standsAt stops r.rest = true)
    (next : r.next? = some (l, later)) : stops l = true := by
  obtain ⟨position, rest⟩ := Read.rest_of_next?_eq_some next
  rw [rest] at stands
  exact stands

theorem plainWord_consumes {ts : List Token} {r : Read Node ts} (read : plainWord ts = some r) :
    Consumes 0 ts r.rest := by
  unfold plainWord at read
  split at read
  · cases read
    exact .cons (by simp [Lexeme.endsComparison]) .rfl
  · cases read

theorem disjuncts_cases (ts : List Token) :
    (∃ spelling position us, (conjuncts text stop ts).rest = ⟨.disjunction spelling, position⟩ :: us ∧
      (disjuncts text stop ts).value =
        .conjunction (conjuncts text stop ts).value :: (disjuncts text stop us).value ∧
      (disjuncts text stop ts).rest = (disjuncts text stop us).rest ∧ us.length < ts.length) ∨
    (disjuncts text stop ts).value = [.conjunction (conjuncts text stop ts).value] ∧
      (disjuncts text stop ts).rest = (conjuncts text stop ts).rest ∧
      ∀ spelling position us, (conjuncts text stop ts).rest ≠ ⟨.disjunction spelling, position⟩ :: us := by
  rw [disjuncts]
  split
  · next later next =>
    obtain ⟨position, rest⟩ := Read.rest_of_next?_eq_some next
    exact .inl ⟨_, position, later.1, rest, rfl, rfl, later.2.2⟩
  · next other =>
    refine .inr ⟨rfl, rfl, fun spelling position us rest => ?_⟩
    obtain ⟨later, next, -⟩ := Read.next?_of_rest_cons (r := (conjuncts text stop ts).map Node.conjunction) rest
    exact other spelling later next

theorem conjuncts_cases (ts : List Token) :
    (∃ spelling position us, (unary text stop ts).rest = ⟨.conjunction spelling, position⟩ :: us ∧
      (conjuncts text stop ts).value = (unary text stop ts).value :: (conjuncts text stop us).value ∧
      (conjuncts text stop ts).rest = (conjuncts text stop us).rest ∧ us.length < ts.length) ∨
    (conjuncts text stop ts).value = [(unary text stop ts).value] ∧
      (conjuncts text stop ts).rest = (unary text stop ts).rest ∧
      ∀ spelling position us, (unary text stop ts).rest ≠ ⟨.conjunction spelling, position⟩ :: us := by
  rw [conjuncts]
  split
  · next later next =>
    obtain ⟨position, rest⟩ := Read.rest_of_next?_eq_some next
    exact .inl ⟨_, position, later.1, rest, rfl, rfl, later.2.2⟩
  · next other =>
    refine .inr ⟨rfl, rfl, fun spelling position us rest => ?_⟩
    obtain ⟨later, next, -⟩ := Read.next?_of_rest_cons rest
    exact other spelling later next

theorem unary_cases (ts : List Token) :
    (∃ spelling position us, ts = ⟨.negation spelling, position⟩ :: us ∧
      (unary text stop ts).value = .not (unary text stop us).value ∧
      (unary text stop ts).rest = (unary text stop us).rest) ∨
    (unary text stop ts).value = (operand text stop ts).value ∧
      (unary text stop ts).rest = (operand text stop ts).rest := by
  rw [unary.eq_def]
  split
  · exact .inl ⟨_, _, _, rfl, rfl, rfl⟩
  · exact .inr ⟨rfl, rfl⟩

theorem argumentList_cases (ts : List Token) :
    (∃ position us, (disjuncts text stop ts).rest = ⟨.comma, position⟩ :: us ∧
      (argumentList text stop ts).value =
        .disjunction (disjuncts text stop ts).value :: (argumentList text stop us).value ∧
      (argumentList text stop ts).rest = (argumentList text stop us).rest ∧ us.length < ts.length) ∨
    (argumentList text stop ts).value = [.disjunction (disjuncts text stop ts).value] ∧
      (argumentList text stop ts).rest = (disjuncts text stop ts).rest := by
  rw [argumentList]
  split
  · next later next =>
    obtain ⟨position, rest⟩ := Read.rest_of_next?_eq_some next
    exact .inl ⟨position, later.1, rest, rfl, rfl, later.2.2⟩
  · exact .inr ⟨rfl, rfl⟩

mutual

theorem disjuncts_rest (ts : List Token) :
    (disjuncts text stop ts).rest = passOver Lexeme.endsArgument 0 ts := by
  have first := conjuncts_rest ts
  rw [← passOver_passOver endsDisjunct_of_endsArgument, ← first]
  rcases disjuncts_cases ts with ⟨spelling, position, us, next, -, rest, bound⟩ | ⟨-, rest, other⟩
  · rw [rest, next]
    exact disjuncts_rest us
  · have stands : standsAt Lexeme.endsDisjunct (conjuncts text stop ts).rest := by
      rw [first]
      exact standsAt_passOver _ _ _
    rw [rest, passOver_of_standsAt]
    refine standsAt_of_ne stands fun t us cursor ends => ?_
    obtain ⟨l, position⟩ := t
    cases l with
    | disjunction s => exact absurd cursor (other s position us)
    | _ => exact ends
termination_by 10 * ts.length + 9
decreasing_by all_goals omega

theorem conjuncts_rest (ts : List Token) :
    (conjuncts text stop ts).rest = passOver Lexeme.endsDisjunct 0 ts := by
  have first := unary_rest ts
  rw [← passOver_passOver endsOperand_of_endsDisjunct, ← first]
  rcases conjuncts_cases ts with ⟨spelling, position, us, next, -, rest, bound⟩ | ⟨-, rest, other⟩
  · rw [rest, next]
    exact conjuncts_rest us
  · have stands : standsAt Lexeme.endsOperand (unary text stop ts).rest := by
      rw [first]
      exact standsAt_passOver _ _ _
    rw [rest, passOver_of_standsAt]
    refine standsAt_of_ne stands fun t us cursor ends => ?_
    obtain ⟨l, position⟩ := t
    cases l with
    | conjunction s => exact absurd cursor (other s position us)
    | _ => exact ends
termination_by 10 * ts.length + 8
decreasing_by all_goals omega

theorem unary_rest (ts : List Token) :
    (unary text stop ts).rest = passOver Lexeme.endsOperand 0 ts := by
  rcases unary_cases ts with ⟨spelling, position, us, rfl, -, rest⟩ | ⟨-, rest⟩
  · rw [rest]
    exact unary_rest us
  · rw [rest]
    exact operand_rest ts
termination_by 10 * ts.length + 7
decreasing_by
  · subst_vars
    simp only [List.length_cons]
    omega
  · omega

theorem operand_rest (ts : List Token) :
    (operand text stop ts).rest = passOver Lexeme.endsOperand 0 ts := by
  rw [operand]
  split
  · next r read =>
    split
    · next stands =>
      rw [(comparison_consumes read).passOver_eq, passOver_of_standsAt stands]
    · rfl
  · rfl
termination_by 10 * ts.length + 6
decreasing_by omega

theorem comparison_consumes {ts : List Token} {r : Read Node ts} (read : comparison text stop ts = some r) :
    Consumes 0 ts r.rest := by
  rw [comparison, Option.bind_eq_some_iff] at read
  obtain ⟨left, readLeft, read⟩ := read
  have consumed := chain_consumes readLeft
  split at read
  · next symbol us next =>
    obtain ⟨right, readRight, read⟩ := Option.bind_eq_some_iff.1 read
    obtain ⟨position, rest⟩ := Read.rest_of_next?_eq_some next
    have later := us.2.2
    split at read
    · cases read
    · cases read
      rw [rest] at consumed
      exact consumed.trans ((chain_consumes readRight).cons (by simp [Lexeme.endsComparison]))
  · cases read
    exact consumed
termination_by 10 * ts.length + 5
decreasing_by all_goals omega

theorem chain_consumes {ts : List Token} {r : Read Node ts} (read : chain text stop ts = some r) :
    Consumes 0 ts r.rest := by
  rw [chain, Option.bind_eq_some_iff] at read
  obtain ⟨first, readFirst, read⟩ := read
  obtain ⟨last, readLast, rfl⟩ := Option.map_eq_some_iff.1 read
  have bound := first.length_le
  exact (primary_consumes readFirst).trans (links_consumes readLast)
termination_by 10 * ts.length + 4
decreasing_by all_goals omega

theorem links_consumes {n : Node} {ts : List Token} {r : Read Node ts}
    (read : links text stop n ts = some r) : Consumes 0 ts r.rest := by
  rw [links.eq_def] at read
  split at read
  · next d w o us =>
    obtain ⟨args, readArgs, read⟩ := Option.bind_eq_some_iff.1 read
    obtain ⟨last, readLast, rfl⟩ := Option.map_eq_some_iff.1 read
    have bound := args.length_le
    have inside := (arguments_consumes readArgs).trans (links_consumes readLast)
    exact .cons (by simp [Lexeme.endsComparison])
      (.cons (by simp [Lexeme.endsComparison]) (.cons (by simp [Lexeme.endsComparison]) inside))
  · next d w us _ =>
    obtain ⟨last, readLast, rfl⟩ := Option.map_eq_some_iff.1 read
    exact .cons (by simp [Lexeme.endsComparison]) (.cons (by simp [Lexeme.endsComparison]) (links_consumes readLast))
  · cases read
  · cases read
    exact .rfl
termination_by 10 * ts.length + 3
decreasing_by all_goals (subst_vars; simp only [List.length_cons]; omega)

theorem arguments_consumes {ts : List Token} {r : Read (List Node) ts}
    (read : arguments text stop ts = some r) : Consumes 1 ts r.rest := by
  rw [arguments.eq_def] at read
  split at read
  · cases read
    exact .cons (by simp) .rfl
  · obtain ⟨-, position, closed⟩ := Read.rest_of_closed?_eq_some read
    exact argumentList_consumes closed
termination_by 10 * ts.length + 11
decreasing_by omega

theorem argumentList_consumes {ts us : List Token} {position : Nat}
    (closed : (argumentList text stop ts).rest = ⟨.closing, position⟩ :: us) : Consumes 1 ts us := by
  have first := disjuncts_rest ts
  rcases argumentList_cases ts with ⟨position', vs, next, -, rest, bound⟩ | ⟨-, rest⟩
  · rw [rest] at closed
    exact .inside (first.symm.trans next) (argumentList_consumes closed)
  · rw [rest] at closed
    exact .inside (first.symm.trans closed) .rfl
termination_by 10 * ts.length + 10
decreasing_by all_goals omega

theorem primary_consumes {ts : List Token} {r : Read Node ts}
    (read : primary text stop ts = some r) : Consumes 0 ts r.rest := by
  rw [primary.eq_def] at read
  split at read
  · cases read
    exact .cons (by simp [Lexeme.endsComparison]) .rfl
  · cases read
    exact .cons (by simp [Lexeme.endsComparison]) .rfl
  · next o us =>
    obtain ⟨inner, closed, rfl⟩ := Option.map_eq_some_iff.1 read
    obtain ⟨-, position, rest⟩ := Read.rest_of_closed?_eq_some closed
    have group : (disjuncts text stop us).rest = _ := disjuncts_rest us
    exact .cons (by simp [Lexeme.endsComparison]) (.inside (group.symm.trans rest) .rfl)
  · next w p us =>
    split at read
    · cases read
      exact .cons (by simp [Lexeme.endsComparison]) .rfl
    · obtain ⟨last, readLast, rfl⟩ := Option.map_eq_some_iff.1 read
      exact .cons (by simp [Lexeme.endsComparison]) (named_consumes readLast)
  · cases read
termination_by 10 * ts.length + 2
decreasing_by all_goals (subst_vars; simp only [List.length_cons]; omega)

theorem named_consumes {w : String} {ts : List Token} {r : Read Node ts}
    (read : named text stop w ts = some r) : Consumes 0 ts r.rest := by
  rw [named.eq_def] at read
  split at read
  · next o us =>
    obtain ⟨args, readArgs, rfl⟩ := Option.map_eq_some_iff.1 read
    exact .cons (by simp [Lexeme.endsComparison]) (arguments_consumes readArgs)
  · split at read
    · obtain ⟨last, readLast, rfl⟩ := Option.map_eq_some_iff.1 read
      exact .cons (by simp [Lexeme.endsComparison]) (plainWord_consumes readLast)
    · cases read
      exact .rfl
  · cases read
    exact .rfl
termination_by 10 * ts.length + 3
decreasing_by all_goals (subst_vars; simp only [List.length_cons]; omega)

end

end

end TabularAudit.Expr
