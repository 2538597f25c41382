import TabularAudit.Proofs.Expr.Context
import TabularAudit.Proofs.Parsing.Dotted

/-!
The size of a collection, asked for by the name `P.Count` and by the call `P.Count()`. Where an owning table is missing
the name is null and the call has no meaning; behind `current` only the name has one. Elsewhere the two say the same.
-/

namespace TabularAudit.Expr

theorem of_mem_collectionNames {name : String} (member : name ∈ collectionNames) :
    collectionNames.contains name = true ∧ families.contains name = false ∧ name ≠ "current" ∧ name ≠ "Table" ∧
      isPlainWord name = true := by
  revert name
  decide

theorem Agree.of_like {α : Type} {x y : Except Fault α} (like : Traced.Like x y) : Agree x y := by
  cases like with
  | unsupported reason reason' => exact .unsupported reason reason'
  | same =>
      cases x with
      | ok a => exact .value a
      | error fault =>
          cases fault with
          | unsupported reason => exact .unsupported reason reason
          | _ => exact .fault rfl rfl

section
variable {c : Index} {env : Env} {name : String} {n : Nat}

theorem sizeAt_owners (o : ModelObject) : sizeAt c (some o) (List.replicate n "Table" ++ [name]) =
    (ownerAt? c n o).elim (.error (.unsupported .ownerUnknown)) fun owner => memberCount c owner name := by
  induction n generalizing o with
  | zero => rfl
  | succ n ih =>
      obtain ⟨part, parts, same⟩ := List.exists_cons_of_ne_nil (l := List.replicate n "Table" ++ [name]) (by simp)
      simp only [List.replicate_succ, List.cons_append, same, sizeAt, receiver, Bind.bind, Except.bind, if_true,
        ownerAt?]
      cases c.table? (o.table.getD "") with
      | none => rfl
      | some owner => exact same ▸ ih owner

theorem denote_table (o : ModelObject) (part next : String) (parts : List String) :
    denote env (some o) "Table" (part :: next :: parts) =
      (env.index.table? (o.table.getD "")).elim (.ok .null) fun owner =>
        denote env (some owner) part (next :: parts) := by
  have family : families.contains "Table" = false := by decide
  rw [denote, family, Bool.false_and, if_neg Bool.false_ne_true, if_neg (by decide), if_pos rfl]
  simp only [receiver, Bind.bind, Except.bind, reduceCtorEq, false_and, if_false]
  cases env.index.table? (o.table.getD "") <;> rfl

theorem denote_current (o : ModelObject) (part next : String) (parts : List String) :
    denote env (some o) "current" (part :: next :: parts) =
      env.current.elim (.error (.unsupported .currentOutsidePredicate)) fun reference =>
        reference.object.elim (.ok .null) fun held =>
          denote { env with current := none } (some held) part (next :: parts) := by
  have family : families.contains "current" = false := by decide
  rw [denote, family, Bool.false_and, if_neg Bool.false_ne_true, if_pos rfl]
  cases env.current with
  | none => rfl
  | some reference =>
      simp only [reduceCtorEq, and_false, if_false, Option.elim_some]
      cases reference.object <;> rfl

theorem exists_two_parts (n : Nat) (name : String) :
    ∃ part next parts, List.replicate n "Table" ++ [name, "Count"] = part :: next :: parts := by
  rcases n with _ | _ | n
  · exact ⟨name, "Count", [], rfl⟩
  · exact ⟨"Table", name, ["Count"], rfl⟩
  · exact ⟨"Table", "Table", List.replicate n "Table" ++ [name, "Count"], rfl⟩

theorem denote_owners (member : name ∈ collectionNames) (o : ModelObject) {head : String} {rest : List String}
    (path : head :: rest = List.replicate n "Table" ++ [name, "Count"]) :
    denote env (some o) head rest =
      (ownerAt? env.index n o).elim (.ok .null) fun owner => (memberCount env.index owner name).map .int := by
  obtain ⟨listed, family, current, table, -⟩ := of_mem_collectionNames member
  induction n generalizing o head rest with
  | zero =>
      cases path
      have counted : countedCollection? [name, "Count"] = some [name] := by
        simpa [countedCollection?] using member
      rw [denote, family, Bool.false_and, if_neg Bool.false_ne_true, if_neg current, if_neg table, counted]
      rfl
  | succ n ih =>
      obtain ⟨part, next, parts, same⟩ := exists_two_parts n name
      rw [List.replicate_succ, List.cons_append, same] at path
      cases path
      rw [denote_table, ownerAt?]
      cases env.index.table? (o.table.getD "") with
      | none => rfl
      | some owner => exact ih owner same.symm

end

namespace CollectionPath

section
variable (p : CollectionPath) (env : Env) (o : ModelObject)

theorem exists_parts : ∃ head rest, p.parts = head :: rest := List.exists_cons_of_ne_nil (by simp [parts])

theorem result_countName : (eval p.countName env (some o)).result =
    if p.ofCurrent then env.current.elim (.error (.unsupported .currentOutsidePredicate)) fun reference =>
      (reference.object.bind (ownerAt? env.index p.owners)).elim (.ok .null) fun owner =>
        (memberCount env.index owner p.name).map .int
    else (ownerAt? env.index p.owners o).elim (.ok .null) fun owner =>
      (memberCount env.index owner p.name).map .int := by
  obtain ⟨ofCurrent, owners, name, member⟩ := p
  obtain ⟨part, next, parts, same⟩ := exists_two_parts owners name
  have path : List.replicate owners "Table" ++ [name] ++ ["Count"] = part :: next :: parts := by
    rw [List.append_assoc]
    exact same
  cases ofCurrent with
  | false =>
      simp only [countName, CollectionPath.parts, Bool.false_eq_true, if_false, List.nil_append, path, Node.dotted,
        eval, Traced.result_ofResult, denote_owners member o same.symm]
  | true =>
      simp only [countName, CollectionPath.parts, if_true, List.append_assoc, List.cons_append, List.nil_append,
        same, Node.dotted, eval, Traced.result_ofResult, denote_current]
      cases env.current with
      | none => rfl
      | some reference =>
          rw [Option.elim_some, Option.elim_some]
          cases reference.object with
          | none => rfl
          | some held => exact denote_owners member held same.symm

theorem invocation_countCall : invocation (.dotted p.parts) "Count" 0 = .size p.parts := by
  obtain ⟨head, rest, same⟩ := p.exists_parts
  have last : (head :: rest).getLast? = some p.name := by
    rw [← same, parts, ← List.append_assoc, List.getLast?_concat]
  have listed : ((head :: rest).getLast?).any collectionNames.contains = true := by
    rw [last]
    exact (of_mem_collectionNames p.isCollection).1
  rw [same, Node.dotted, invocation, nameInvocation.eq_def]
  dsimp only
  rw [if_neg (by simp), if_neg (by simp [blankTests]), if_pos ⟨listed, .inl rfl⟩, if_pos rfl, if_pos rfl]

theorem result_countCall : (eval p.countCall env (some o)).result =
    if p.ofCurrent then .error (.unsupported (.collection p.parts))
    else (ownerAt? env.index p.owners o).elim (.error (.unsupported .ownerUnknown)) fun owner =>
      (memberCount env.index owner p.name).map .int := by
  have size : (eval p.countCall env (some o)).result = (sizeAt env.index (some o) p.parts).map .int := by
    rw [countCall, eval, List.length_nil, invocation_countCall]
    dsimp only
    rw [Traced.result_bind]
    cases sizeAt env.index (some o) p.parts <;> rfl
  obtain ⟨ofCurrent, owners, name, member⟩ := p
  rw [size]
  cases ofCurrent with
  | false =>
      simp only [CollectionPath.parts, Bool.false_eq_true, if_false, List.nil_append, sizeAt_owners]
      cases ownerAt? env.index owners o <;> rfl
  | true =>
      obtain ⟨part, parts, same⟩ :=
        List.exists_cons_of_ne_nil (l := List.replicate owners "Table" ++ [name]) (by simp)
      have behind : sizeAt env.index (some o) ("current" :: part :: parts) =
          .error (.unsupported (.collection ("current" :: part :: parts))) := by
        rw [sizeAt, if_neg (by decide)]
        simp
      simp only [CollectionPath.parts, if_true, List.cons_append, List.nil_append, same, behind]
      rfl

theorem isConsistent_cases :
    p.isConsistent env o = true ∧
        Traced.Like (eval p.countName env (some o)).result (eval p.countCall env (some o)).result ∨
      p.isConsistent env o = false ∧
        ¬Agree (eval p.countName env (some o)).result (eval p.countCall env (some o)).result := by
  rw [result_countName, result_countCall, isConsistent]
  cases p.ofCurrent with
  | false =>
      simp only [Bool.false_eq_true, if_false]
      cases ownerAt? env.index p.owners o with
      | none => exact .inr ⟨rfl, by rintro ⟨⟩⟩
      | some owner => exact .inl ⟨rfl, .same _⟩
  | true =>
      cases env.current with
      | none => exact .inl ⟨rfl, .unsupported _ _⟩
      | some reference =>
          simp only [if_true, Option.elim_some]
          cases reference.object.bind (ownerAt? env.index p.owners) with
          | none => exact .inr ⟨rfl, by rintro ⟨⟩⟩
          | some owner =>
              simp only [Option.elim_some, Option.any_some]
              cases memberCount env.index owner p.name with
              | ok k => exact .inr ⟨rfl, by rintro ⟨⟩⟩
              | error fault =>
                  cases fault with
                  | unsupported reason => exact .inl ⟨rfl, .unsupported _ _⟩
                  | _ =>
                      refine .inr ⟨rfl, fun agree => ?_⟩
                      cases agree with
                      | fault _ off => cases off

theorem agree_iff : Agree (eval p.countName env (some o)).result (eval p.countCall env (some o)).result ↔
    p.isConsistent env o = true := by
  rcases p.isConsistent_cases env o with ⟨consistent, like⟩ | ⟨differ, apart⟩
  · exact iff_of_true (.of_like like) consistent
  · exact iff_of_false apart (by simp [differ])

theorem like_of_isConsistent (consistent : p.isConsistent env o = true) :
    Traced.Like (eval p.countName env (some o)).result (eval p.countCall env (some o)).result := by
  rcases p.isConsistent_cases env o with ⟨-, like⟩ | ⟨differ, -⟩
  · exact like
  · cases differ.symm.trans consistent

end

section
variable (p : CollectionPath)

theorem isPlainWord_of_mem {w : String} (member : w ∈ p.parts) : isPlainWord w = true := by
  simp only [parts, List.mem_append, List.mem_ite_nil_right, List.mem_singleton, List.mem_replicate] at member
  rcases member with ⟨-, rfl⟩ | ⟨-, rfl⟩ | rfl
  · decide
  · decide
  · exact (of_mem_collectionNames p.isCollection).2.2.2.2

theorem parse_countName : parse (p.text ++ ".Count") = .ok p.countName := by
  have read : lexemes false ".Count".toList = .ok (Grammar.Links.part "Count" .done).yield :=
    (lexemes_tokensFrom 0 false 0 ".Count".toList).symm
  have dot : BeginsWithout isWordChar ".Count".toList := (beginsWithout_cons _ '.' "Count".toList).2 (by decide)
  obtain ⟨head, rest, same⟩ := p.exists_parts
  have tree := parse_linked (fun w member => p.isPlainWord_of_mem (same ▸ member)) dot read (by decide)
  rw [text, countName, same, tree]
  rfl

theorem parse_countCall : parse (p.text ++ ".Count()") = .ok p.countCall := by
  have read : lexemes false ".Count()".toList = .ok (Grammar.Links.call "Count" .empty .done).yield :=
    (lexemes_tokensFrom 0 false 0 ".Count()".toList).symm
  have dot : BeginsWithout isWordChar ".Count()".toList := (beginsWithout_cons _ '.' "Count()".toList).2 (by decide)
  obtain ⟨head, rest, same⟩ := p.exists_parts
  have tree := parse_linked (fun w member => p.isPlainWord_of_mem (same ▸ member)) dot read (by decide)
  rw [text, countCall, same, tree]
  rfl

theorem isValue_countName : p.countName.IsValue := by
  intro method arity
  obtain ⟨head, rest, same⟩ := p.exists_parts
  have last : ((head :: (rest ++ ["Count"])).getLast?).any collectionNames.contains = false := by
    rw [← List.cons_append, List.getLast?_concat]
    rfl
  have long : ∀ name, head :: (rest ++ ["Count"]) ≠ [name] := by simp
  rw [countName, same, List.cons_append, Node.dotted, invocation, nameInvocation, last]
  · simp
  · exact long

theorem isValue_countCall : p.countCall.IsValue := fun _ _ => rfl

/-- For every path, `P.Count` is read as a name and `P.Count()` as a call. They say the same exactly where the owning
tables are known or, behind `current`, where the name has no meaning either. Where that is so at every visit, an
expression keeps its verdict when one takes the place of the other. -/
theorem counts_agree : parse (p.text ++ ".Count") = .ok p.countName ∧ parse (p.text ++ ".Count()") = .ok p.countCall ∧
    (∀ (env : Env) (o : ModelObject),
      Agree (eval p.countName env (some o)).result (eval p.countCall env (some o)).result ↔
        p.isConsistent env o = true) ∧
    ∀ (context : Context) (env : Env) (o : ModelObject),
      (∀ visit ∈ context.visits env o, p.isConsistent visit.1 visit.2 = true) →
        ∀ s t : String, parse s = .ok (context.fill p.countName) → parse t = .ok (context.fill p.countCall) →
          (judge (.text s) (some o) env).result = (judge (.text t) (some o) env).result := by
  refine ⟨p.parse_countName, p.parse_countCall, p.agree_iff, ?_⟩
  intro context env o consistent s t name call
  have like := eval_fill p.isValue_countName p.isValue_countCall context env o fun visit member =>
    p.like_of_isConsistent visit.1 visit.2 (consistent visit member)
  rw [judge_of_parse _ env name, judge_of_parse _ env call, truth, truth, verdict_like like]

theorem counts_agree_of_column :
    let path : CollectionPath := ⟨false, 1, "Columns", by decide⟩
    let sales : ModelObject := ⟨"Sales", .table, {}, none, none⟩
    let amount : ModelObject := ⟨"Amount", .dataColumn, {}, none, some "Sales"⟩
    let env : Env := ⟨Index.ofObjects [sales, amount], none⟩
    let context : Context := .left "=" .here (.literal (.int 1))
    (∀ visit ∈ context.visits env amount, path.isConsistent visit.1 visit.2 = true) ∧
      parse "Table.Columns.Count = 1" = .ok (context.fill path.countName) ∧
      parse "Table.Columns.Count() = 1" = .ok (context.fill path.countCall) ∧
      (judge (.text "Table.Columns.Count = 1") (some amount) env).result =
        (judge (.text "Table.Columns.Count() = 1") (some amount) env).result := by
  intro path sales amount env context
  have consistent : ∀ visit ∈ context.visits env amount, path.isConsistent visit.1 visit.2 = true := by
    intro visit member
    obtain rfl := List.mem_singleton.1 member
    decide
  have name : parse "Table.Columns.Count = 1" = .ok (context.fill path.countName) :=
    (parse_ofList _).trans (by with_unfolding_all rfl)
  have call : parse "Table.Columns.Count() = 1" = .ok (context.fill path.countCall) :=
    (parse_ofList _).trans (by with_unfolding_all rfl)
  exact ⟨consistent, name, call, path.counts_agree.2.2.2 context env amount consistent _ _ name call⟩

/-- A column of a table that is not there, and the predicate of a relationship of it. -/
theorem counts_differ :
    let columns : CollectionPath := ⟨false, 1, "Columns", by decide⟩
    let uses : CollectionPath := ⟨true, 0, "UsedInRelationships", by decide⟩
    let column : ModelObject := ⟨"c", .dataColumn, {}, none, some "Gone"⟩
    let link : ModelObject := ⟨"link", .relationship, {}, none, none⟩
    let c : Index := .ofObjects [column, link]
    let inside : Env := ⟨c, some ⟨"Gone", some column⟩⟩
    ¬Agree (eval columns.countName ⟨c, none⟩ (some column)).result
        (eval columns.countCall ⟨c, none⟩ (some column)).result ∧
      ¬Agree (eval uses.countName inside (some link)).result (eval uses.countCall inside (some link)).result := by
  intro columns uses column link c inside
  rw [agree_iff, agree_iff]
  decide

end

end CollectionPath

end TabularAudit.Expr
