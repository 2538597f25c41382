import TabularAudit.Expr.Meaning
import TabularAudit.Model.Respelling

/-!
What an expression can tell apart. If two indexes answer alike about related objects, every expression has one
value for an object in the one index and for a related object in the other.
-/

namespace TabularAudit

namespace ModelObject

variable {o p : ModelObject}

theorem Agrees.find?_eq (agrees : o.Agrees p) : o.properties.find? = p.properties.find? := funext agrees.properties

theorem Agrees.get_eq (agrees : o.Agrees p) : o.properties.get = p.properties.get := by
  funext name
  rw [Bag.get, Bag.get, agrees.properties]

theorem Agrees.shortName (agrees : o.Agrees p) : o.shortName = p.shortName := by
  rw [ModelObject.shortName, ModelObject.shortName, agrees.get_eq, agrees.name]

theorem Agrees.endTable (agrees : o.Agrees p) : o.endTable = p.endTable := by
  funext side
  rw [ModelObject.endTable, ModelObject.endTable, agrees.get_eq]

theorem Agrees.endColumn (agrees : o.Agrees p) : o.endColumn = p.endColumn := by
  funext side
  rw [ModelObject.endColumn, ModelObject.endColumn, agrees.get_eq]

end ModelObject

/-- What the look-ups of two indexes say about related objects, and that the objects they lead to are related. -/
structure Index.Matches (R : ModelObject → ModelObject → Prop) (c d : Index) : Prop where
  agrees : ∀ {o p}, R o p → o.Agrees p
  usageCount : ∀ {o p}, R o p → Expr.usageCount c o = Expr.usageCount d p
  isUsed : ∀ {o p}, R o p → Expr.isUsed c o = Expr.isUsed d p
  owner : ∀ {o p}, R o p → Option.Rel R (c.table? (o.table.getD "")) (d.table? (p.table.getD ""))
  ends : ∀ {o p}, R o p → o.kind = .relationship → ∀ name,
    Option.Rel R (Expr.endObject? c o name) (Expr.endObject? d p name)
  members : ∀ {o p}, R o p → ∀ name,
    (Expr.members? c o name).map List.length = (Expr.members? d p name).map List.length

structure Index.Similar (R : ModelObject → ModelObject → Prop) (c d : Index) : Prop extends c.Matches R d where
  relationships : ∀ {o p}, R o p → List.Forall₂ R (c.relationshipsOf o) (d.relationshipsOf p)

namespace Expr

variable {R : ModelObject → ModelObject → Prop} {c d : Index} {o p : ModelObject}

theorem storedProperty_eq (agrees : o.Agrees p) : storedProperty o = storedProperty p := by
  funext name
  rw [storedProperty, storedProperty, agrees.properties, agrees.kind]

theorem readProperty_eq (agrees : o.Agrees p) : readProperty o = readProperty p := by
  funext name
  rw [readProperty, readProperty, agrees.expression, storedProperty_eq agrees]

theorem joinedProperty?_eq (agrees : o.Agrees p) : joinedProperty? o = joinedProperty? p := by
  funext parts
  rw [joinedProperty?, joinedProperty?, agrees.find?_eq]

theorem currentName_eq (agrees : o.Agrees p) : currentName o = currentName p := by
  rw [currentName, currentName, agrees.kind, agrees.shortName, agrees.table]

theorem endProperty?_eq (same : c.Matches R d) (related : R o p) : endProperty? c o = endProperty? d p := by
  have agrees := same.agrees related
  funext parts
  match parts with
  | [owner, name] =>
      have found : o.kind = .relationship → (endObject? c o owner).map (fun found => readProperty found name) =
          (endObject? d p owner).map fun found => readProperty found name := by
        intro kind
        have ends := same.ends related kind owner
        generalize endObject? c o owner = x at ends ⊢
        generalize endObject? d p owner = y at ends ⊢
        cases ends with
        | none => rfl
        | some related => rw [Option.map_some, Option.map_some, readProperty_eq (same.agrees related)]
      rw [endProperty?, endProperty?, agrees.find?_eq, ← agrees.kind]
      by_cases kind : o.kind = .relationship
      · rw [if_pos kind, if_pos kind, found kind]
      · rw [if_neg kind, if_neg kind]
  | [] => rfl
  | [_] => rfl
  | _ :: _ :: _ :: _ => rfl

theorem memberCount_eq (same : c.Matches R d) (related : R o p) : memberCount c o = memberCount d p := by
  have agrees := same.agrees related
  funext name
  have stored : storedCount? o name = storedCount? p name := by
    rw [storedCount?, storedCount?, agrees.find?_eq]
  have lengths := same.members related name
  rw [memberCount, memberCount, same.usageCount related, stored, agrees.get_eq]
  generalize members? c o name = x at lengths ⊢
  generalize members? d p name = y at lengths ⊢
  split
  · rfl
  · cases storedCount? p name with
    | some v => rfl
    | none =>
        match x, y with
        | none, none => rfl
        | none, some ps => cases lengths
        | some os, none => cases lengths
        | some os, some ps =>
            have equal : os.length = ps.length := Option.some.inj lengths
            cases p.properties.get name <;> simp only [equal]

theorem sizeAt_eq {obj obj' : Option ModelObject} (same : c.Matches R d) (related : Option.Rel R obj obj')
    (path : List String) : sizeAt c obj path = sizeAt d obj' path := by
  induction path generalizing obj obj' with
  | nil => rfl
  | cons head rest ih =>
      cases related with
      | none =>
          cases rest with
          | nil => rfl
          | cons => rfl
      | some related =>
          cases rest with
          | nil => exact congrFun (memberCount_eq same related) head
          | cons part rest =>
              have owner := same.owner related
              rw [sizeAt, sizeAt]
              split
              · simp only [receiver, Bind.bind, Except.bind]
                generalize c.table? _ = x at owner ⊢
                generalize d.table? _ = y at owner ⊢
                cases owner with
                | none => rfl
                | some related => exact ih (.some related)
              · rfl
              · simp
              · simp

theorem hasMembers_eq {obj obj' : Option ModelObject} (same : c.Matches R d) (related : Option.Rel R obj obj')
    (path : List String) : hasMembers c obj path = hasMembers d obj' path := by
  rw [hasMembers, hasMembers, sizeAt_eq same related]
  cases related with
  | none => rfl
  | some related => simp only [receiver, Bind.bind, Except.bind, same.isUsed related]

structure Env.Matches (R : ModelObject → ModelObject → Prop) (env env' : Env) : Prop where
  index : env.index.Matches R env'.index
  current : Option.Rel (fun a b => a.name = b.name ∧ Option.Rel R a.object b.object) env.current env'.current

theorem denote_eq {env env' : Env} {obj obj' : Option ModelObject} (matching : env.Matches R env')
    (related : Option.Rel R obj obj') (head : String) (rest : List String) :
    denote env obj head rest = denote env' obj' head rest := by
  rw [denote.eq_def env obj, denote.eq_def env' obj']
  -- The name loses its first part behind `current` and `Table`, and its last part where a length is asked for.
  by_cases enum : (families.contains head && rest.length == 1) = true
  · rw [if_pos enum, if_pos enum]
  rw [if_neg enum, if_neg enum]
  by_cases current : head = "current"
  · rw [if_pos current, if_pos current]
    have later : Env.Matches R { env with current := none } { env' with current := none } := ⟨matching.index, .none⟩
    have references := matching.current
    generalize env.current = a at references ⊢
    generalize env'.current = b at references ⊢
    cases references with
    | none => rfl
    | some same =>
        obtain ⟨name, objects⟩ := same
        cases rest with
        | nil => simp only [name]
        | cons part parts =>
            simp only [name]
            split
            · rfl
            · generalize Reference.object _ = x at objects ⊢
              generalize Reference.object _ = y at objects ⊢
              cases objects with
              | none => rfl
              | some related => exact denote_eq later (.some related) part parts
  rw [if_neg current, if_neg current]
  cases rest with
  | nil =>
      cases related with
      | none => rfl
      | some related => simp only [receiver, Bind.bind, Except.bind, readProperty_eq (matching.index.agrees related)]
  | cons part parts =>
      by_cases table : head = "Table"
      · simp only [if_pos table]
        cases related with
        | none => rfl
        | some related =>
            have owner := matching.index.owner related
            simp only [receiver, Bind.bind, Except.bind, (matching.index.agrees related).table] at owner ⊢
            split
            · rfl
            · generalize env.index.table? _ = x at owner ⊢
              generalize env'.index.table? _ = y at owner ⊢
              cases owner with
              | none => rfl
              | some related => exact denote_eq matching (.some related) part parts
      · simp only [if_neg table, sizeAt_eq matching.index related]
        cases countedCollection? (head :: part :: parts) with
        | some path => rfl
        | none =>
            cases related with
            | none => rfl
            | some related =>
                have shorter := denote_eq matching (.some related) head (part :: parts).dropLast
                simp only [receiver, Bind.bind, Except.bind, joinedProperty?_eq (matching.index.agrees related),
                  endProperty?_eq matching.index related, shorter]
termination_by rest.length
decreasing_by all_goals simp

theorem Env.Matches.withCurrent {env env' : Env} (matching : env.Matches R env') (related : R o p) :
    Env.Matches R { env with current := some ⟨currentName o, some o⟩ }
      { env' with current := some ⟨currentName p, some p⟩ } :=
  ⟨matching.index, .some ⟨currentName_eq (matching.index.agrees related), .some related⟩⟩

structure Env.Similar (R : ModelObject → ModelObject → Prop) (env env' : Env) : Prop extends env.Matches R env' where
  relationships : ∀ {o p}, R o p → List.Forall₂ R (env.index.relationshipsOf o) (env'.index.relationshipsOf p)

theorem verdict_eq {obj obj' : Option ModelObject} (related : Option.Rel R obj obj') (x : Traced Value) :
    verdict obj x = verdict obj' x := by
  obtain ⟨result, log⟩ := x
  cases related with
  | none => rfl
  | some related =>
      cases result with
      | ok v => rfl
      | error fault => cases fault <;> rfl

theorem any_eq {test test' : ModelObject → Traced Bool} {os ps : List ModelObject} (related : List.Forall₂ R os ps)
    (same : ∀ o p, R o p → test o = test' p) : Traced.any test os = Traced.any test' ps := by
  induction related with
  | nil => rfl
  | cons head tail ih => rw [Traced.any, Traced.any, same _ _ head, ih]

mutual

/-- An expression has the same value, and notes the same constructs, for related objects. -/
theorem eval_eq : ∀ (node : Node) {env env' : Env} {obj obj' : Option ModelObject}, env.Similar R env' →
    Option.Rel R obj obj' → eval node env obj = eval node env' obj'
  | .literal v, _, _, _, _, _, _ => by rw [eval, eval]
  | .name head rest, _, _, _, _, similar, related => by rw [eval, eval, denote_eq similar.toMatches related]
  | .member target name, _, _, _, _, similar, related => by rw [eval, eval, eval_eq target similar related]
  | .function name args, _, _, _, _, similar, related => by rw [eval, eval, evalAll_eq args similar related]
  | .method target name args, env, env', obj, obj', similar, related => by
      rw [eval, eval]
      cases invocation target name args.length with
      | pattern => simp only [evalAll_eq args similar related]
      | blank onlyEmpty => simp only [evalAll_eq args similar related]
      | size path => simp only [sizeAt_eq similar.index related]
      | inhabited path => simp only [hasMembers_eq similar.index related]
      | relationships =>
          -- The predicate sees the relationships one by one, with the object itself as the current one.
          cases related with
          | none => rfl
          | some related =>
              have inner : Env.Similar _ _ _ := ⟨similar.withCurrent related, similar.relationships⟩
              have found := holdsForAny_eq args inner (similar.relationships related)
              exact congrArg (fun x => x >>= fun found => pure (Value.bool found)) found
      | refused reason => rfl
      | text => simp only [eval_eq target similar related, evalAll_eq args similar related]
  | .comparison symbol left right, _, _, _, _, similar, related => by
      rw [eval, eval, eval_eq left similar related, eval_eq right similar related]
  | .all operands, _, _, _, _, similar, related => by rw [eval, eval, allHold_eq operands similar related]
  | .any operands, _, _, _, _, similar, related => by rw [eval, eval, anyHolds_eq operands similar related]
  | .not operand, _, _, _, _, similar, related => by
      rw [eval, eval, eval_eq operand similar related, verdict_eq related]
  | .unreadable text, _, _, _, _, _, _ => by rw [eval, eval]

theorem evalAll_eq : ∀ (nodes : List Node) {env env' : Env} {obj obj' : Option ModelObject}, env.Similar R env' →
    Option.Rel R obj obj' → evalAll nodes env obj = evalAll nodes env' obj'
  | [], _, _, _, _, _, _ => by rw [evalAll, evalAll]
  | node :: rest, _, _, _, _, similar, related => by
      rw [evalAll, evalAll, eval_eq node similar related, evalAll_eq rest similar related]

theorem allHold_eq : ∀ (nodes : List Node) {env env' : Env} {obj obj' : Option ModelObject}, env.Similar R env' →
    Option.Rel R obj obj' → allHold nodes env obj = allHold nodes env' obj'
  | [], _, _, _, _, _, _ => by rw [allHold, allHold]
  | node :: rest, _, _, _, _, similar, related => by
      rw [allHold, allHold, eval_eq node similar related, verdict_eq related, allHold_eq rest similar related]

theorem anyHolds_eq : ∀ (nodes : List Node) {env env' : Env} {obj obj' : Option ModelObject}, env.Similar R env' →
    Option.Rel R obj obj' → anyHolds nodes env obj = anyHolds nodes env' obj'
  | [], _, _, _, _, _, _ => by rw [anyHolds, anyHolds]
  | node :: rest, _, _, _, _, similar, related => by
      rw [anyHolds, anyHolds, eval_eq node similar related, verdict_eq related, anyHolds_eq rest similar related]

theorem holdsForAny_eq : ∀ (nodes : List Node) {env env' : Env} {os ps : List ModelObject}, env.Similar R env' →
    List.Forall₂ R os ps → holdsForAny nodes env os = holdsForAny nodes env' ps
  | [], _, _, _, _, _, _ => by rw [holdsForAny, holdsForAny]
  | predicate :: _, env, env', os, ps, similar, related => by
      rw [holdsForAny, holdsForAny]
      apply any_eq related
      intro o p related
      rw [eval_eq predicate similar (.some related), verdict_eq (.some related)]

end

theorem judge_eq (similar : c.Similar R d) (related : R o p) (expression : Value) :
    judge expression (some o) ⟨c, none⟩ = judge expression (some p) ⟨d, none⟩ := by
  have env : Env.Similar R ⟨c, none⟩ ⟨d, none⟩ := ⟨⟨similar.toMatches, .none⟩, similar.relationships⟩
  have value := fun node => eval_eq node env (.some related)
  have truths := fun node => verdict_eq (.some related) (eval node ⟨d, none⟩ (some p))
  cases expression with
  | text s => simp only [judge, truth, value, truths]
  | _ => rfl

end Expr

end TabularAudit
