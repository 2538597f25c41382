import TabularAudit.Expr.Meaning

/-!
The truth of an expression from the values, or the truth, of its parts.
-/

namespace TabularAudit.Expr

variable {env : Env} {o : ModelObject} {obj : Option ModelObject} {c : Index} {node left right : Node} {v w : Value}
  {a b : Bool}

theorem truth_of_eval (value : (eval node env obj).result = .ok v) : (truth node env obj).result = .ok v.holds := by
  simp only [truth, verdict, value]

theorem holds_of_truth {s : String} (parsed : parse s = .ok node)
    (value : (truth node ⟨c, none⟩ (some o)).result = .ok b) : holds (.text s) o c = b := by
  simp only [holds, judge, parsed, Outcome.ofTraced, value]

theorem holds_of_eval_eq_ok {s : String} (parsed : parse s = .ok node)
    (value : (eval node ⟨c, none⟩ (some o)).result = .ok v) : holds (.text s) o c = v.holds :=
  holds_of_truth parsed (truth_of_eval value)

theorem holds_of_eval_eq_error {s : String} {fault : Fault} (parsed : parse s = .ok node)
    (failed : (eval node ⟨c, none⟩ (some o)).result = .error fault) : holds (.text s) o c = false := by
  simp only [holds, judge, parsed, truth, verdict, failed]
  cases fault <;> rfl

theorem not_holds_of_fault {s : String} {fault : Fault} (parsed : parse s = .ok node)
    (failed : (truth node ⟨c, none⟩ (some o)).result = .error fault) : holds (.text s) o c = false := by
  simp only [holds, judge, parsed, Outcome.ofTraced, failed]

section
variable {symbol : String}

theorem verdict_supported (obj : Option ModelObject) (x : Traced Value) (reason : Unsupported) :
    (verdict obj x).result ≠ .error (.unsupported reason) := by
  obtain ⟨result, log⟩ := x
  cases result with
  | ok v => exact nofun
  | error fault => cases fault <;> cases obj <;> exact nofun

theorem pure_supported {α : Type} (a : α) (reason : Unsupported) :
    (pure a : Traced α).result ≠ .error (.unsupported reason) := by
  rw [Traced.result_pure]
  intro failed
  cases failed

theorem bind_supported {α β : Type} {x : Traced α} {f : α → Traced β}
    (first : ∀ reason, x.result ≠ .error (.unsupported reason))
    (next : ∀ a reason, (f a).result ≠ .error (.unsupported reason)) (reason : Unsupported) :
    (x >>= f).result ≠ .error (.unsupported reason) := by
  rw [Traced.result_bind]
  cases found : x.result with
  | ok a => exact next a reason
  | error fault => exact fun failed => first reason (found.trans (congrArg Except.error (Except.error.inj failed)))

theorem verdict_bool {x : Traced Bool} (supported : ∀ reason, x.result ≠ .error (.unsupported reason))
    (f : Bool → Bool) :
    verdict obj (x >>= fun b => pure (Value.bool (f b))) = ⟨x.result.map f, x.log⟩ := by
  obtain ⟨result, log⟩ := x
  cases result with
  | ok b => exact congrArg (Traced.mk _) (List.append_nil log)
  | error fault =>
      cases fault with
      | unsupported reason => exact absurd rfl (supported reason)
      | _ => cases obj <;> rfl

theorem verdict_self {x : Traced Bool} (supported : ∀ reason, x.result ≠ .error (.unsupported reason)) :
    verdict obj (x >>= fun b => pure (Value.bool b)) = x := by
  refine (verdict_bool supported id).trans ?_
  obtain ⟨result, log⟩ := x
  cases result <;> rfl

theorem truth_not (node : Node) (env : Env) (obj : Option ModelObject) :
    truth (.not node) env obj = ⟨(truth node env obj).result.map (!·), (truth node env obj).log⟩ := by
  rw [truth, eval]
  exact verdict_bool (verdict_supported obj (eval node env obj)) (!·)

/-- A comparison says what the relation says of the two values, if it has a meaning for them. -/
theorem truth_compared (first : (eval left env obj).result = .ok v) (second : (eval right env obj).result = .ok w)
    (supported : ∀ reason, compare symbol v w ≠ .error (.unsupported reason)) :
    truth (.comparison symbol left right) env obj =
      ⟨compare symbol v w, (eval left env obj).log ++ (eval right env obj).log⟩ := by
  have value : eval (.comparison symbol left right) env obj =
      (⟨compare symbol v w, (eval left env obj).log ++ (eval right env obj).log⟩ : Traced Bool) >>=
        fun b => pure (Value.bool b) := by
    rw [eval, Traced.bind_of_ok first, Traced.bind_of_ok second]
    -- Only a Boolean that is returned adds an empty log of its own.
    generalize compare symbol v w = answer
    cases answer with
    | error fault => exact congrArg (Traced.mk _ <| _ ++ ·) (List.append_nil _)
    | ok b => exact congrArg (Traced.mk _) (List.append_assoc _ _ []).symm
  rw [truth, value]
  exact verdict_self supported

theorem truth_comparison (first : (eval left env obj).result = .ok v) (second : (eval right env obj).result = .ok w)
    (compared : compare symbol v w = .ok b) : (truth (.comparison symbol left right) env obj).result = .ok b := by
  have supported : ∀ reason, compare symbol v w ≠ .error (.unsupported reason) := by
    rw [compared]
    exact nofun
  rw [truth_compared first second supported, compared]

end

theorem allHold_supported (ns : List Node) :
    ∀ reason, (allHold ns env obj).result ≠ .error (.unsupported reason) := by
  induction ns with
  | nil => exact pure_supported true
  | cons n ns ih =>
      rw [allHold]
      refine bind_supported (verdict_supported obj _) fun b => ?_
      cases b with
      | false => exact pure_supported false
      | true => exact ih

theorem anyHolds_supported (ns : List Node) :
    ∀ reason, (anyHolds ns env obj).result ≠ .error (.unsupported reason) := by
  induction ns with
  | nil => exact pure_supported false
  | cons n ns ih =>
      rw [anyHolds]
      refine bind_supported (verdict_supported obj _) fun b => ?_
      cases b with
      | false => exact ih
      | true => exact pure_supported true

theorem truth_conjunction (ns : List Node) (env : Env) (obj : Option ModelObject) :
    truth (.all ns) env obj = allHold ns env obj := by
  rw [truth, eval]
  exact verdict_self (allHold_supported ns)

theorem truth_disjunction (ns : List Node) (env : Env) (obj : Option ModelObject) :
    truth (.any ns) env obj = anyHolds ns env obj := by
  rw [truth, eval]
  exact verdict_self (anyHolds_supported ns)

theorem truth_all (first : (truth left env (some o)).result = .ok a)
    (second : (truth right env (some o)).result = .ok b) :
    (truth (.all [left, right]) env (some o)).result = .ok (a && b) := by
  have last : (allHold [right] env (some o)).result = .ok b := by
    rw [allHold, Traced.result_bind, ← truth, second]
    cases b <;> rfl
  rw [truth_conjunction, allHold, Traced.result_bind, ← truth, first]
  cases a with
  | false => rfl
  | true => exact last

theorem truth_all_of_fault {fault : Fault} (failed : (truth left env obj).result = .error fault) (others : List Node) :
    (truth (.all (left :: others)) env obj).result = .error fault := by
  rw [truth_conjunction, allHold, Traced.result_bind, ← truth, failed]
  rfl

theorem result_any {test : ModelObject → Traced Bool} {meaning : ModelObject → Bool} {rs : List ModelObject}
    (tested : ∀ r ∈ rs, (test r).result = .ok (meaning r)) : (Traced.any test rs).result = .ok (rs.any meaning) := by
  induction rs with
  | nil => rfl
  | cons r rs ih =>
      have others := ih fun r member => tested r (List.mem_cons_of_mem _ member)
      rw [Traced.any, Traced.result_bind, tested r List.mem_cons_self, List.any_cons]
      cases meaning r with
      | true => rfl
      | false => exact others

theorem any_supported {test : ModelObject → Traced Bool}
    (supported : ∀ r reason, (test r).result ≠ .error (.unsupported reason)) (rs : List ModelObject) :
    ∀ reason, (Traced.any test rs).result ≠ .error (.unsupported reason) := by
  induction rs with
  | nil => exact pure_supported false
  | cons r rs ih =>
      rw [Traced.any]
      refine bind_supported (supported r) fun b => ?_
      cases b with
      | true => exact pure_supported true
      | false => exact ih

theorem truth_scan (predicate : Node) (env : Env) (o : ModelObject) :
    truth (.method (.name "UsedInRelationships" []) "Any" [predicate]) env (some o) =
      Traced.any (fun r => truth predicate { env with current := some ⟨currentName o, some o⟩ } (some r))
        (env.index.relationshipsOf o) := by
  have call : invocation (.name "UsedInRelationships" []) "Any" 1 = .relationships := by decide
  rw [truth, eval, List.length_singleton, call]
  simp only [holdsForAny]
  exact verdict_self (any_supported (fun r => verdict_supported _ _) _)

theorem truth_relationships {predicate : Node} {meaning : ModelObject → Bool}
    (tested : ∀ r ∈ env.index.relationshipsOf o,
      (truth predicate { env with current := some ⟨currentName o, some o⟩ } (some r)).result = .ok (meaning r)) :
    (truth (.method (.name "UsedInRelationships" []) "Any" [predicate]) env (some o)).result =
      .ok ((env.index.relationshipsOf o).any meaning) :=
  (congrArg Traced.result (truth_scan predicate env o)).trans (result_any tested)

/-- A predicate that fails on the first relationship is not asked of the others. -/
theorem truth_relationships_of_fault {predicate : Node} {r : ModelObject} {fault : Fault}
    (first : (env.index.relationshipsOf o).head? = some r)
    (failed : (truth predicate { env with current := some ⟨currentName o, some o⟩ } (some r)).result = .error fault) :
    (truth (.method (.name "UsedInRelationships" []) "Any" [predicate]) env (some o)).result = .error fault := by
  obtain ⟨others, relationships⟩ := List.head?_eq_some_iff.1 first
  rw [truth_scan, relationships, Traced.any, Traced.result_bind, failed]
  rfl

theorem eval_literal (v : Value) : (eval (.literal v) env obj).result = .ok v := by
  rw [eval, Traced.result_pure]

theorem eval_property {name : String} (noCurrent : name ≠ "current") :
    (eval (.name name []) env (some o)).result = .ok (readProperty o name) := by
  rw [eval, Traced.result_ofResult, denote, if_neg (by simp), if_neg noCurrent]
  rfl

theorem eval_currentName {reference : Reference} (known : env.current = some reference) :
    (eval (.name "current" ["Name"]) env (some o)).result = .ok (.text reference.name) := by
  rw [eval, Traced.result_ofResult, denote, if_neg (by decide), if_pos rfl, known]
  rfl

theorem eval_member (env : Env) (o : ModelObject) {family : String} (known : families.contains family = true)
    (member : String) : (eval (.name family [member]) env (some o)).result = .ok (.enum family member) := by
  rw [eval, Traced.result_ofResult, denote, known]
  rfl

theorem readProperty_eq_get {name : String} (plain : name ∉ ["Expression", "ObjectType", "ObjectTypeName"])
    (noFlag : isFlagName name = false) : readProperty o name = o.properties.get name := by
  simp only [List.mem_cons, List.not_mem_nil, or_false, not_or] at plain
  rw [readProperty, if_neg plain.1, storedProperty, Bag.get]
  cases o.properties.find? name with
  | some v => rfl
  | none => simp [plain, noFlag]

theorem readProperty_flag {name : String} (plain : name ∉ ["Expression", "ObjectType", "ObjectTypeName"])
    (flag : isFlagName name = true) : readProperty o name = (o.properties.find? name).getD (.bool false) := by
  simp only [List.mem_cons, List.not_mem_nil, or_false, not_or] at plain
  rw [readProperty, if_neg plain.1, storedProperty]
  cases o.properties.find? name with
  | some v => rfl
  | none => simp [plain, flag]

end TabularAudit.Expr
