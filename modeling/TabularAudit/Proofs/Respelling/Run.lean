import TabularAudit.Proofs.Expr.Similar
import TabularAudit.Proofs.Respelling.Snapshot
import TabularAudit.Proofs.Run.Pool

/-! Objects that agree one by one are told apart by no rule, so a respelled snapshot is audited in the same way. -/

namespace TabularAudit

namespace ModelObject

variable {r s o p : ModelObject} {os ps : List ModelObject}

theorem Agrees.endsOn (ends : r.Agrees s) (agrees : o.Agrees p) (side : Side) :
    r.endsOn side o = s.endsOn side p := by
  rw [ModelObject.endsOn, ModelObject.endsOn, ends.endTable, ends.endColumn, agrees.kind, agrees.shortName, agrees.table]

theorem find?_rel {f g : ModelObject → Bool} (agree : List.Forall₂ Agrees os ps)
    (same : ∀ o p, o.Agrees p → f o = g p) : Option.Rel Agrees (os.find? f) (ps.find? g) := by
  induction agree with
  | nil => exact .none
  | cons head tail ih =>
      rw [List.find?_cons, List.find?_cons, same _ _ head]
      split
      · exact .some head
      · exact ih

end ModelObject

namespace Index

variable {os ps : List ModelObject} {o p : ModelObject} {c d : Index}

theorem forall₂_ofKind (agree : List.Forall₂ ModelObject.Agrees os ps) (k : Kind) :
    List.Forall₂ ModelObject.Agrees (ofKind os k) (ofKind ps k) := by
  apply ModelObject.forall₂_filter agree
  intro o p agrees
  rw [agrees.kind]

theorem namedEnds_eq (agree : List.Forall₂ ModelObject.Agrees os ps) : namedEnds os = namedEnds ps := by
  induction agree with
  | nil => rfl
  | cons head tail ih =>
      rw [namedEnds, namedEnds, List.flatMap_cons, List.flatMap_cons, head.endTable, head.endColumn]
      exact congrArg _ ih

theorem reads_eq (agrees : o.Agrees p) : reads o = reads p := by
  funext property word
  rw [reads, reads, agrees.get_eq]

theorem aggregatesOf_eq (agree : List.Forall₂ ModelObject.Agrees os ps) : aggregatesOf os = aggregatesOf ps := by
  have tables := ModelObject.length_filter_eq agree (f := (·.kind.isTable)) fun o p agrees => by rw [agrees.kind]
  have columns := ModelObject.length_filter_eq agree (f := (·.kind.isColumn)) fun o p agrees => by rw [agrees.kind]
  have kinds := fun k => (forall₂_ofKind agree k).length_eq
  have relationships := forall₂_ofKind agree .relationship
  have bidirectional := ModelObject.length_filter_eq relationships (f := isBidirectional) (g := isBidirectional)
    fun o p agrees => by rw [isBidirectional, isBidirectional, reads_eq agrees]
  have manyToMany := ModelObject.length_filter_eq relationships (f := isManyToMany) (g := isManyToMany)
    fun o p agrees => by rw [isManyToMany, isManyToMany, reads_eq agrees]
  have inactive := ModelObject.length_filter_eq relationships (f := isInactive) (g := isInactive)
    fun o p agrees => by rw [isInactive, isInactive, agrees.get_eq]
  simp only [aggregatesOf, tables, columns, kinds, bidirectional, manyToMany, inactive]

theorem modelNameOf_eq (agree : List.Forall₂ ModelObject.Agrees os ps) : modelNameOf os = modelNameOf ps := by
  have models := List.rel_reverse (forall₂_ofKind agree .model)
  rw [modelNameOf, modelNameOf, ← List.head?_reverse, ← List.head?_reverse]
  generalize (ofKind os .model).reverse = x at models ⊢
  generalize (ofKind ps .model).reverse = y at models ⊢
  cases models with
  | nil => rfl
  | cons last _ => exact last.name

def AgreesUnder (e f : String × ModelObject) : Prop := e.1 = f.1 ∧ e.2.Agrees f.2

theorem forall₂_indexTable {ts us : List (String × ModelObject)} (agree : List.Forall₂ AgreesUnder ts us)
    (table : o.Agrees p) : List.Forall₂ AgreesUnder (indexTable ts o) (indexTable us p) := by
  induction agree with
  | nil => exact .cons ⟨table.shortName, table⟩ .nil
  | cons head tail ih =>
      obtain ⟨name, agrees⟩ := head
      rw [indexTable, indexTable, name, table.shortName]
      split
      · exact .cons ⟨rfl, table⟩ tail
      · exact .cons ⟨rfl, agrees⟩ ih

theorem lookup_rel {ts us : List (String × ModelObject)} (agree : List.Forall₂ AgreesUnder ts us) (name : String) :
    Option.Rel ModelObject.Agrees (ts.lookup name) (us.lookup name) := by
  induction agree with
  | nil => exact .none
  | cons head tail ih =>
      obtain ⟨same, table⟩ := head
      rw [List.lookup_cons, List.lookup_cons, same]
      split
      · exact .some table
      · exact ih

structure Agrees (c d : Index) : Prop where
  columns : List.Forall₂ ModelObject.Agrees c.columns d.columns
  measures : List.Forall₂ ModelObject.Agrees c.measures d.measures
  relationships : List.Forall₂ ModelObject.Agrees c.relationships d.relationships
  tableEnds : c.tableEnds = d.tableEnds
  columnEnds : c.columnEnds = d.columnEnds
  tablesByName : List.Forall₂ AgreesUnder c.tablesByName d.tablesByName
  aggregates : c.aggregates = d.aggregates
  modelName : c.modelName = d.modelName

theorem agrees_ofObjects (agree : List.Forall₂ ModelObject.Agrees os ps) : (ofObjects os).Agrees (ofObjects ps) where
  columns := ModelObject.forall₂_filter agree fun o p agrees => by rw [agrees.kind]
  measures := forall₂_ofKind agree .measure
  relationships := forall₂_ofKind agree .relationship
  tableEnds := by simp only [ofObjects, namedEnds_eq (forall₂_ofKind agree .relationship)]
  columnEnds := by simp only [ofObjects, namedEnds_eq (forall₂_ofKind agree .relationship)]
  tablesByName := by
    have tables := ModelObject.forall₂_filter agree (f := (·.kind.isTable)) fun o p agrees => by rw [agrees.kind]
    apply List.rel_foldl ?_ List.Forall₂.nil tables
    intro ts us entries o p
    exact forall₂_indexTable entries
  aggregates := aggregatesOf_eq agree
  modelName := modelNameOf_eq agree

theorem Agrees.table? (agrees : c.Agrees d) (name : String) :
    Option.Rel ModelObject.Agrees (Index.table? (c) name) (Index.table? (d) name) :=
  lookup_rel agrees.tablesByName name

theorem Agrees.column? (agrees : c.Agrees d) (table name : Value) :
    Option.Rel ModelObject.Agrees (Index.column? (c) table name) (Index.column? (d) table name) := by
  apply ModelObject.find?_rel agrees.columns
  intro o p same
  rw [same.table, same.shortName]

theorem Agrees.similar (agrees : c.Agrees d) : c.Similar ModelObject.Agrees d where
  agrees := id
  usageCount object := by
    rw [Expr.usageCount, Expr.usageCount, object.kind, object.shortName, object.table, agrees.tableEnds,
      agrees.columnEnds]
  isUsed object := by
    rw [Expr.isUsed, Expr.isUsed, columnInRelationships, columnInRelationships, object.kind, object.shortName,
      object.table, agrees.tableEnds, agrees.columnEnds]
  owner object := by
    rw [object.table]
    exact agrees.table? _
  ends object _ name := by
    rw [Expr.endObject?.eq_def, Expr.endObject?.eq_def, object.endTable, object.endColumn]
    split
    · exact agrees.table? _
    · exact agrees.table? _
    · exact agrees.column? _ _
    · exact agrees.column? _ _
    · exact .none
  members object name := by
    rw [Expr.members?, Expr.members?, object.kind, object.shortName]
    split
    · rfl
    · split
      · exact congrArg some (ModelObject.length_owned_eq agrees.columns _)
      · split
        · exact congrArg some (ModelObject.length_owned_eq agrees.measures _)
        · rfl
  relationships object := by
    apply ModelObject.forall₂_filter agrees.relationships
    intro r s same
    simp only [same.endsOn object]

end Index

section
variable {os ps : List ModelObject} {o p : ModelObject} {c d : Index}

theorem Expr.holds_of_agrees (agrees : c.Agrees d) (object : o.Agrees p) (expression : Value) :
    holds expression o c = holds expression p d :=
  congrArg Outcome.result (judge_eq agrees.similar object expression)

namespace Rule

variable (r : Rule)

theorem thresholdFindings_of_agrees (agrees : c.Agrees d) : r.thresholdFindings c = r.thresholdFindings d := by
  have counts : r.count c = r.count d := by simp only [count, Index.aggregate?, agrees.aggregates]
  rw [thresholdFindings, thresholdFindings, counts, agrees.modelName]

theorem objectFinding?_of_agrees (agrees : c.Agrees d) (object : o.Agrees p) :
    r.objectFinding? c o = r.objectFinding? d p := by
  rw [objectFinding?, objectFinding?, Expr.holds_of_agrees agrees object, object.name, object.kind]

theorem filterMap_objectFinding_of_agrees (agrees : c.Agrees d) (agree : List.Forall₂ ModelObject.Agrees os ps) :
    os.filterMap (r.objectFinding? c) = ps.filterMap (r.objectFinding? d) := by
  induction agree with
  | nil => rw [List.filterMap_nil, List.filterMap_nil]
  | cons head tail ih => rw [List.filterMap_cons, List.filterMap_cons, r.objectFinding?_of_agrees agrees head, ih]

theorem objectFindings_of_agrees (agrees : c.Agrees d) (agree : List.Forall₂ ModelObject.Agrees os ps) :
    r.objectFindings os c = r.objectFindings ps d := by
  rw [objectFindings, objectFindings, Scope.select, Scope.select]
  cases Scope.ofValue r.scope with
  | error fault => simp only [Except.map, Bind.bind, Except.bind]
  | ok kinds =>
      have selected : List.Forall₂ ModelObject.Agrees (os.filter fun o => kinds.contains o.kind.text)
          (ps.filter fun o => kinds.contains o.kind.text) := by
        apply ModelObject.forall₂_filter agree
        intro o p object
        rw [object.kind]
      simp only [Except.map, r.filterMap_objectFinding_of_agrees agrees selected, Bind.bind, Except.bind]

theorem findings_of_agrees (agrees : c.Agrees d) (agree : List.Forall₂ ModelObject.Agrees os ps) :
    r.findings os c = r.findings ps d := by
  rw [findings, findings, r.thresholdFindings_of_agrees agrees, r.objectFindings_of_agrees agrees agree]

end Rule

theorem Run.ofRules_eq (agree : List.Forall₂ ModelObject.Agrees os ps) (rules : List Rule) :
    ofRules rules os = ofRules rules ps := by
  have attempts : Attempt.ofRule os (Index.ofObjects os) = Attempt.ofRule ps (Index.ofObjects ps) := by
    funext r
    rw [Attempt.ofRule, Attempt.ofRule, r.findings_of_agrees (Index.agrees_ofObjects agree) agree]
  rw [ofRules, ofRules, attempts]

end

namespace Snapshot

/-- The findings, the skipped rules and the number of evaluated rules do not depend on the spelling of the keys,
nor on how many workers evaluate the rules and when they finish. -/
theorem respelling_keeps_run {snapshot snapshot' : Value} (respelled : Respelled snapshot snapshot') :
    Alike (fun os ps => List.Forall₂ ModelObject.Agrees os ps ∧ ∀ rules workers order workers' order',
      Run.ofRulesWith workers order rules os = Run.ofRulesWith workers' order' rules ps)
      (objects snapshot) (objects snapshot') := by
  have read := alike_objects respelled
  generalize objects snapshot = x at read ⊢
  generalize objects snapshot' = y at read ⊢
  cases read with
  | error fault => exact .error fault
  | ok agree =>
      refine .ok ⟨agree, ?_⟩
      intro rules workers order workers' order'
      rw [Run.ofRulesWith_eq_ofRules, Run.ofRulesWith_eq_ofRules, Run.ofRules_eq agree]

theorem respelling_keeps_run_of_capitals :
    let snapshot : Value := .map [("tables", .list [.map [("name", .text "Sales")]])]
    let snapshot' : Value := .map [("Tables", .list [.map [("[NAME]", .text "Sales")]])]
    Respelled snapshot snapshot' ∧ (objects snapshot).isOk = true ∧
      Alike (fun os ps => List.Forall₂ ModelObject.Agrees os ps ∧ ∀ rules workers order workers' order',
        Run.ofRulesWith workers order rules os = Run.ofRulesWith workers' order' rules ps)
        (objects snapshot) (objects snapshot') := by
  intro snapshot snapshot'
  have small : Text.SameLetters "name" "NAME" := by
    unfold Text.SameLetters
    decide
  have capital : Text.SameLetters "tables" "Tables" := by
    unfold Text.SameLetters
    decide
  have record : Record.Respelled (.map [("name", .text "Sales")]) (.map [("[" ++ "NAME" ++ "]", .text "Sales")]) :=
    .keys (.cons ⟨.bracketed (by decide) small, rfl⟩ .nil)
  have records : RespelledSection (Bag.fold "tables") (.list [.map [("name", .text "Sales")]])
      (.list [.map [("[NAME]", .text "Sales")]]) := .records (by decide) (.cons record .nil)
  have respelled : Respelled snapshot snapshot' := .keys (.cons ⟨capital, records⟩ .nil)
  exact ⟨respelled, by decide, respelling_keeps_run respelled⟩

end Snapshot

end TabularAudit
