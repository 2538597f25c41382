import TabularAudit.Proofs.Bundled.Reported
import TabularAudit.Proofs.Expr.Comparison
import TabularAudit.Proofs.RelationshipEnds

/-!
The rule that foreign keys should be hidden. It looks at both ends of a relationship and then only at the table that
the relationship goes out from, so that a relationship of a table with itself takes the key it leads to for a foreign
key as well.
-/

namespace TabularAudit

namespace Expr

def sourceTest : Node :=
  .all [.comparison "==" (.name "FromTable" ["Name"]) (.name "current" ["Name"]),
    .comparison "==" (.name "FromCardinality" []) (.literal (.text "Many"))]

def visibleTest : Node := .comparison "==" (.name "IsHidden" []) (.literal (.bool false))

set_option maxRecDepth 8000 in
theorem exists_parse_hideForeignKeys : ∃ s, Rule.Bundled.hideForeignKeys.expression = .text s ∧
    parse s = .ok (.all [.method (.name "UsedInRelationships" []) "Any" [sourceTest], visibleTest]) := by
  refine ⟨String.ofList _, rfl, (parse_ofList _).trans ?_⟩
  with_unfolding_all rfl

variable {c r : ModelObject} {os : List ModelObject}

theorem truth_sourceTest {env : Env} {reference : Reference} {table : String} (known : env.current = some reference)
    (plain : isNumeral reference.name = false) (stored : r.endTable .source = .text table) :
    (truth sourceTest env (some r)).result = .ok ((r.endLabel .source).isReadAs reference.name &&
      (r.properties.get "FromCardinality").isReadAs "Many") := by
  have cardinality : (eval (.name "FromCardinality" []) env (some r)).result =
      .ok (r.properties.get "FromCardinality") := by
    rw [eval_property (by decide), readProperty_eq_get (by decide) (by decide)]
  exact truth_all
    (truth_comparison (eval_endLabel env .source stored) (eval_currentName known) (compare_word _ plain))
    (truth_comparison cardinality (eval_literal _) (compare_word _ (by decide)))

theorem truth_visibleTest {env : Env} {hidden : Bool} (stored : c.properties.get "IsHidden" = .bool hidden) :
    (truth visibleTest env (some c)).result = .ok !hidden := by
  have flag : (eval (.name "IsHidden" []) env (some c)).result = .ok (.bool hidden) := by
    rw [eval_property (by decide), readProperty_flag (by decide) (by decide), Bag.find?_of_get_eq stored (by simp)]
    rfl
  have compared : compare "==" (.bool hidden) (.bool false) = .ok !hidden := by
    rw [compare_false]
    cases hidden <;> rfl
  exact truth_comparison flag (eval_literal _) compared

theorem any_relationshipsOf_column (named : ∀ r ∈ Index.ofKind os .relationship, r.HasNamedEnds)
    (column : c.kind.isColumn = true) :
    ((Index.ofObjects os).relationshipsOf c).any (fun r => (r.endLabel .source).isReadAs (c.table.getD "") &&
        (r.properties.get "FromCardinality").isReadAs "Many") = true ↔
      ∃ r ∈ Index.ofKind os .relationship, c.LooksForeign r := by
  have ends : ∀ r ∈ Index.ofKind os .relationship, (Side.all.any fun side => r.endsOn side c) = true ↔
      r.endpoint .source = c.ownEndpoint ∨ r.endpoint .target = c.ownEndpoint := by
    intro r member
    simp only [Side.all, List.any_cons, List.any_nil, Bool.or_false, Bool.or_eq_true, endsOn_iff (named r member) column]
  rw [List.any_eq_true]
  constructor
  · rintro ⟨r, inside, looks⟩
    obtain ⟨member, on⟩ := List.mem_filter.1 inside
    obtain ⟨label, many⟩ := Bool.and_eq_true_iff.1 looks
    exact ⟨r, member, (ends r member).1 on, label, many⟩
  · rintro ⟨r, member, looks⟩
    exact ⟨r, List.mem_filter.2 ⟨member, (ends r member).2 looks.ends⟩, Bool.and_eq_true_iff.2 ⟨looks.label, looks.many⟩⟩

theorem holds_hideForeignKeys (column : c.kind.isColumn = true) (plain : isNumeral (c.table.getD "") = false)
    {hidden : Bool} (flag : c.properties.get "IsHidden" = .bool hidden)
    (named : ∀ r ∈ Index.ofKind os .relationship, r.HasNamedEnds)
    (texts : ∀ r ∈ Index.ofKind os .relationship, ∃ t, r.endTable .source = .text t) :
    holds Rule.Bundled.hideForeignKeys.expression c (Index.ofObjects os) = true ↔
      hidden = false ∧ ∃ r ∈ Index.ofKind os .relationship, c.LooksForeign r := by
  obtain ⟨s, text, parsed⟩ := exists_parse_hideForeignKeys
  have current : currentName c = c.table.getD "" := by
    rw [currentName, Kind.isTable_eq_false column, if_neg Bool.false_ne_true]
  have used : (truth (.method (.name "UsedInRelationships" []) "Any" [sourceTest]) ⟨Index.ofObjects os, none⟩
      (some c)).result = .ok (((Index.ofObjects os).relationshipsOf c).any fun r =>
        (r.endLabel .source).isReadAs (c.table.getD "") && (r.properties.get "FromCardinality").isReadAs "Many") := by
    apply truth_relationships
    intro r inside
    obtain ⟨t, stored⟩ := texts r (List.mem_filter.1 inside).1
    rw [truth_sourceTest rfl (by rw [current]; exact plain) stored, current]
  rw [text, holds_of_truth parsed (truth_all used (truth_visibleTest flag)), Bool.and_eq_true,
    any_relationshipsOf_column named column, Bool.not_eq_true', and_comm]

end Expr

section
variable {snapshot : Value} {os : List ModelObject} {given : List Bag}

theorem contains_kinds_columns {k : Kind} (known : ∀ name, k ≠ .other name) :
    (Scope.kinds "DataColumn, CalculatedColumn, CalculatedTableColumn").contains k.text = k.isColumn := by
  have kinds : Scope.kinds "DataColumn, CalculatedColumn, CalculatedTableColumn" = ["DataColumn", "CalculatedColumn"] := by
    decide
  rw [kinds]
  cases k with
  | other name => exact absurd rfl (known name)
  | _ => decide

theorem reported_iff_looksForeign (accepted : Snapshot.objects snapshot = .ok os)
    (records : Snapshot.relationshipRecords snapshot = .ok given) (texts : ∀ b ∈ given, Record.hasTextEnds b = true)
    (tables : ∀ c ∈ os, c.kind.isColumn = true → c.table.any isNumeral = false)
    (flags : ∀ c ∈ os, c.kind.isColumn = true → (c.properties.get "IsHidden").isBool = true) (workers : Int)
    (order : Nat → Nat) :
    ∃ catalog, Catalog.bundled = .ok catalog ∧ ∀ object,
      ("HIDE_FOREIGN_KEYS", object) ∈ (Run.ofRulesWith workers order catalog.rules os).findings.map Finding.key ↔
        ∃ c ∈ os, c.name = object ∧ c.IsVisibleColumn ∧ ∃ r ∈ Index.ofKind os .relationship, c.LooksForeign r := by
  have named := hasNamedEnds_of_accepted accepted
  have sources : ∀ r ∈ Index.ofKind os .relationship, ∃ t, r.endTable .source = .text t := fun r member =>
    Snapshot.exists_text_of_records accepted records texts member .source
  have plain : ∀ c ∈ os, c.kind.isColumn = true → isNumeral (c.table.getD "") = false := by
    intro c member column
    have name := tables c member column
    cases table : c.table with
    | none => decide
    | some t => rwa [table] at name
  have flag : ∀ c ∈ os, c.kind.isColumn = true → ∃ hidden, c.properties.get "IsHidden" = .bool hidden := by
    intro c member column
    have isBool := flags c member column
    cases stored : c.properties.get "IsHidden" with
    | bool hidden => exact ⟨hidden, rfl⟩
    | _ =>
        rw [stored] at isBool
        cases isBool
  obtain ⟨catalog, bundled, reported⟩ := Snapshot.bundled_reports accepted (r := Rule.Bundled.hideForeignKeys)
    (by simp [Rule.Bundled.catalogRules]) ⟨⟨2, rfl⟩, .inl rfl⟩ rfl rfl (fun _ => contains_kinds_columns) workers order
  refine ⟨catalog, bundled, fun object => (reported object).trans ?_⟩
  constructor
  · rintro ⟨c, member, name, column, holds⟩
    obtain ⟨hidden, stored⟩ := flag c member column
    obtain ⟨rfl, looks⟩ := (Expr.holds_hideForeignKeys column (plain c member column) stored named sources).1 holds
    exact ⟨c, member, name, ⟨column, stored⟩, looks⟩
  · rintro ⟨c, member, name, ⟨column, shown⟩, looks⟩
    have holds := (Expr.holds_hideForeignKeys column (plain c member column) shown named sources).2 ⟨rfl, looks⟩
    exact ⟨c, member, name, column, holds⟩

theorem looksForeign_iff {c r : ModelObject} (label : r.endLabel .source = r.endTable .source)
    (texts : ∀ side, ∃ t, r.endTable side = .text t) (apart : r.endTable .source ≠ r.endTable .target)
    (word : Record.IsName (r.properties.get "FromCardinality")) : c.LooksForeign r ↔ c.IsForeignKey r := by
  obtain ⟨t, source⟩ := texts .source
  have labelled : (r.endLabel .source).isReadAs (c.table.getD "") = (t == c.table.getD "") := by rw [label, source]; rfl
  have sourceTable : (r.endpoint .source).table = some t := by rw [ModelObject.endpoint, source]; rfl
  have many : (r.properties.get "FromCardinality").isReadAs "Many" = true ↔
      r.properties.get "FromCardinality" = .text "Many" := by
    rcases word with missing | ⟨s, stored⟩
    · rw [missing]
      decide
    · rw [stored, Value.text.injEq]
      exact beq_iff_eq
  constructor
  · intro looks
    refine ⟨?_, many.1 looks.many⟩
    rcases looks.ends with own | own
    · exact own
    · -- At the other end, the label says that both ends are in one table.
      obtain ⟨u, target⟩ := texts .target
      have table : some u = c.table := by
        have first := congrArg Endpoint.table own
        rwa [ModelObject.endpoint, target] at first
      have same : t = u := by
        have read := looks.label
        rw [labelled, ← table] at read
        exact beq_iff_eq.1 read
      exact absurd (source.trans (same ▸ target.symm)) apart
  · intro key
    refine ⟨.inl key.source, ?_, many.2 key.many⟩
    have table : some t = c.table := by
      rw [← sourceTable, key.source]
      rfl
    rw [labelled, ← table]
    exact beq_self_eq_true t

/-- The rule on foreign keys reports the visible columns at an end of a relationship that goes out, with many rows,
from their own table. It reports the visible foreign keys and no other column if no relationship joins a table with
itself, no end has an alias, and cardinalities are words. -/
theorem hideForeignKeys_reports_iff (accepted : Snapshot.objects snapshot = .ok os)
    (records : Snapshot.relationshipRecords snapshot = .ok given) (texts : ∀ b ∈ given, Record.hasTextEnds b = true)
    (tables : ∀ c ∈ os, c.kind.isColumn = true → c.table.any isNumeral = false)
    (flags : ∀ c ∈ os, c.kind.isColumn = true → (c.properties.get "IsHidden").isBool = true) (workers : Int)
    (order : Nat → Nat) :
    let rs := Index.ofKind os .relationship
    ∃ catalog, Catalog.bundled = .ok catalog ∧
      let keys := (Run.ofRulesWith workers order catalog.rules os).findings.map Finding.key
      (∀ object, ("HIDE_FOREIGN_KEYS", object) ∈ keys ↔
        ∃ c ∈ os, c.name = object ∧ c.IsVisibleColumn ∧ ∃ r ∈ rs, c.LooksForeign r) ∧
      ((∀ b ∈ given, Record.hasEndAlias b = false) → (∀ r ∈ rs, r.endTable .source ≠ r.endTable .target) →
        (∀ r ∈ rs, Record.IsName (r.properties.get "FromCardinality")) →
        ∀ object, ("HIDE_FOREIGN_KEYS", object) ∈ keys ↔
          ∃ c ∈ os, c.name = object ∧ c.IsVisibleColumn ∧ ∃ r ∈ rs, c.IsForeignKey r) := by
  intro rs
  obtain ⟨catalog, bundled, reported⟩ := reported_iff_looksForeign accepted records texts tables flags workers order
  refine ⟨catalog, bundled, reported, ?_⟩
  intro plain apart words object
  have same : ∀ c : ModelObject, (∃ r ∈ rs, c.LooksForeign r) ↔ ∃ r ∈ rs, c.IsForeignKey r := by
    intro c
    refine exists_congr fun r => and_congr_right fun member => ?_
    exact looksForeign_iff (Snapshot.endLabel_of_records accepted records plain member .source)
      (Snapshot.exists_text_of_records accepted records texts member) (apart r member) (words r member)
  simp only [reported object, ← same, rs]

def joinedColumns (fromTable fromColumn toTable toColumn : String) (hidden : Bool) : Value :=
  .map [("columns", .list [
      .map [("Name", .text fromColumn), ("TableName", .text fromTable), ("IsHidden", .bool hidden)],
      .map [("Name", .text toColumn), ("TableName", .text toTable)]]),
    ("relationships", .list [.map [("FromTable", .text fromTable), ("FromColumn", .text fromColumn),
      ("ToTable", .text toTable), ("ToColumn", .text toColumn), ("FromCardinality", .text "Many")]])]

theorem hideForeignKeys_reports_item :
    ∃ os catalog, Snapshot.objects (joinedColumns "Sales" "Item" "Product" "Item" false) = .ok os ∧
      Catalog.bundled = .ok catalog ∧
      let keys := (Run.ofRulesWith 4 id catalog.rules os).findings.map Finding.key
      ("HIDE_FOREIGN_KEYS", "'Sales'[Item]") ∈ keys ∧ ("HIDE_FOREIGN_KEYS", "'Product'[Item]") ∉ keys := by
  -- Every fact compares what is read with what is written here, so that it is cheap to evaluate.
  obtain ⟨os, accepted, checked⟩ := Snapshot.exists_of_accepts (joinedColumns "Sales" "Item" "Product" "Item" false)
    (fun os => decide (
      (∀ c ∈ os, c.kind.isColumn = true → c.table.any isNumeral = false) ∧
      (∀ c ∈ os, c.kind.isColumn = true → (c.properties.get "IsHidden").isBool = true) ∧
      (∃ c ∈ os, c.name = "'Sales'[Item]" ∧ c.IsVisibleColumn ∧ c.ownEndpoint = ⟨some "Sales", some "Item"⟩) ∧
      (∀ c ∈ os, c.name = "'Product'[Item]" → c.ownEndpoint = ⟨some "Product", some "Item"⟩) ∧
      (∃ r ∈ Index.ofKind os .relationship, r.endpoint .source = ⟨some "Sales", some "Item"⟩) ∧
      ∀ r ∈ Index.ofKind os .relationship, r.endTable .source = .text "Sales" ∧ r.endTable .target = .text "Product" ∧
        r.properties.get "FromCardinality" = .text "Many")) (by decide +kernel)
  obtain ⟨tables, flags, ⟨c, column, named, visible, own⟩, product, ⟨r, joined, source⟩, ends⟩ := of_decide_eq_true checked
  have apart : ∀ r ∈ Index.ofKind os .relationship, r.endTable .source ≠ r.endTable .target := by
    intro r member
    rw [(ends r member).1, (ends r member).2.1]
    decide
  obtain ⟨given, records, texts, plain⟩ :=
    Snapshot.exists_plain_records (joinedColumns "Sales" "Item" "Product" "Item" false) (by decide +kernel)
  obtain ⟨catalog, bundled, -, reported⟩ := hideForeignKeys_reports_iff accepted records texts tables flags 4 id
  have exact := reported plain apart fun r member => .inr ⟨"Many", (ends r member).2.2⟩
  refine ⟨os, catalog, accepted, bundled, (exact _).2 ⟨c, column, named, visible, r, joined, ?_⟩, fun present => ?_⟩
  · exact ⟨source.trans own.symm, (ends r joined).2.2⟩
  · obtain ⟨d, member, name, -, q, inside, key⟩ := (exact _).1 present
    have same : some "Sales" = some "Product" := by
      have tables := congrArg Endpoint.table (key.source.trans (product d member name))
      rwa [ModelObject.endpoint, (ends q inside).1] at tables
    exact absurd same (by decide)

/-- The key of a table that refers to itself is reported. -/
theorem hideForeignKeys_reports_own_key :
    ∃ os catalog, Snapshot.objects (joinedColumns "Staff" "Manager" "Staff" "Id" true) = .ok os ∧
      Catalog.bundled = .ok catalog ∧
      ("HIDE_FOREIGN_KEYS", "'Staff'[Id]") ∈ (Run.ofRulesWith 1 id catalog.rules os).findings.map Finding.key ∧
      ¬ ∃ c ∈ os, c.name = "'Staff'[Id]" ∧ c.IsVisibleColumn ∧
        ∃ r ∈ Index.ofKind os .relationship, c.IsForeignKey r := by
  obtain ⟨os, accepted, checked⟩ := Snapshot.exists_of_accepts (joinedColumns "Staff" "Manager" "Staff" "Id" true)
    (fun os => decide (
      (∀ c ∈ os, c.kind.isColumn = true → c.table = some "Staff") ∧
      (∀ c ∈ os, c.kind.isColumn = true → (c.properties.get "IsHidden").isBool = true) ∧
      (∃ c ∈ os, c.name = "'Staff'[Id]" ∧ c.IsVisibleColumn) ∧
      (∀ c ∈ os, c.name = "'Staff'[Id]" → c.ownEndpoint = ⟨some "Staff", some "Id"⟩) ∧
      (∀ r ∈ Index.ofKind os .relationship, r.endpoint .source = ⟨some "Staff", some "Manager"⟩) ∧
      ∃ r ∈ Index.ofKind os .relationship, r.endpoint .target = ⟨some "Staff", some "Id"⟩ ∧
        (r.endLabel .source).isReadAs "Staff" = true ∧ (r.properties.get "FromCardinality").isReadAs "Many" = true))
    (by decide +kernel)
  obtain ⟨tables, flags, ⟨c, column, named, visible⟩, own, sources, r, joined, target, label, many⟩ :=
    of_decide_eq_true checked
  have plain : ∀ c ∈ os, c.kind.isColumn = true → c.table.any isNumeral = false := by
    intro c member column
    rw [tables c member column]
    decide
  have looks : c.LooksForeign r :=
    ⟨.inr (target.trans (own c column named).symm), by rw [tables c column visible.column]; exact label, many⟩
  obtain ⟨given, records, texts, -⟩ :=
    Snapshot.exists_plain_records (joinedColumns "Staff" "Manager" "Staff" "Id" true) (by decide +kernel)
  obtain ⟨catalog, bundled, reported⟩ := reported_iff_looksForeign accepted records texts plain flags 1 id
  refine ⟨os, catalog, accepted, bundled, (reported _).2 ⟨c, column, named, visible, r, joined, looks⟩, ?_⟩
  rintro ⟨d, member, name, -, q, inside, key⟩
  have ends := (sources q inside).symm.trans (key.source.trans (own d member name))
  exact absurd ends (by decide)

end

end TabularAudit
