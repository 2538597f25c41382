import TabularAudit.Proofs.Bundled.Reported
import TabularAudit.Proofs.Expr.Comparison
import TabularAudit.Proofs.RelationshipEnds

/-!
The rule against snowflake schemas. It reports the tables from which a relationship goes out and to which one leads.
-/

namespace TabularAudit

namespace Expr

def endTest (side : Side) : Node :=
  .comparison "==" (.name "current" ["Name"]) (.name (side.word ++ "Table") ["Name"])

def usedAt (side : Side) : Node := .method (.name "UsedInRelationships" []) "Any" [endTest side]

set_option maxRecDepth 8000 in
theorem exists_parse_snowflakeSchema : ∃ s, Rule.Bundled.snowflakeSchema.expression = .text s ∧
    parse s = .ok (.all [usedAt .source, usedAt .target]) := by
  refine ⟨String.ofList _, rfl, (parse_ofList _).trans ?_⟩
  with_unfolding_all rfl

structure NamesTable (r : ModelObject) (side : Side) (table : String) : Prop where
  stored : r.endTable side = .text table
  label : r.endLabel side = .text table
  readable : (Value.text table).toNumber.isOk = true

variable {o r : ModelObject} {os : List ModelObject} {side : Side}

theorem truth_endTest {env : Env} {reference : Reference} {table : String} (known : env.current = some reference)
    (plain : isNumeral reference.name = false) (named : NamesTable r side table) :
    (truth (endTest side) env (some r)).result = .ok (reference.name == table) := by
  have labelled : (eval (.name (side.word ++ "Table") ["Name"]) env (some r)).result = .ok (.text table) := by
    rw [eval_endLabel env side named.stored, named.label]
  exact truth_comparison (eval_currentName known) labelled (compare_texts plain named.readable)

theorem any_relationshipsOf (table : o.kind.isTable = true) :
    ((Index.ofObjects os).relationshipsOf o).any (fun r => decide (r.endTable side = .text o.shortName)) = true ↔
      ∃ r ∈ Index.ofKind os .relationship, r.endTable side = .text o.shortName := by
  rw [List.any_eq_true]
  constructor
  · rintro ⟨r, inside, ends⟩
    exact ⟨r, (List.mem_filter.1 inside).1, of_decide_eq_true ends⟩
  · rintro ⟨r, member, ends⟩
    have on : r.endsOn side o = true := by
      rw [ModelObject.endsOn, if_pos table, ends]
      exact beq_self_eq_true _
    have present : side ∈ Side.all := by cases side <;> decide
    exact ⟨r, List.mem_filter.2 ⟨member, List.any_eq_true.2 ⟨side, present, on⟩⟩, decide_eq_true ends⟩

theorem truth_usedAt (side : Side) (table : o.kind.isTable = true) (plain : isNumeral o.shortName = false)
    (named : ∀ r ∈ Index.ofKind os .relationship, ∃ t, NamesTable r side t) :
    (truth (usedAt side) ⟨Index.ofObjects os, none⟩ (some o)).result =
      .ok (((Index.ofObjects os).relationshipsOf o).any fun r => decide (r.endTable side = .text o.shortName)) := by
  apply truth_relationships
  intro r inside
  obtain ⟨t, names⟩ := named r (List.mem_filter.1 inside).1
  have current : currentName o = o.shortName := by rw [currentName, if_pos table]
  rw [truth_endTest rfl (by rw [current]; exact plain) names, current, names.stored]
  refine congrArg Except.ok ?_
  rw [Bool.eq_iff_iff, beq_iff_eq, decide_eq_true_iff, Value.text.injEq, eq_comm]

theorem holds_snowflakeSchema (table : o.kind.isTable = true) (plain : isNumeral o.shortName = false)
    (named : ∀ r ∈ Index.ofKind os .relationship, ∀ side, ∃ t, NamesTable r side t) :
    holds Rule.Bundled.snowflakeSchema.expression o (Index.ofObjects os) = true ↔
      (∃ r ∈ Index.ofKind os .relationship, r.endTable .source = .text o.shortName) ∧
      ∃ r ∈ Index.ofKind os .relationship, r.endTable .target = .text o.shortName := by
  obtain ⟨s, text, parsed⟩ := exists_parse_snowflakeSchema
  have used : ∀ side, _ := fun side => truth_usedAt side table plain fun r member => named r member side
  rw [text, holds_of_truth parsed (truth_all (used .source) (used .target)), Bool.and_eq_true, any_relationshipsOf table,
    any_relationshipsOf table]

theorem truth_endTest_of_unreadable {env : Env} {reference : Reference} {table : String}
    (known : env.current = some reference) (plain : isNumeral reference.name = false)
    (stored : r.endTable side = .text table) (label : r.endLabel side = .text table)
    (unreadable : (Value.text table).toNumber = .error .badNumeral) :
    (truth (endTest side) env (some r)).result = .error .badNumeral := by
  have labelled : (eval (.name (side.word ++ "Table") ["Name"]) env (some r)).result = .ok (.text table) := by
    rw [eval_endLabel env side stored, label]
  have compared : compare "==" (.text reference.name) (.text table) = .error .badNumeral := compare_unreadable plain unreadable
  have supported : ∀ reason, compare "==" (.text reference.name) (.text table) ≠ .error (.unsupported reason) := by
    rw [compared]
    exact nofun
  rw [endTest, truth_compared (eval_currentName known) labelled supported, compared]

/-- The first relationship of a table is asked for first, so that an unreadable name at its end decides. -/
theorem not_holds_snowflakeSchema_of_unreadable (table : o.kind.isTable = true) (plain : isNumeral o.shortName = false)
    {t : String} (first : ((Index.ofObjects os).relationshipsOf o).head? = some r)
    (stored : r.endTable .source = .text t) (label : r.endLabel .source = .text t)
    (unreadable : (Value.text t).toNumber = .error .badNumeral) :
    holds Rule.Bundled.snowflakeSchema.expression o (Index.ofObjects os) = false := by
  obtain ⟨s, text, parsed⟩ := exists_parse_snowflakeSchema
  have current : currentName o = o.shortName := by rw [currentName, if_pos table]
  have tested : (truth (usedAt .source) ⟨Index.ofObjects os, none⟩ (some o)).result = .error .badNumeral :=
    truth_relationships_of_fault first
      (truth_endTest_of_unreadable rfl (by rw [current]; exact plain) stored label unreadable)
  rw [text]
  exact not_holds_of_fault parsed (truth_all_of_fault tested [usedAt .target])

end Expr

theorem Record.tableLabel_injective {name other : String} (same : tableLabel name = tableLabel other) :
    name = other := by
  simpa [tableLabel] using same

namespace Snapshot

variable {snapshot : Value} {os : List ModelObject} {given : List Bag}

theorem namesTable_of_records (accepted : objects snapshot = .ok os) (records : relationshipRecords snapshot = .ok given)
    (texts : ∀ b ∈ given, Record.hasTextEnds b = true) (plain : ∀ b ∈ given, Record.hasEndAlias b = false)
    (readable : ∀ r ∈ Index.ofKind os .relationship, ∀ side, (r.endTable side).toNumber.isOk = true) {r : ModelObject}
    (member : r ∈ Index.ofKind os .relationship) (side : Side) : ∃ t, Expr.NamesTable r side t := by
  obtain ⟨t, stored⟩ := exists_text_of_records accepted records texts member side
  have label := endLabel_of_records accepted records plain member side
  exact ⟨t, stored, label.trans stored, stored ▸ readable r member side⟩

theorem contains_kinds_tables {k : Kind} (known : ∀ name, k ≠ .other name) :
    (Scope.kinds "Table, CalculatedTable").contains k.text = k.isTable := by
  have kinds : Scope.kinds "Table, CalculatedTable" = ["Table", "CalculatedTable"] := by decide
  rw [kinds]
  cases k with
  | other name => exact absurd rfl (known name)
  | _ => decide

/-- The rule against snowflake schemas reports the tables that are the `FromTable` of a relationship and the `ToTable`
of a relationship. No table has a numeral for its name, and relationships give their ends as texts under their own names
only. An end may be a numeral, as long as its number can be read: of a numeral behind a separator of units it cannot, and
then the whole expression fails. -/
theorem snowflakeSchema_reports_iff (accepted : objects snapshot = .ok os)
    (records : relationshipRecords snapshot = .ok given) (texts : ∀ b ∈ given, Record.hasTextEnds b = true)
    (plain : ∀ b ∈ given, Record.hasEndAlias b = false)
    (tables : ∀ t ∈ os, t.kind.isTable = true → isNumeral t.shortName = false)
    (readable : ∀ r ∈ Index.ofKind os .relationship, ∀ side, (r.endTable side).toNumber.isOk = true) (workers : Int)
    (order : Nat → Nat) :
    ∃ catalog, Catalog.bundled = .ok catalog ∧ ∀ object,
      ("SNOWFLAKE_SCHEMA_ARCHITECTURE", object) ∈
          (Run.ofRulesWith workers order catalog.rules os).findings.map Finding.key ↔
        ∃ name, object = Record.tableLabel name ∧ (∃ t ∈ os, t.kind.isTable = true ∧ t.shortName = name) ∧
          (∃ r ∈ Index.ofKind os .relationship, r.endTable .source = .text name) ∧
          ∃ r ∈ Index.ofKind os .relationship, r.endTable .target = .text name := by
  have labels : ∀ o ∈ os, o.IsLabelled := fun o member => isLabelled_of_accepted accepted member
  have holds : ∀ o ∈ os, o.kind.isTable = true → _ := fun o member table =>
    Expr.holds_snowflakeSchema table (tables o member table)
      fun r => namesTable_of_records accepted records texts plain readable
  obtain ⟨catalog, bundled, reported⟩ := bundled_reports accepted (r := Rule.Bundled.snowflakeSchema)
    (by simp [Rule.Bundled.catalogRules]) ⟨⟨2, rfl⟩, .inl rfl⟩ rfl rfl (fun _ => contains_kinds_tables) workers order
  refine ⟨catalog, bundled, fun object => (reported object).trans ?_⟩
  constructor
  · rintro ⟨o, member, rfl, table, found⟩
    exact ⟨o.shortName, (labels o member).table table, ⟨o, member, table, rfl⟩, (holds o member table).1 found⟩
  · rintro ⟨name, rfl, ⟨o, member, table, rfl⟩, used⟩
    exact ⟨o, member, (labels o member).table table, table, (holds o member table).2 used⟩

def threeTables : Value :=
  .map [("tables", .list [.map [("Name", .text "Sales")], .map [("Name", .text "Product")], .map [("Name", .text "Category")]]),
    ("relationships", .list [
      .map [("FromTable", .text "Sales"), ("FromColumn", .text "Item"), ("ToTable", .text "Product"), ("ToColumn", .text "Item")],
      .map [("FromTable", .text "Product"), ("FromColumn", .text "Sort"), ("ToTable", .text "Category"), ("ToColumn", .text "Sort")]])]

theorem snowflakeSchema_reports_product :
    ∃ os catalog, objects threeTables = .ok os ∧ Catalog.bundled = .ok catalog ∧
      let keys := (Run.ofRulesWith 4 id catalog.rules os).findings.map Finding.key
      ("SNOWFLAKE_SCHEMA_ARCHITECTURE", "'Product'") ∈ keys ∧ ("SNOWFLAKE_SCHEMA_ARCHITECTURE", "'Sales'") ∉ keys := by
  obtain ⟨os, accepted, checked⟩ := exists_of_accepts threeTables (fun os => decide (
      (∀ t ∈ os, t.kind.isTable = true → isNumeral t.shortName = false) ∧
      (∀ r ∈ Index.ofKind os .relationship, ∀ side ∈ Side.all, (r.endTable side).toNumber.isOk = true) ∧
      (∃ t ∈ os, t.kind.isTable = true ∧ t.shortName = "Product") ∧
      (∃ r ∈ Index.ofKind os .relationship, r.endTable .source = .text "Product") ∧
      (∃ r ∈ Index.ofKind os .relationship, r.endTable .target = .text "Product") ∧
      ∀ r ∈ Index.ofKind os .relationship, r.endTable .target ≠ .text "Sales")) (by decide +kernel)
  obtain ⟨tables, readable, product, goesOut, isLed, start⟩ := of_decide_eq_true checked
  obtain ⟨given, records, texts, plain⟩ := exists_plain_records threeTables (by decide +kernel)
  have every : ∀ side, side ∈ Side.all := by intro side; cases side <;> decide
  obtain ⟨catalog, bundled, reported⟩ := snowflakeSchema_reports_iff accepted records texts plain tables
    (fun r member side => readable r member side (every side)) 4 id
  refine ⟨os, catalog, accepted, bundled, ?_, ?_⟩
  · exact (reported "'Product'").2 ⟨"Product", by decide, product, goesOut, isLed⟩
  · intro present
    obtain ⟨name, label, -, -, r, member, target⟩ := (reported "'Sales'").1 present
    have same : "Sales" = name := Record.tableLabel_injective ((by decide : Record.tableLabel "Sales" = "'Sales'").trans label)
    exact start r member (same ▸ target)

/-- `Sales` lies between a name and itself. The name is a numeral to the pattern for numerals, and none to the reader of
numbers. -/
def behindSeparator : Value :=
  let name := "\x1c5"
  .map [("tables", .list [.map [("Name", .text "Sales")]]),
    ("relationships", .list [
      .map [("FromTable", .text name), ("FromColumn", .text "Item"), ("ToTable", .text "Sales"), ("ToColumn", .text "Item")],
      .map [("FromTable", .text "Sales"), ("FromColumn", .text "Item"), ("ToTable", .text name), ("ToColumn", .text "Item")]])]

/-- A table between two others that is not reported. -/
theorem snowflakeSchema_misses_sales :
    ∃ os given catalog, objects behindSeparator = .ok os ∧ relationshipRecords behindSeparator = .ok given ∧
      Catalog.bundled = .ok catalog ∧ (∀ b ∈ given, Record.hasTextEnds b = true) ∧
      (∀ b ∈ given, Record.hasEndAlias b = false) ∧
      (∀ t ∈ os, t.kind.isTable = true → isNumeral t.shortName = false) ∧
      (∃ t ∈ os, t.kind.isTable = true ∧ t.shortName = "Sales") ∧
      (∃ r ∈ Index.ofKind os .relationship, r.endTable .source = .text "Sales") ∧
      (∃ r ∈ Index.ofKind os .relationship, r.endTable .target = .text "Sales") ∧
      ("SNOWFLAKE_SCHEMA_ARCHITECTURE", "'Sales'") ∉
        (Run.ofRulesWith 4 id catalog.rules os).findings.map Finding.key := by
  obtain ⟨os, accepted, checked⟩ := exists_of_accepts behindSeparator (fun os => decide (
      (∀ t ∈ os, t.kind.isTable = true → isNumeral t.shortName = false) ∧
      (∃ t ∈ os, t.kind.isTable = true ∧ t.shortName = "Sales") ∧
      (∃ r ∈ Index.ofKind os .relationship, r.endTable .source = .text "Sales") ∧
      (∃ r ∈ Index.ofKind os .relationship, r.endTable .target = .text "Sales") ∧
      ∀ t ∈ os, t.kind.isTable = true →
        (((Index.ofObjects os).relationshipsOf t).map fun r => r.endTable .source).head? = some (.text "\x1c5")))
    (by decide +kernel)
  obtain ⟨tables, sales, goesOut, isLed, first⟩ := of_decide_eq_true checked
  obtain ⟨given, records, texts, plain⟩ := exists_plain_records behindSeparator (by decide +kernel)
  obtain ⟨catalog, bundled, reported⟩ := bundled_reports accepted (r := Rule.Bundled.snowflakeSchema)
    (by simp [Rule.Bundled.catalogRules]) ⟨⟨2, rfl⟩, .inl rfl⟩ rfl rfl (fun _ => contains_kinds_tables) 4 id
  refine ⟨os, given, catalog, accepted, records, bundled, texts, plain, tables, sales, goesOut, isLed, fun present => ?_⟩
  obtain ⟨t, member, -, table, holds⟩ := (reported "'Sales'").1 present
  obtain ⟨r, isFirst, stored⟩ := Option.map_eq_some_iff.1 (List.head?_map ▸ first t member table)
  have inside := (List.mem_filter.1 (List.mem_of_head? isFirst)).1
  have label := (endLabel_of_records accepted records plain inside .source).trans stored
  have failed := Expr.not_holds_snowflakeSchema_of_unreadable table (tables t member table) isFirst stored label
    (by decide +kernel)
  rw [failed] at holds
  cases holds

end Snapshot

end TabularAudit
