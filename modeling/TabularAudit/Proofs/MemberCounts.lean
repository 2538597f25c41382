import Mathlib.Algebra.Ring.Nat
import Mathlib.Data.List.Dedup
import TabularAudit.Proofs.Binary64
import TabularAudit.Proofs.Census
import TabularAudit.Proofs.Expr.Counting
import TabularAudit.Proofs.Expr.Lookup
import TabularAudit.Proofs.Tally

/-!
Tables are given the numbers of their columns and measures when a snapshot is read. Rules read these numbers, which are
those that a scan of the index finds, and which add up with the members that no table owns.
-/

namespace TabularAudit

theorem Bag.find?_putIfAbsent_self {b : Bag} {name : String} (absent : b.find? name = none) (v : Value) :
    (b.putIfAbsent name v).find? name = some v := by
  rw [putIfAbsent, contains, absent, Option.isSome_none, if_neg Bool.false_ne_true, find?_put, if_pos rfl]

theorem columns_or_measures {α : Type} {name : String} {members columns measures : α}
    (collection : (name, members) ∈ [("Columns", columns), ("Measures", measures)]) :
    (name = "Columns" ∧ members = columns) ∨ (name = "Measures" ∧ members = measures) := by
  simpa using collection

section
variable {names : List String} {ms : List ModelObject} {name : String}

def ownedBy (ms : List ModelObject) (name : String) : List ModelObject := ms.filter fun m => m.table = some name

def ownedByNone (ms : List ModelObject) (names : List String) : List ModelObject :=
  ms.filter fun m => ∀ name ∈ names, m.table ≠ some name

/-- Every member is counted under the one name of its table, or under none. -/
theorem sum_ownedBy (distinct : names.Nodup) :
    (names.map fun name => (ownedBy ms name).length).sum + (ownedByNone ms names).length = ms.length := by
  have tables : (names.map some).Nodup := distinct.map fun _ _ => Option.some.inj
  have parts := sum_length_filter_add_others ModelObject.table tables ms
  rw [List.map_map] at parts
  rw [← parts]
  refine congrArg (_ + List.length ·) (List.filter_congr ?_)
  intro m _
  simp [eq_comm]

theorem ownedByNone_dedup : ownedByNone ms names.dedup = ownedByNone ms names := by
  simp only [ownedByNone, List.mem_dedup]

end

namespace Record

theorem find?_of_table (b : Bag) {name : String}
    (apart : ∀ other ∈ ["Name", "ObjectTypeName", "IsHidden"], Bag.fold other ≠ Bag.fold name) :
    (table b).properties.find? name = b.find? name := by
  change (shown (identified b _ _)).find? name = _
  rw [shown, Bag.find?_putIfAbsent_of_ne (apart _ (by simp)), identified, Bag.find?_put_of_ne (apart _ (by simp)),
    Bag.find?_put_of_ne (apart _ (by simp))]

end Record

namespace Expr

variable {c : Index} {env : Env} {t o : ModelObject} {name : String} {n : Nat}

theorem memberCount_of_stored (collection : name ≠ "UsedInRelationships") (stored : storedCount? t name = some (.int n))
    (small : n < 2 ^ 53) : memberCount c t name = .ok n := by
  rw [memberCount, if_neg collection, stored]
  exact Value.wholePart_of_natAbs_lt small

theorem storedCount_of_find {v : Value} (noFirst : t.properties.find? (name ++ ".Count") = none)
    (noSecond : t.properties.find? (name ++ "Count") = none)
    (found : t.properties.find? (singular name ++ "Count") = some v) : storedCount? t name = some v := by
  simp only [storedCount?, List.findSome?_cons, noFirst, noSecond, found]

theorem result_size (listed : name ∈ collectionNames) (t : ModelObject) :
    (eval (.size [name]) env (some t)).result = (memberCount env.index t name).map .int :=
  CollectionPath.result_countCall ⟨false, 0, name, listed⟩ env t

theorem result_ownerSize (listed : name ∈ collectionNames) (found : env.index.table? (o.table.getD "") = some t) :
    (eval (.size ["Table", name]) env (some o)).result = (memberCount env.index t name).map .int := by
  have owner : ownerAt? env.index 1 o = some t := by
    rw [ownerAt?, found]
    rfl
  refine (CollectionPath.result_countCall ⟨false, 1, name, listed⟩ env o).trans ?_
  simp only [owner]
  rfl

theorem parse_size (listed : name ∈ collectionNames) : parse (name ++ ".Count()") = .ok (.size [name]) ∧
    parse ("Table." ++ name ++ ".Count()") = .ok (.size ["Table", name]) :=
  ⟨CollectionPath.parse_countCall ⟨false, 0, name, listed⟩, CollectionPath.parse_countCall ⟨false, 1, name, listed⟩⟩

end Expr

namespace Snapshot

section
variable {b : Bag} {columns measures : List ModelObject} {name : String} {members : List ModelObject}

theorem find?_size_withCounts (collection : (name, members) ∈ [("Columns", columns), ("Measures", measures)])
    (absent : b.find? (Expr.singular name ++ "Count") = none) :
    (withCounts columns measures (Record.table b)).properties.find? (Expr.singular name ++ "Count") =
      some (.int (ownedBy members (Record.table b).shortName).length) := by
  have own : ∀ ms, membersOf ms (Record.table b) = .int (ownedBy ms (Record.table b).shortName).length := by
    intro ms
    rw [membersOf, Record.table_of_table, ownedBy]
  rcases columns_or_measures collection with ⟨rfl, rfl⟩ | ⟨rfl, rfl⟩
  · have spelled : Expr.singular "Columns" ++ "Count" = "ColumnCount" := by decide
    rw [spelled] at absent ⊢
    rw [← Record.find?_of_table b (by decide)] at absent
    rw [withCounts, Bag.find?_putIfAbsent_of_ne (by decide), Bag.find?_putIfAbsent_self absent, own]
  · have spelled : Expr.singular "Measures" ++ "Count" = "MeasureCount" := by decide
    rw [spelled] at absent ⊢
    have kept : ((Record.table b).properties.putIfAbsent "ColumnCount" (membersOf columns (Record.table b))).find?
        "MeasureCount" = none := by
      rw [Bag.find?_putIfAbsent_of_ne (by decide), Record.find?_of_table b (by decide), absent]
    rw [withCounts, Bag.find?_putIfAbsent_self kept, own]

theorem storedCount_withCounts (plain : ∀ name ∈ sizeProperties, b.find? name = none)
    (collection : (name, members) ∈ [("Columns", columns), ("Measures", measures)]) :
    Expr.storedCount? (withCounts columns measures (Record.table b)) name =
      some (.int (ownedBy members (Record.table b).shortName).length) := by
  have absent : ∀ other ∈ ["Columns.Count", "ColumnsCount", "Measures.Count", "MeasuresCount"],
      (withCounts columns measures (Record.table b)).properties.find? other = none := by
    have apart : ∀ other ∈ ["Columns.Count", "ColumnsCount", "Measures.Count", "MeasuresCount"],
        other ∈ sizeProperties ∧ ∀ stored ∈ ["ColumnCount", "MeasureCount", "Name", "ObjectTypeName", "IsHidden"],
          Bag.fold stored ≠ Bag.fold other := by decide
    intro other member
    obtain ⟨listed, differ⟩ := apart other member
    rw [withCounts, Bag.find?_putIfAbsent_of_ne (differ _ (by simp)), Bag.find?_putIfAbsent_of_ne (differ _ (by simp)),
      Record.find?_of_table b fun stored among => differ stored (by simp_all)]
    exact plain other listed
  have size := find?_size_withCounts (b := b) collection
  rcases columns_or_measures collection with ⟨rfl, -⟩ | ⟨rfl, -⟩
  · exact Expr.storedCount_of_find (absent _ (by decide)) (absent _ (by decide)) (size (plain _ (by decide)))
  · exact Expr.storedCount_of_find (absent _ (by decide)) (absent _ (by decide)) (size (plain _ (by decide)))

end

section
variable {snapshot : Value} {os : List ModelObject} {r : Records} {s : Sections}

theorem memberCount_of_accepted {c : Index} (slices : s.AreSlices c) (areOf : s.AreOf r)
    (plain : ∀ record ∈ r.tables, givesSize record = false) {name : String} {members : List ModelObject}
    (collection : (name, members) ∈ Expr.memberLists c) (few : members.length < 2 ^ 53) {t : ModelObject}
    (member : t ∈ c.tables) :
    Expr.memberCount c t name = .ok (ownedBy members t.shortName).length := by
  rw [slices.tables] at member
  obtain ⟨record, inside, b, given, rfl⟩ := areOf.record_of_table member
  rw [Expr.memberLists, slices.columns, slices.measures] at collection
  have absent : ∀ name ∈ sizeProperties, b.find? name = none := by
    have none := plain record inside
    rw [givesSize, given] at none
    simpa [Bag.contains] using none
  have stored := storedCount_withCounts absent collection
  have noUse : name ≠ "UsedInRelationships" := by
    rcases columns_or_measures collection with ⟨rfl, -⟩ | ⟨rfl, -⟩ <;> decide
  rw [shortName_withCounts]
  exact Expr.memberCount_of_stored noUse stored (Nat.lt_of_le_of_lt (List.length_filter_le _ _) few)

theorem isTable_of_mem_index {t : ModelObject} (member : t ∈ (Index.ofObjects os).tables) : t.kind.isTable = true :=
  (List.mem_filter.1 member).2

theorem members?_eq {c : Index} {name : String} {members : List ModelObject} {t : ModelObject}
    (collection : (name, members) ∈ Expr.memberLists c) (table : t.kind.isTable = true) :
    Expr.members? c t name = some (ownedBy members t.shortName) := by
  rcases columns_or_measures collection with ⟨rfl, rfl⟩ | ⟨rfl, rfl⟩
  · rw [Expr.members?, table]
    rfl
  · rw [Expr.members?, table]
    rfl

/-- A table that is named by its short name can be looked up, though another one of that name may be found. -/
theorem exists_table?_of_mem {t : ModelObject} (member : t ∈ (Index.ofObjects os).tables) :
    ∃ u ∈ (Index.ofObjects os).tables, (Index.ofObjects os).table? t.shortName = some u ∧ u.shortName = t.shortName := by
  obtain ⟨inside, table⟩ := List.mem_filter.1 member
  have named : t ∈ os.filter fun o => o.kind.isTable && o.shortName = t.shortName :=
    List.mem_filter.2 ⟨inside, by simp [table]⟩
  obtain ⟨u, last⟩ := Option.isSome_iff_exists.1 (List.getLast?_isSome.2 (List.ne_nil_of_mem named))
  obtain ⟨among, chosen⟩ := List.mem_filter.1 (List.mem_of_getLast? last)
  obtain ⟨table, same⟩ := Bool.and_eq_true_iff.1 chosen
  exact ⟨u, List.mem_filter.2 ⟨among, table⟩, (Index.table?_ofObjects os _).trans last, of_decide_eq_true same⟩

/-- Where no table is given its sizes, a table asks as well as its members do how many columns or measures have its name
for their table. The columns of all tables and those of none are all columns. -/
theorem stored_sizes_are_scanned (accepted : objects snapshot = .ok os) (recorded : Records.ofValue snapshot = .ok r)
    (plain : ∀ record ∈ r.tables, givesSize record = false) (fewColumns : (Index.ofObjects os).columns.length < 2 ^ 53)
    (fewMeasures : (Index.ofObjects os).measures.length < 2 ^ 53) (current : Option Expr.Reference) :
    let c := Index.ofObjects os
    (∀ name members, (name, members) ∈ Expr.memberLists c →
      Expr.parse (name ++ ".Count()") = .ok (.size [name]) ∧
      Expr.parse ("Table." ++ name ++ ".Count()") = .ok (.size ["Table", name]) ∧
      ∀ t ∈ c.tables, Expr.members? c t name = some (ownedBy members t.shortName) ∧
        (Expr.eval (.size [name]) ⟨c, current⟩ (some t)).result = .ok (.int (ownedBy members t.shortName).length) ∧
        ∀ o : ModelObject, o.table = some t.shortName →
          (Expr.eval (.size ["Table", name]) ⟨c, current⟩ (some o)).result =
            .ok (.int (ownedBy members t.shortName).length)) ∧
    c.aggregate? "ColumnCount" = some (((c.tables.map ModelObject.shortName).dedup.map fun name =>
      (ownedBy c.columns name).length).sum + (ownedByNone c.columns (c.tables.map ModelObject.shortName)).length) := by
  intro c
  obtain ⟨s, -, areOf, slices⟩ := exists_sections accepted recorded
  constructor
  · intro name members collection
    have few : members.length < 2 ^ 53 := by
      rcases columns_or_measures collection with ⟨-, rfl⟩ | ⟨-, rfl⟩
      · exact fewColumns
      · exact fewMeasures
    have listed : name ∈ Expr.collectionNames := by
      rcases columns_or_measures collection with ⟨rfl, -⟩ | ⟨rfl, -⟩ <;> decide
    obtain ⟨own, ofOwner⟩ := Expr.parse_size listed
    refine ⟨own, ofOwner, fun t member => ?_⟩
    have count : ∀ u ∈ c.tables, Expr.memberCount c u name = .ok (ownedBy members u.shortName).length :=
      fun u among => memberCount_of_accepted slices areOf plain collection few among
    refine ⟨members?_eq collection (isTable_of_mem_index member), ?_, fun o owner => ?_⟩
    · rw [Expr.result_size listed, count t member]
      rfl
    · obtain ⟨u, among, found, same⟩ := exists_table?_of_mem member
      have owned : c.table? (o.table.getD "") = some u := by
        rw [owner]
        exact found
      rw [Expr.result_ownerSize listed owned, count u among, same]
      rfl
  · rw [← ownedByNone_dedup, sum_ownedBy (List.nodup_dedup _)]
    rfl

def sizedTables : Value :=
  .map [("tables", .list [
      .map [("Name", .text "Sales"),
        ("Columns", .list [.map [("Name", .text "Day")], .map [("Type", .text "RowNumber")]])],
      .map [("Name", .text "Sales"), ("Measures", .list [.map [("Name", .text "Total")]])]]),
    ("columns", .list [.map [("Name", .text "Key"), ("TableName", .text "Gone")]])]

theorem stored_sizes_are_scanned_of_two_tables :
    ∃ os r, objects sizedTables = .ok os ∧ Records.ofValue sizedTables = .ok r ∧
      (∀ record ∈ r.tables, givesSize record = false) ∧ (Index.ofObjects os).columns.length < 2 ^ 53 ∧
      (Index.ofObjects os).measures.length < 2 ^ 53 ∧ (Index.ofObjects os).tables ≠ [] ∧
      (∀ t ∈ (Index.ofObjects os).tables,
        (Expr.eval (.size ["Columns"]) ⟨.ofObjects os, none⟩ (some t)).result = .ok (.int 1)) ∧
      (∃ m ∈ (Index.ofObjects os).measures,
        (Expr.eval (.size ["Table", "Columns"]) ⟨.ofObjects os, none⟩ (some m)).result = .ok (.int 1)) ∧
      (Index.ofObjects os).aggregate? "ColumnCount" = some (1 + 1) := by
  obtain ⟨os, accepted, checked⟩ := exists_of_accepts sizedTables (fun os =>
    let c := Index.ofObjects os
    c.columns.length == 2 && c.measures.length == 1 && !c.tables.isEmpty &&
      c.tables.all (fun t => t.shortName == "Sales" && (ownedBy c.columns t.shortName).length == 1) &&
      c.measures.any (fun m => c.tables.any fun t => m.table == some t.shortName) &&
      ((c.tables.map ModelObject.shortName).dedup.map fun name => (ownedBy c.columns name).length).sum == 1 &&
      (ownedByNone c.columns (c.tables.map ModelObject.shortName)).length == 1) (by decide +kernel)
  have recordsChecked : ((Records.ofValue sizedTables).toOption.any fun r =>
      r.tables.all fun record => !givesSize record) = true := by decide +kernel
  cases recorded : Records.ofValue sizedTables with
  | error fault =>
      rw [recorded] at recordsChecked
      cases recordsChecked
  | ok r =>
      rw [recorded] at recordsChecked
      have plain : ∀ record ∈ r.tables, givesSize record = false := by simpa [Except.toOption] using recordsChecked
      simp only [Bool.and_eq_true, beq_iff_eq, List.all_eq_true, List.any_eq_true, Bool.not_eq_true',
        List.isEmpty_eq_false_iff] at checked
      obtain ⟨⟨⟨⟨⟨⟨columns, measures⟩, tables⟩, owned⟩, m, member, t, among, owner⟩, sum⟩, free⟩ := checked
      have fewColumns : (Index.ofObjects os).columns.length < 2 ^ 53 := by omega
      have fewMeasures : (Index.ofObjects os).measures.length < 2 ^ 53 := by omega
      obtain ⟨sizes, total⟩ := stored_sizes_are_scanned accepted recorded plain fewColumns fewMeasures none
      obtain ⟨-, -, counted⟩ := sizes "Columns" _ List.mem_cons_self
      refine ⟨os, r, accepted, rfl, plain, fewColumns, fewMeasures, tables, fun t among => ?_, ⟨m, member, ?_⟩, ?_⟩
      · rw [(counted t among).2.1, (owned t among).2]
        rfl
      · rw [(counted t among).2.2 m owner, (owned t among).2]
        rfl
      · rw [total, sum, free]

end

end Snapshot

end TabularAudit
