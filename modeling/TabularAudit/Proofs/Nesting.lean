import TabularAudit.Proofs.Bag
import TabularAudit.Proofs.MemberCounts

/-!
Records that stand inside the record of a table. Each is handed the name that the table gives, and loses it to a place
of its own for that name, filled or not. A table without a name has none to hand on, and gets one when it is read.
-/

namespace TabularAudit

namespace Entries

variable {es fs : Entries} {k j : String} {v w : Value}

theorem mem_put {e : String × Value} (member : e ∈ put es k v) : e ∈ es ∨ e = (k, v) := by
  induction es with
  | nil => exact .inr (List.mem_singleton.1 member)
  | cons p es ih =>
      obtain ⟨i, u⟩ := p
      rw [put] at member
      split at member
      · next same =>
          rcases List.mem_cons.1 member with rfl | inside
          · exact .inr (by rw [same])
          · exact .inl (List.mem_cons_of_mem _ inside)
      · rcases List.mem_cons.1 member with rfl | inside
        · exact .inl List.mem_cons_self
        · exact (ih inside).imp_left (List.mem_cons_of_mem _)

theorem mem_keys_put : j ∈ (put es k v).map Prod.fst ↔ j ∈ es.map Prod.fst ∨ j = k := by
  induction es with
  | nil => simp [put]
  | cons p es ih =>
      obtain ⟨i, u⟩ := p
      rw [put]
      split
      · next same =>
          subst same
          simp only [List.map_cons, List.mem_cons]
          tauto
      · simp only [List.map_cons, List.mem_cons, ih, or_assoc]

theorem mem_merge {e : String × Value} (member : e ∈ merge es fs) : e ∈ es ∨ e ∈ fs := by
  induction fs generalizing es with
  | nil => exact .inl member
  | cons p fs ih =>
      have either : e ∈ put es p.1 p.2 ∨ e ∈ fs := ih member
      rcases either with inside | inside
      · rcases mem_put inside with before | rfl
        · exact .inl before
        · exact .inr List.mem_cons_self
      · exact .inr (List.mem_cons_of_mem _ inside)

theorem mem_keys_merge : j ∈ (merge es fs).map Prod.fst ↔ j ∈ es.map Prod.fst ∨ j ∈ fs.map Prod.fst := by
  induction fs generalizing es with
  | nil => simp [merge]
  | cons p fs ih =>
      change j ∈ (merge (put es p.1 p.2) fs).map Prod.fst ↔ _
      rw [ih, mem_keys_put, List.map_cons, List.mem_cons, or_assoc]

def underKey (k : String) (es : Entries) : List Value := (es.filter fun e => e.1 = k).map Prod.snd

def apartFrom (k : String) (es : Entries) : Entries := es.filter fun e => e.1 ≠ k

theorem merge_cons (k : String) (v : Value) (rest fs : Entries) :
    merge ((k, v) :: rest) fs = (k, (underKey k fs).getLast?.getD v) :: merge rest (apartFrom k fs) := by
  induction fs generalizing v rest with
  | nil => rfl
  | cons p fs ih =>
      obtain ⟨j, w⟩ := p
      change merge (put ((k, v) :: rest) j w) fs = _
      by_cases same : j = k
      · subst same
        rw [put, if_pos rfl, ih, underKey, underKey, apartFrom, apartFrom, List.filter_cons_of_pos (by simp),
          List.filter_cons_of_neg (by simp), List.map_cons, List.getLast?_cons]
        rfl
      · rw [put, if_neg (Ne.symm same), ih, underKey, underKey, apartFrom, apartFrom,
          List.filter_cons_of_neg (by simpa using same), List.filter_cons_of_pos (by simpa using same)]
        rfl

end Entries

namespace Snapshot

section
variable {es : Entries} {name : String} {v w : Value}

theorem mem_givenUnder : v ∈ givenUnder name es ↔
    ∃ key, (key, v) ∈ es ∧ Bag.fold (Record.fieldName key) = Bag.fold name := by
  rw [givenUnder, List.mem_map]
  constructor
  · rintro ⟨⟨key, _⟩, member, rfl⟩
    obtain ⟨inside, under⟩ := List.mem_filter.1 member
    exact ⟨key, inside, of_decide_eq_true under⟩
  · rintro ⟨key, inside, under⟩
    exact ⟨(key, v), List.mem_filter.2 ⟨inside, decide_eq_true under⟩, rfl⟩

theorem find?_ofEntries (es : Entries) (name : String) :
    (Record.ofEntries es).find? name = (givenUnder name es).getLast? := by
  have cleaned : Record.ofEntries es = Bag.ofEntries (es.map fun e => (Record.fieldName e.1, e.2)) := by
    rw [Record.ofEntries, Bag.ofEntries, Bag.putAll, List.foldl_map]
  rw [cleaned, Bag.find?_ofEntries, List.filter_map, List.map_map, givenUnder]
  simp only [Function.comp_def]

theorem givenUnder_of_underKey (plain : Record.fieldName name = name) :
    Entries.underKey name es ⊆ givenUnder name es := by
  intro v member
  obtain ⟨e, among, rfl⟩ := List.mem_map.1 member
  obtain ⟨inside, same⟩ := List.mem_filter.1 among
  exact mem_givenUnder.2 ⟨e.1, inside, by rw [of_decide_eq_true same, plain]⟩

theorem givenUnder_of_apart : givenUnder name (Entries.merge [] (Entries.apartFrom name es)) ⊆ givenUnder name es := by
  intro v member
  obtain ⟨key, merged, under⟩ := mem_givenUnder.1 member
  rcases Entries.mem_merge merged with nowhere | among
  · cases nowhere
  · exact mem_givenUnder.2 ⟨key, List.mem_of_mem_filter among, under⟩

theorem givenUnder_eq_nil (same : Entries.underKey name es = [])
    (others : givenUnder name (Entries.merge [] (Entries.apartFrom name es)) = []) : givenUnder name es = [] := by
  refine List.eq_nil_iff_forall_not_mem.2 fun v member => ?_
  obtain ⟨key, inside, under⟩ := mem_givenUnder.1 member
  by_cases exact : key = name
  · have among : v ∈ Entries.underKey name es :=
      List.mem_map.2 ⟨(key, v), List.mem_filter.2 ⟨inside, decide_eq_true exact⟩, rfl⟩
    rw [same] at among
    cases among
  · have among : key ∈ (Entries.apartFrom name es).map Prod.fst :=
      List.mem_map.2 ⟨(key, v), List.mem_filter.2 ⟨inside, decide_eq_true exact⟩, rfl⟩
    obtain ⟨⟨_, w⟩, merged, rfl⟩ := List.mem_map.1 (Entries.mem_keys_merge.2 (.inr among))
    have present := mem_givenUnder.2 ⟨_, merged, under⟩
    rw [others] at present
    cases present

/-- What is read from a record that is handed a name: the name, unless the record has a place for it. -/
theorem find?_tableName_of_merge (es : Entries) (v : Value) :
    ∃ w, (Record.ofEntries (Entries.merge [("TableName", v)] es)).find? "TableName" = some w ∧
      if givenUnder "TableName" es = [] then w = v else w ∈ givenUnder "TableName" es := by
  have plain : Record.fieldName "TableName" = "TableName" := by decide
  let rest := givenUnder "TableName" (Entries.merge [] (Entries.apartFrom "TableName" es))
  let own := Entries.underKey "TableName" es
  have last : (Record.ofEntries (Entries.merge [("TableName", v)] es)).find? "TableName" =
      some (rest.getLast?.getD (own.getLast?.getD v)) := by
    rw [find?_ofEntries, Entries.merge_cons, givenUnder, List.filter_cons, if_pos (by rw [plain]; simp), List.map_cons,
      List.getLast?_cons]
    rfl
  have inRest : rest ⊆ givenUnder "TableName" es := givenUnder_of_apart
  have inOwn : own ⊆ givenUnder "TableName" es := givenUnder_of_underKey plain
  refine ⟨_, last, ?_⟩
  split
  · next nothing =>
      rw [nothing] at inRest inOwn
      rw [List.subset_nil.1 inRest, List.subset_nil.1 inOwn]
      rfl
  · next something =>
      cases lastOfRest : rest.getLast? with
      | some w => exact inRest (List.mem_of_getLast? lastOfRest)
      | none =>
          cases lastOfOwn : own.getLast? with
          | some w => exact inOwn (List.mem_of_getLast? lastOfOwn)
          | none => exact absurd (givenUnder_eq_nil (List.getLast?_eq_none_iff.1 lastOfOwn)
              (List.getLast?_eq_none_iff.1 lastOfRest)) something

theorem find?_table_of_merge (es : Entries) (v w : Value)
    (found : (Record.ofEntries (Entries.merge [("TableName", v)] es)).find? "Table" = some w) :
    w ∈ givenUnder "Table" es := by
  rw [find?_ofEntries] at found
  obtain ⟨key, member, under⟩ := mem_givenUnder.1 (List.mem_of_getLast? found)
  rcases Entries.mem_merge member with handed | inside
  · obtain ⟨rfl, -⟩ := Prod.mk.inj (List.mem_singleton.1 handed)
    exact absurd under (by decide)
  · exact mem_givenUnder.2 ⟨key, inside, under⟩

/-- A record that names no table is read as one of the table whose name it is handed, unless that name is blank or its
own place for it is. -/
theorem firstGiven_of_merge (unowned : namesTable (.map es) = false) (v : Value) :
    Record.firstGiven (Record.ofEntries (Entries.merge [("TableName", v)] es)) ["TableName", "Table"] =
      if hasTableName (.map es) || Record.isBlank v then none else some v := by
  have blank : ∀ name ∈ ["TableName", "Table"], ∀ w ∈ givenUnder name es, Record.isBlank w = true := by
    simpa [namesTable] using unowned
  have noTable : Record.isBlank ((Record.ofEntries (Entries.merge [("TableName", v)] es)).get "Table") = true := by
    rw [Bag.get]
    cases found : (Record.ofEntries (Entries.merge [("TableName", v)] es)).find? "Table" with
    | none => rfl
    | some w => exact blank "Table" (by decide) w (find?_table_of_merge es v w found)
  obtain ⟨w, found, place⟩ := find?_tableName_of_merge es v
  rw [Record.firstGiven, Record.firstGiven, Record.firstGiven, if_pos noTable, Bag.get, found, Option.getD_some,
    hasTableName]
  split at place
  · next nothing =>
      rw [place, nothing]
      cases Record.isBlank v <;> rfl
  · next something =>
      rw [blank "TableName" (by decide) w place, if_pos rfl, List.isEmpty_eq_false_iff.2 something]
      rfl

end

/-- Digits are a bad numeral if there are too many of them, which is not so for the code of row numbers. -/
theorem exists_decode_of_isRowNumberType {s : String} (row : isRowNumberType (some (.text s)) = true) :
    ∃ v, Record.decode Record.columnCodes (.text s) = .ok v := by
  rw [Record.decode]
  split
  · next digits =>
      rw [isRowNumberType, Bool.or_eq_true, beq_iff_eq, Bool.and_eq_true, beq_iff_eq] at row
      rcases row with rfl | ⟨-, number⟩
      · exact absurd digits (by decide)
      · rw [number]
        exact ⟨_, rfl⟩
  · exact ⟨_, rfl⟩

theorem columnType_of_isRowNumberType {b : Bag}
    (row : isRowNumberType (Record.firstGiven b ["Type", "ColumnType"]) = true) : Record.columnType b = .ok "RowNumber" := by
  obtain ⟨v, code⟩ : ∃ v, Record.decode Record.columnCodes
      ((Record.firstGiven b ["Type", "ColumnType"]).getD .null) = .ok v := by
    cases given : Record.firstGiven b ["Type", "ColumnType"] with
    | none => exact ⟨_, rfl⟩
    | some w =>
        rw [given] at row
        cases w with
        | text s => exact exists_decode_of_isRowNumberType row
        | int n =>
            rw [beq_iff_eq.1 row]
            exact ⟨_, rfl⟩
        | _ => exact ⟨_, rfl⟩
  have read : Record.columnType b = .ok _ := congrArg (Except.map _) code
  rw [read, (Record.columnType_eq_rowNumber_iff read).2 row]

theorem readColumn_of_isRowNumber {raw : Value} (row : isRowNumber raw = true) : readColumn raw = .ok none := by
  rw [isRowNumber] at row
  cases given : Record.ofValue raw with
  | error fault =>
      rw [given] at row
      cases row
  | ok b =>
      rw [given] at row
      exact bind_eq_ok_of given (bind_eq_ok_of (columnType_of_isRowNumberType row) rfl)

theorem table_of_column {b : Bag} {m : ModelObject} (read : Record.column b = .ok (some m)) :
    m.table = Record.firstText b ["TableName", "Table"] := by
  obtain ⟨type, -, read⟩ := exists_of_bind_eq_ok read
  split at read
  · cases read
  · obtain ⟨typed, -, read⟩ := exists_of_bind_eq_ok read
    cases read
    rfl

section
variable {snapshot table record raw : Value} {os : List ModelObject} {r : Records} {s : Sections} {c : Index}
  {name : String} {t m : ModelObject}

theorem exists_entries_of_nested {v : Value} (handed : nestedRecord v record = .ok raw) :
    ∃ es, record = .map es ∧ Record.ofValue raw = .ok (Record.ofEntries (Entries.merge [("TableName", v)] es)) := by
  cases record with
  | map es =>
      cases handed
      exact ⟨es, rfl, rfl⟩
  | _ => cases handed

theorem table_of_memberObject (read : memberObject name table record = .ok (some m)) :
    ∃ es, record = .map es ∧ m.table = Record.firstText
      (Record.ofEntries (Entries.merge [("TableName", (givenName? table).getD .null)] es)) ["TableName", "Table"] := by
  obtain ⟨raw, handed, read⟩ := exists_of_bind_eq_ok read
  obtain ⟨es, entries, cleaned⟩ := exists_entries_of_nested handed
  refine ⟨es, entries, ?_⟩
  split at read
  · rw [readColumn, cleaned] at read
    exact table_of_column read
  · rw [readMeasure, cleaned] at read
    cases read
    rfl

theorem exists_of_inside {rows : List Value} (inside_table : inside name table = .ok rows)
    (nested : record ∈ standingIn name table) :
    ∃ raw ∈ rows, nestedRecord ((givenName? table).getD .null) record = .ok raw := by
  obtain ⟨b, given, read⟩ := exists_of_bind_eq_ok inside_table
  obtain ⟨es, listed, read⟩ := exists_of_bind_eq_ok read
  rw [standingIn, bagOf_of_ok given, listed] at nested
  rw [givenName?, bagOf_of_ok given]
  exact (exists_of_mem_forall₂ (mapM_eq_ok_iff.1 read)).1 record nested

theorem exists_record_of_nested (recorded : Records.ofValue snapshot = .ok r) (listed : table ∈ r.tables)
    (nested : record ∈ standingIn name table) (collection : name = "Columns" ∨ name = "Measures") :
    ∃ raw ∈ if name = "Columns" then r.columns else r.measures,
      nestedRecord ((givenName? table).getD .null) record = .ok raw := by
  obtain ⟨b, -, recorded⟩ := exists_of_bind_eq_ok recorded
  obtain ⟨tables, -, recorded⟩ := exists_of_bind_eq_ok recorded
  obtain ⟨columns, -, recorded⟩ := exists_of_bind_eq_ok recorded
  obtain ⟨measures, -, recorded⟩ := exists_of_bind_eq_ok recorded
  obtain ⟨relationships, -, recorded⟩ := exists_of_bind_eq_ok recorded
  obtain ⟨nestedColumns, columnsInside, recorded⟩ := exists_of_bind_eq_ok recorded
  obtain ⟨nestedMeasures, measuresInside, recorded⟩ := exists_of_bind_eq_ok recorded
  cases recorded
  rcases collection with rfl | rfl
  · obtain ⟨rows, among, inside_table⟩ :=
      (exists_of_mem_forall₂ (mapM_eq_ok_iff.1 columnsInside)).1 table listed
    obtain ⟨raw, member, handed⟩ := exists_of_inside inside_table nested
    exact ⟨raw, List.mem_append_right _ (List.mem_flatten_of_mem among member), handed⟩
  · obtain ⟨rows, among, inside_table⟩ :=
      (exists_of_mem_forall₂ (mapM_eq_ok_iff.1 measuresInside)).1 table listed
    obtain ⟨raw, member, handed⟩ := exists_of_inside inside_table nested
    exact ⟨raw, List.mem_append_right _ (List.mem_flatten_of_mem among member), handed⟩

theorem exists_memberObject (slices : s.AreSlices c) (areOf : s.AreOf r) (recorded : Records.ofValue snapshot = .ok r)
    (listed : table ∈ r.tables) (nested : record ∈ standingIn name table) {members : List ModelObject}
    (collection : (name, members) ∈ Expr.memberLists c) :
    ∃ found, memberObject name table record = .ok found ∧ ∀ m, found = some m → m ∈ members := by
  have names := (columns_or_measures collection).imp And.left And.left
  obtain ⟨raw, among, handed⟩ := exists_record_of_nested recorded listed nested names
  rcases columns_or_measures collection with ⟨rfl, rfl⟩ | ⟨rfl, rfl⟩
  · cases row : isRowNumber raw with
    | true =>
        exact ⟨none, bind_eq_ok_of handed (readColumn_of_isRowNumber row), fun m made => by cases made⟩
    | false =>
        have kept : raw ∈ r.columns.filter fun record => !isRowNumber record :=
          List.mem_filter.2 ⟨among, by rw [row]; rfl⟩
        obtain ⟨m, inside, read⟩ := (exists_of_mem_forall₂ areOf.columns).1 raw kept
        refine ⟨some m, bind_eq_ok_of handed read, ?_⟩
        rintro _ ⟨⟩
        exact slices.columns ▸ inside
  · obtain ⟨m, inside, read⟩ := (exists_of_mem_forall₂ areOf.measures).1 raw among
    refine ⟨some m, bind_eq_ok_of handed (congrArg (Except.map some) read), ?_⟩
    rintro _ ⟨⟩
    exact slices.measures ▸ inside

theorem exists_of_tableObject (read : tableObject c table = .ok t) :
    ∃ b, Record.ofValue table = .ok b ∧ t = withCounts c.columns c.measures (Record.table b) := by
  obtain ⟨_, made, rfl⟩ := exists_of_map_eq_ok read
  obtain ⟨b, given, rfl⟩ := exists_of_map_eq_ok made
  exact ⟨b, given, rfl⟩

theorem table_of_tableObject (read : tableObject c table = .ok t) : t.table = some t.shortName := by
  obtain ⟨b, -, rfl⟩ := exists_of_tableObject read
  rw [shortName_withCounts]
  exact Record.table_of_table b

theorem table_of_givenName {w : Value} (read : tableObject c table = .ok t) (given : givenName? table = some w) :
    t.table = some w.display := by
  obtain ⟨b, cleaned, rfl⟩ := exists_of_tableObject read
  change some ((Record.firstText b ["Name", "TableName"]).getD _) = _
  rw [givenName?, bagOf_of_ok cleaned] at given
  rw [Record.firstText, given]
  rfl

theorem table_eq_iff (read : tableObject c table = .ok t) (readMember : memberObject name table record = .ok (some m))
    (unowned : namesTable record = false) :
    m.table = t.table ↔ (givenName? table).isSome = true ∧ hasTableName record = false := by
  obtain ⟨es, rfl, owner⟩ := table_of_memberObject readMember
  rw [owner, Record.firstText, firstGiven_of_merge unowned]
  cases given : givenName? table with
  | none =>
      rw [table_of_tableObject read, Option.getD_none, Record.isBlank, Bool.or_true, if_pos rfl]
      exact iff_of_false (Option.some_ne_none _).symm fun both => Bool.false_ne_true both.1
  | some w =>
      rw [table_of_givenName read given, Option.getD_some, Record.isBlank_of_firstGiven_eq_some given, Bool.or_false]
      cases hasTableName (.map es) with
      | true => exact iff_of_false (Option.some_ne_none _).symm fun both => Bool.false_ne_true both.2.symm
      | false => exact iff_of_true rfl ⟨rfl, rfl⟩

theorem find?_name_of_tableObject (read : tableObject c table = .ok t) :
    t.properties.find? "Name" = some (.text t.shortName) := by
  obtain ⟨b, -, rfl⟩ := exists_of_tableObject read
  have stored : (Record.table b).properties.get "Name" = .text (Record.table b).shortName := by
    have given := Record.get_name_of_shown b ((Record.firstText b ["Name", "TableName"]).getD
      (ModelObject.unnamed (Record.table b).kind)) (Record.table b).kind none
    exact given.trans (congrArg Value.text (Option.some.inj (Record.table_of_table b)))
  rw [shortName_withCounts, withCounts, Bag.find?_putIfAbsent_of_ne (by decide), Bag.find?_putIfAbsent_of_ne (by decide)]
  rw [Bag.get] at stored
  cases found : (Record.table b).properties.find? "Name" with
  | none =>
      rw [found] at stored
      cases stored
  | some v =>
      rw [found] at stored
      exact congrArg some stored

theorem denote_table_eq {current : Option Expr.Reference} (read : tableObject (.ofObjects os) table = .ok t)
    (owner : m.table = some t.shortName) (found : (Index.ofObjects os).table? t.shortName = some t) (head : String)
    (rest : List String) : Expr.denote ⟨.ofObjects os, current⟩ (some m) "Table" (head :: rest) =
      Expr.denote ⟨.ofObjects os, current⟩ (some t) head rest := by
  have owned : (Index.ofObjects os).table? (m.table.getD "") = some t := by
    rw [owner]
    exact found
  cases rest with
  | cons next parts => rw [Expr.denote_table, owned, Option.elim_some]
  | nil =>
      have family : Expr.families.contains "Table" = false := by decide
      rw [Expr.denote.eq_def _ (some m), family, Bool.false_and, if_neg Bool.false_ne_true, if_neg (by decide)]
      by_cases name : head = "Name"
      · have own : Expr.readProperty t "Name" = .text t.shortName := by
          rw [Expr.readProperty, if_neg (by decide), Expr.storedProperty, find?_name_of_tableObject read]
        subst name
        rw [Expr.denote, if_neg (by decide), if_neg (by decide)]
        simp only [Expr.receiver, Bind.bind, Except.bind, and_self, if_true, owner, own]
        rfl
      · simp only [Expr.receiver, Bind.bind, Except.bind, name, and_false, if_true, if_false, owned]

/-- A record that stands inside a table and names no table can be read, and its object has the table of that table's own
object exactly if the table gives a name and the record has no place for another one. Then `Table.X` reads the table, if
it alone has its name, and the table counts the object among its members, unless it is given another count. -/
theorem nested_records_know_their_table (accepted : objects snapshot = .ok os)
    (recorded : Records.ofValue snapshot = .ok r) (listed : table ∈ r.tables) {members : List ModelObject}
    (collection : (name, members) ∈ Expr.memberLists (.ofObjects os))
    (nested : record ∈ standingIn name table) (unowned : namesTable record = false) :
    ∃ t ∈ (Index.ofObjects os).tables, tableObject (.ofObjects os) table = .ok t ∧
      (∃ found, memberObject name table record = .ok found) ∧
      ∀ m, memberObject name table record = .ok (some m) → m ∈ members ∧
        (m.table = t.table ↔ (givenName? table).isSome = true ∧ hasTableName record = false) ∧
        (m.table = t.table →
          ((∀ u ∈ (Index.ofObjects os).tables, u.shortName = t.shortName → u = t) →
            ∀ current head rest, Expr.denote ⟨.ofObjects os, current⟩ (some m) "Table" (head :: rest) =
              Expr.denote ⟨.ofObjects os, current⟩ (some t) head rest) ∧
          m ∈ ownedBy members t.shortName ∧
          ((bagOf table).find? (Expr.singular name ++ "Count") = none →
            t.properties.find? (Expr.singular name ++ "Count") = some (.int (ownedBy members t.shortName).length))) := by
  obtain ⟨s, -, areOf, slices⟩ := exists_sections accepted recorded
  obtain ⟨t, among, read⟩ := (exists_of_mem_forall₂ areOf.tables).1 table listed
  rw [← slices.tables] at among
  have made : tableObject (.ofObjects os) table = .ok t := by
    rw [tableObject, slices.columns, slices.measures]
    exact read
  obtain ⟨found, readFound, inMembers⟩ := exists_memberObject slices areOf recorded listed nested collection
  refine ⟨t, among, made, ⟨found, readFound⟩, fun m readMember => ?_⟩
  have member : m ∈ members := inMembers m (Except.ok.inj (readFound.symm.trans readMember))
  refine ⟨member, table_eq_iff made readMember unowned, fun same => ?_⟩
  have owner : m.table = some t.shortName := same.trans (table_of_tableObject made)
  refine ⟨fun alone current head rest => ?_, List.mem_filter.2 ⟨member, decide_eq_true owner⟩, fun absent => ?_⟩
  · obtain ⟨u, inside, found, named⟩ := exists_table?_of_mem among
    rw [alone u inside named] at found
    exact denote_table_eq made owner found head rest
  · obtain ⟨b, cleaned, rfl⟩ := exists_of_tableObject made
    rw [bagOf_of_ok cleaned] at absent
    rw [shortName_withCounts]
    exact find?_size_withCounts collection absent

end

def bareColumn : Value := .map [("Name", .text "Qty")]

def aroundColumn (entries : Entries) : Value :=
  .map [("tables", .list [.map (entries ++ [("columns", .list [bareColumn])])])]

theorem nested_records_know_their_table_of_sales :
    let table : Value := .map [("name", .text "Sales"), ("columns", .list [bareColumn])]
    ∃ os r, objects (aroundColumn [("name", .text "Sales")]) = .ok os ∧
      Records.ofValue (aroundColumn [("name", .text "Sales")]) = .ok r ∧ table ∈ r.tables ∧
      bareColumn ∈ standingIn "Columns" table ∧ namesTable bareColumn = false ∧
      ∃ t m, tableObject (.ofObjects os) table = .ok t ∧ memberObject "Columns" table bareColumn = .ok (some m) ∧
        m ∈ (Index.ofObjects os).columns ∧ m.table = t.table ∧
        (∀ head rest, Expr.denote ⟨.ofObjects os, none⟩ (some m) "Table" (head :: rest) =
          Expr.denote ⟨.ofObjects os, none⟩ (some t) head rest) ∧
        t.properties.find? "ColumnCount" = some (.int 1) := by
  intro table
  obtain ⟨os, accepted, checked⟩ := exists_of_accepts (aroundColumn [("name", .text "Sales")])
    (fun os => (Index.ofObjects os).tables.length == 1 && (Index.ofObjects os).columns.length == 1) (by decide +kernel)
  obtain ⟨oneTable, oneColumn⟩ := Bool.and_eq_true_iff.1 checked
  have nested : bareColumn ∈ standingIn "Columns" table := by decide
  have unowned : namesTable bareColumn = false := by decide
  obtain ⟨m, read⟩ : ∃ m, memberObject "Columns" table bareColumn = .ok (some m) := by
    have some_member : (memberObject "Columns" table bareColumn).toOption.any Option.isSome = true := by decide
    obtain ⟨found, read, there⟩ := exists_of_toOption_any some_member
    obtain ⟨m, rfl⟩ := Option.isSome_iff_exists.1 there
    exact ⟨m, read⟩
  have recorded : Records.ofValue (aroundColumn [("name", .text "Sales")]) = .ok ⟨.null, [table],
      [.map [("TableName", .text "Sales"), ("Name", .text "Qty")]], [], []⟩ := by decide
  have collection : ("Columns", (Index.ofObjects os).columns) ∈ Expr.memberLists (.ofObjects os) := List.mem_cons_self
  obtain ⟨t, among, made, -, members⟩ :=
    nested_records_know_their_table accepted recorded List.mem_cons_self collection nested unowned
  obtain ⟨member, same, known⟩ := members m read
  have owned : m.table = t.table := same.2 ⟨by decide, by decide⟩
  obtain ⟨reads, counted, size⟩ := known owned
  have one : (ownedBy (Index.ofObjects os).columns t.shortName).length = 1 := by
    have most := List.length_filter_le (fun m => m.table = some t.shortName) (Index.ofObjects os).columns
    have some_member := List.length_pos_of_mem counted
    rw [ownedBy] at some_member ⊢
    rw [eq_of_beq oneColumn] at most
    omega
  have alone : ∀ u ∈ (Index.ofObjects os).tables, u.shortName = t.shortName → u = t := by
    obtain ⟨first, only⟩ := List.length_eq_one_iff.1 (eq_of_beq oneTable)
    intro u inside _
    rw [only] at inside among
    rw [List.mem_singleton.1 inside, List.mem_singleton.1 among]
  refine ⟨os, _, accepted, recorded, List.mem_cons_self, nested, unowned, t, m, made, read, member, owned,
    reads alone none, ?_⟩
  have spelled : Expr.singular "Columns" ++ "Count" = "ColumnCount" := by decide
  rw [← spelled, size (by decide), one]
  rfl

/-- A table without a name is given one after its columns have been read. -/
theorem nested_record_of_nameless_table :
    let table : Value := .map [("columns", .list [bareColumn])]
    ∃ os t m, objects (aroundColumn []) = .ok os ∧ tableObject (.ofObjects os) table = .ok t ∧
      memberObject "Columns" table bareColumn = .ok (some m) ∧ t ∈ (Index.ofObjects os).tables ∧
      m ∈ (Index.ofObjects os).columns ∧ t.table = some "Unknown_Table" ∧ m.table = none ∧
      t.properties.find? "ColumnCount" = some (.int 0) := by
  intro table
  obtain ⟨os, accepted, checked⟩ := exists_of_accepts (aroundColumn []) (fun os =>
    (tableObject (.ofObjects os) table).toOption.any fun t =>
      (memberObject "Columns" table bareColumn).toOption.any fun found => found.any fun m =>
        (Index.ofObjects os).tables.contains t && (Index.ofObjects os).columns.contains m &&
          t.table == some "Unknown_Table" && m.table == none && t.properties.find? "ColumnCount" == some (.int 0))
    (by decide +kernel)
  obtain ⟨t, made, ofTable⟩ := exists_of_toOption_any checked
  obtain ⟨_, read, ofMember⟩ := exists_of_toOption_any ofTable
  obtain ⟨m, rfl, ofBoth⟩ := (Option.any_eq_true _ _).1 ofMember
  simp only [Bool.and_eq_true, List.contains_iff_mem, beq_iff_eq] at ofBoth
  obtain ⟨⟨⟨⟨among, member⟩, name⟩, noName⟩, none⟩ := ofBoth
  exact ⟨os, t, m, accepted, made, read, among, member, name, noName, none⟩

end Snapshot

end TabularAudit
