import Mathlib.Data.List.Forall2
import TabularAudit.Model.Section
import TabularAudit.Proofs.Aggregates
import TabularAudit.Proofs.Literal
import TabularAudit.Proofs.Reordering.Sections

/-!
Reading a snapshot loses no record and doubles none: it yields one object for each, row numbers apart, and an index
keeps every object but the model in one slice and in the counts of that slice.
-/

namespace TabularAudit

def Kind.inSnapshots : List Kind :=
  [model, table, calculatedTable, dataColumn, calculatedColumn, measure, relationship]

theorem Kind.mem_inSnapshots {k : Kind} (known : ∀ name, k ≠ other name) : k ∈ inSnapshots := by
  cases k with
  | other name => exact absurd rfl (known name)
  | _ => decide

namespace Record

theorem display_eq_rowNumber_iff (v : Value) :
    (v.orElse (.text "Data")).display = "RowNumber" ↔ v = .text "RowNumber" := by
  rw [Value.orElse]
  split
  · next blank =>
      refine iff_of_false (by decide) ?_
      rintro rfl
      cases blank
  · cases v with
    | text s => simp [Value.display_text]
    | _ =>
        refine iff_of_false ?_ (by rintro ⟨⟩)
        exact ne_of_endsIn (Value.endsIn_literal rfl) (c := 'r') (by decide) (by decide)

theorem lookup_eq_rowNumber_iff {unknown : String} (other : unknown ≠ "RowNumber") (n : Int) :
    (columnCodes.lookup n).getD unknown = "RowNumber" ↔ n = 3 := by
  by_cases three : n = 3
  · subst three
    exact iff_of_true rfl rfl
  · refine iff_of_false ?_ three
    cases found : columnCodes.lookup n with
    | none => exact other
    | some word =>
        rintro rfl
        obtain ⟨before, after, split, -⟩ := List.lookup_eq_some_iff.1 found
        have member : (n, "RowNumber") ∈ columnCodes := by simp [split]
        simp [columnCodes] at member
        exact three member

theorem decode_text_eq_rowNumber_iff {s : String} {v : Value} (read : decode columnCodes (.text s) = .ok v) :
    v = .text "RowNumber" ↔ Snapshot.isRowNumberType (some (.text s)) = true := by
  rw [decode] at read
  rw [Snapshot.isRowNumberType, Bool.or_eq_true, Bool.and_eq_true, beq_iff_eq, beq_iff_eq]
  split at read
  · next digits =>
    have word : s ≠ "RowNumber" := by
      rintro rfl
      revert digits
      decide
    rw [Bool.and_eq_true] at digits
    cases number : Numeral.int? s with
    | none =>
        rw [number] at read
        cases read
    | some n =>
        rw [number] at read
        cases read
        rw [Value.text.injEq, lookup_eq_rowNumber_iff word, Option.some_inj]
        simp [word, digits.2]
  · next other =>
    cases read
    rw [Value.text.injEq, iff_self_or]
    rintro ⟨digits, number⟩
    refine absurd ?_ other
    rw [digits, Bool.and_true, Bool.not_eq_true', String.isEmpty_eq_false_iff]
    rintro rfl
    revert number
    decide

theorem name_of_decode_int {codes : Codes} {n : Int} {v : Value} (read : decode codes (.int n) = .ok v) :
    .text ((codes.lookup n).getD (toString n)) = v := by
  rw [decode, Numeral.text?] at read
  cases known : codes.lookup n with
  | some name =>
      rw [known] at read
      cases read
      rfl
  | none =>
      rw [known, Option.none_or] at read
      split at read
      · next name found =>
        cases read
        split at found <;> cases found
        rfl
      · cases read

theorem decode_eq_rowNumber_iff {given : Option Value} {v : Value} (read : decode columnCodes (given.getD .null) = .ok v) :
    v = .text "RowNumber" ↔ Snapshot.isRowNumberType given = true := by
  cases given with
  | none =>
      cases read
      exact iff_of_false nofun nofun
  | some w =>
      cases w with
      | int n =>
          have digits : toString n ≠ "RowNumber" := ne_of_endsIn (Value.endsIn_int n) (c := 'r') (by decide) (by decide)
          have named := name_of_decode_int read
          rw [← named, Value.text.injEq, lookup_eq_rowNumber_iff digits, Snapshot.isRowNumberType, beq_iff_eq]
      | text s => exact decode_text_eq_rowNumber_iff read
      | _ =>
          cases read
          exact iff_of_false nofun nofun

theorem columnType_eq_rowNumber_iff {b : Bag} {type : String} (read : columnType b = .ok type) :
    type = "RowNumber" ↔ Snapshot.isRowNumberType (firstGiven b ["Type", "ColumnType"]) = true := by
  obtain ⟨v, code, rfl⟩ := exists_of_map_eq_ok read
  rw [display_eq_rowNumber_iff, decode_eq_rowNumber_iff code]

theorem column_eq_none_iff {b : Bag} {c : Option ModelObject} (read : column b = .ok c) :
    c = none ↔ Snapshot.isRowNumberType (firstGiven b ["Type", "ColumnType"]) = true := by
  obtain ⟨type, typed, read⟩ := exists_of_bind_eq_ok read
  rw [← columnType_eq_rowNumber_iff typed]
  split at read
  · next word =>
      cases read
      exact iff_of_true rfl (beq_iff_eq.1 word)
  · next word =>
      obtain ⟨stored, -, read⟩ := exists_of_bind_eq_ok read
      cases read
      exact iff_of_false nofun fun same => word (beq_iff_eq.2 same)

end Record

namespace Snapshot

theorem bagOf_of_ok {b : Bag} {record : Value} (given : Record.ofValue record = .ok b) : bagOf record = b := by
  rw [bagOf, given]
  rfl

theorem readColumn_eq_none_iff {raw : Value} {c : Option ModelObject} (read : readColumn raw = .ok c) :
    c = none ↔ isRowNumber raw = true := by
  obtain ⟨b, given, read⟩ := exists_of_bind_eq_ok read
  rw [Record.column_eq_none_iff read, isRowNumber, given]

theorem readColumns_eq_ok {raw : List Value} {cs : List ModelObject} (read : readColumns raw = .ok cs) :
    List.Forall₂ (fun record c => readColumn record = .ok (some c)) (raw.filter fun record => !isRowNumber record) cs := by
  obtain ⟨found, each, rfl⟩ := exists_of_map_eq_ok read
  rw [mapM_eq_ok_iff] at each
  clear read
  induction each with
  | nil => exact .nil
  | @cons record c records found first rest ih =>
      cases c with
      | none =>
          rw [List.filter_cons_of_neg (by simp [(readColumn_eq_none_iff first).1 rfl])]
          exact ih
      | some c =>
          have column : isRowNumber record ≠ true := fun row => nomatch (readColumn_eq_none_iff first).2 row
          rw [List.filter_cons_of_pos (by simpa using column)]
          exact .cons first ih

theorem inside_of_ofTable {raw : Value} {n : Nested} (read : Nested.ofTable raw = .ok n) :
    inside "Columns" raw = .ok n.columns ∧ inside "Measures" raw = .ok n.measures := by
  obtain ⟨b, given, read⟩ := exists_of_bind_eq_ok read
  obtain ⟨rawColumns, columnsGiven, read⟩ := exists_of_bind_eq_ok read
  obtain ⟨columns, columnsRead, read⟩ := exists_of_bind_eq_ok read
  obtain ⟨rawMeasures, measuresGiven, read⟩ := exists_of_bind_eq_ok read
  obtain ⟨measures, measuresRead, read⟩ := exists_of_bind_eq_ok read
  cases read
  exact ⟨bind_eq_ok_of given (bind_eq_ok_of columnsGiven columnsRead),
    bind_eq_ok_of given (bind_eq_ok_of measuresGiven measuresRead)⟩

theorem inside_of_ofTables {tables : List Value} {n : Nested} (read : Nested.ofTables tables = .ok n) :
    ∃ columns measures, tables.mapM (inside "Columns") = .ok columns ∧ tables.mapM (inside "Measures") = .ok measures ∧
      n = ⟨columns.flatten, measures.flatten⟩ := by
  rw [ofTables_eq_map] at read
  obtain ⟨each, found, rfl⟩ := exists_of_map_eq_ok read
  rw [mapM_eq_ok_iff] at found
  refine ⟨each.map Nested.columns, each.map Nested.measures, ?_, ?_, rfl⟩
  · rw [mapM_eq_ok_iff, List.forall₂_map_right_iff]
    exact found.imp fun _ _ one => (inside_of_ofTable one).1
  · rw [mapM_eq_ok_iff, List.forall₂_map_right_iff]
    exact found.imp fun _ _ one => (inside_of_ofTable one).2

/-- The objects of each section are those of its records, one for each and in their order; row numbers have none. -/
structure Sections.AreOf (s : Sections) (r : Records) : Prop where
  model : readModel r.model = .ok s.model
  tables : List.Forall₂ (fun record t => (readTable record).map (withCounts s.columns s.measures) = .ok t) r.tables s.tables
  columns : List.Forall₂ (fun record c => readColumn record = .ok (some c))
    (r.columns.filter fun record => !isRowNumber record) s.columns
  measures : List.Forall₂ (fun record m => readMeasure record = .ok m) r.measures s.measures
  relationships : List.Forall₂ (fun record q => readRelationship record = .ok q) r.relationships s.relationships

theorem areOf_records {snapshot : Value} {s : Sections} (accepted : sections snapshot = .ok s) :
    ∃ r, Records.ofValue snapshot = .ok r ∧ s.AreOf r := by
  obtain ⟨b, given, accepted⟩ := exists_of_bind_eq_ok accepted
  obtain ⟨rawTables, tablesGiven, accepted⟩ := exists_of_bind_eq_ok accepted
  obtain ⟨nested, nestedRead, accepted⟩ := exists_of_bind_eq_ok accepted
  obtain ⟨tables, tablesRead, accepted⟩ := exists_of_bind_eq_ok accepted
  obtain ⟨rawColumns, columnsGiven, accepted⟩ := exists_of_bind_eq_ok accepted
  obtain ⟨columns, columnsRead, accepted⟩ := exists_of_bind_eq_ok accepted
  obtain ⟨rawMeasures, measuresGiven, accepted⟩ := exists_of_bind_eq_ok accepted
  obtain ⟨measures, measuresRead, accepted⟩ := exists_of_bind_eq_ok accepted
  obtain ⟨rawRelationships, relationshipsGiven, accepted⟩ := exists_of_bind_eq_ok accepted
  obtain ⟨relationships, relationshipsRead, accepted⟩ := exists_of_bind_eq_ok accepted
  obtain ⟨model, modelRead, accepted⟩ := exists_of_bind_eq_ok accepted
  cases accepted
  obtain ⟨nestedColumns, nestedMeasures, columnsInside, measuresInside, rfl⟩ := inside_of_ofTables nestedRead
  refine ⟨⟨b.get "model", rawTables, rawColumns ++ nestedColumns.flatten, rawMeasures ++ nestedMeasures.flatten,
    rawRelationships⟩, ?_, ?_⟩
  · exact bind_eq_ok_of given <| bind_eq_ok_of tablesGiven <| bind_eq_ok_of columnsGiven <|
      bind_eq_ok_of measuresGiven <| bind_eq_ok_of relationshipsGiven <| bind_eq_ok_of columnsInside <|
      bind_eq_ok_of measuresInside rfl
  · refine ⟨modelRead, ?_, readColumns_eq_ok columnsRead, mapM_eq_ok_iff.1 measuresRead,
      mapM_eq_ok_iff.1 relationshipsRead⟩
    rw [List.forall₂_map_right_iff]
    exact (mapM_eq_ok_iff.1 tablesRead).imp fun _ _ one => by rw [one]; rfl

end Snapshot

namespace Index

def slices (c : Index) : List (List ModelObject) := [c.tables, c.columns, c.measures, c.relationships]

theorem countP_slices {os : List ModelObject} {o : ModelObject} (member : o ∈ os) (noModel : o.kind ≠ .model)
    (known : ∀ name, o.kind ≠ .other name) : (ofObjects os).slices.countP (o ∈ ·) = 1 := by
  cases kind : o.kind with
  | model => exact absurd kind noModel
  | other name => exact absurd kind (known name)
  | _ => simp [slices, ofObjects, ofKind, member, kind, Kind.isTable, Kind.isColumn]

/-- An index counts the objects of each slice, and in each slice those of a narrower kind. -/
def CountsAddUp (c : Index) (size : Nat) : Prop :=
  ∃ tables calculatedTables columns dataColumns calculatedColumns measures relationships both manyToMany inactive,
    c.aggregates = [("TableCount", tables), ("CalculatedTableCount", calculatedTables), ("ColumnCount", columns),
      ("DataColumnCount", dataColumns), ("CalculatedColumnCount", calculatedColumns), ("MeasureCount", measures),
      ("RelationshipCount", relationships), ("BidirectionalRelationshipCount", both),
      ("ManyToManyRelationshipCount", manyToMany), ("InactiveRelationshipCount", inactive)] ∧
    tables + columns + measures + relationships + 1 = size ∧ dataColumns + calculatedColumns = columns ∧
    calculatedTables ≤ c.tables.length ∧ both ≤ c.relationships.length ∧ manyToMany ≤ c.relationships.length ∧
    inactive ≤ c.relationships.length

theorem countsAddUp {os : List ModelObject} {model : ModelObject} (split : os = model :: (ofObjects os).slices.flatten) :
    (ofObjects os).CountsAddUp os.length := by
  have total : (ofObjects os).tables.length + (ofObjects os).columns.length + (ofObjects os).measures.length +
      (ofObjects os).relationships.length + 1 = os.length := by
    have lengths := congrArg List.length split
    simp only [slices, List.flatten_cons, List.flatten_nil, List.length_cons, List.length_append,
      List.length_nil] at lengths
    omega
  have columns : (ofObjects os).columns.length =
      (ofKind os .dataColumn).length + (ofKind os .calculatedColumn).length := by
    apply length_filter_or
    intro o data
    rw [of_decide_eq_true data]
    rfl
  have calculated : (ofKind os .calculatedTable).length ≤ (ofObjects os).tables.length := by
    apply List.Sublist.length_le
    apply List.monotone_filter_right
    intro o kind
    rw [of_decide_eq_true kind]
    rfl
  exact ⟨_, _, _, _, _, _, _, _, _, _, rfl, total, columns.symm, calculated, List.length_filter_le _ _,
    List.length_filter_le _ _, List.length_filter_le _ _⟩

end Index

namespace Snapshot

variable {snapshot : Value} {s : Sections} {os : List ModelObject}

theorem slices_of_sections (read : s.AreRead) :
    (Index.ofObjects s.objects).slices = [s.tables, s.columns, s.measures, s.relationships] := by
  have tables := filter_objects read Kind.isTable rfl rfl
  have columns := filter_objects read Kind.isColumn rfl rfl
  have measures := filter_objects read (fun k => k = .measure) rfl rfl
  have relationships := filter_objects read (fun k => k = .relationship) rfl rfl
  simp only [Index.slices, Index.ofObjects, Index.ofKind, tables, columns, measures, relationships]
  simp [Kind.isTable, Kind.isColumn]

structure Sections.AreSlices (s : Sections) (c : Index) : Prop where
  tables : c.tables = s.tables
  columns : c.columns = s.columns
  measures : c.measures = s.measures
  relationships : c.relationships = s.relationships

theorem exists_sections {r : Records} (accepted : objects snapshot = .ok os) (recorded : Records.ofValue snapshot = .ok r) :
    ∃ s : Sections, os = s.objects ∧ s.AreOf r ∧ s.AreSlices (.ofObjects os) := by
  rw [objects_eq] at accepted
  obtain ⟨s, found, rfl⟩ := exists_of_map_eq_ok accepted
  obtain ⟨r', recorded', areOf⟩ := areOf_records found
  cases recorded.symm.trans recorded'
  have slices := slices_of_sections (areRead_of_sections found)
  simp only [Index.slices, List.cons.injEq, and_true] at slices
  obtain ⟨tables, columns, measures, relationships⟩ := slices
  exact ⟨s, rfl, areOf, tables, columns, measures, relationships⟩

theorem Sections.AreOf.record_of_table {r : Records} (areOf : s.AreOf r) {t : ModelObject} (member : t ∈ s.tables) :
    ∃ record ∈ r.tables, ∃ b, Record.ofValue record = .ok b ∧ t = withCounts s.columns s.measures (Record.table b) := by
  obtain ⟨record, inside, read⟩ := (exists_of_mem_forall₂ areOf.tables).2 t member
  obtain ⟨_, made, rfl⟩ := exists_of_map_eq_ok read
  obtain ⟨b, given, rfl⟩ := exists_of_map_eq_ok made
  exact ⟨record, inside, b, given, rfl⟩

/-- Each record has one object, in the order of sections and records, and each object is in one slice and its counts. -/
theorem one_object_per_record (accepted : objects snapshot = .ok os) :
    ∃ (r : Records) (s : Sections), Records.ofValue snapshot = .ok r ∧ os = s.objects ∧ s.AreOf r ∧ Index.ofKind os .model = [s.model] ∧
      (∀ o ∈ os, o.name ≠ "" ∧ o.kind ∈ Kind.inSnapshots) ∧
      (Index.ofObjects os).slices = [s.tables, s.columns, s.measures, s.relationships] ∧
      (∀ o ∈ os, o.kind ≠ .model → (Index.ofObjects os).slices.countP (o ∈ ·) = 1) ∧
      (Index.ofObjects os).CountsAddUp os.length := by
  have labelled : ∀ o ∈ os, o.name ≠ "" := fun o member => (isLabelled_of_accepted accepted member).named
  have known : ∀ o ∈ os, ∀ name, o.kind ≠ .other name := fun o member => kind_ne_other accepted member
  rw [objects_eq] at accepted
  obtain ⟨s, found, rfl⟩ := exists_of_map_eq_ok accepted
  obtain ⟨r, recorded, areOf⟩ := areOf_records found
  have read := areRead_of_sections found
  have slices := slices_of_sections read
  have split : s.objects = s.model :: (Index.ofObjects s.objects).slices.flatten := by
    rw [slices]
    simp [Sections.objects]
  refine ⟨r, s, recorded, rfl, areOf, ?_, fun o member => ⟨labelled o member, Kind.mem_inSnapshots (known o member)⟩, slices,
    fun o member noModel => Index.countP_slices member noModel (known o member), Index.countsAddUp split⟩
  simpa [Index.ofKind] using filter_objects read (fun k => k = .model) rfl rfl

def mixedRecords : Value :=
  .map [("Tables", .list [.map [("Name", .text "Sales"), ("Measures", .list [.map []]),
      ("Columns", .list [.map [("Name", .text "Amount")], .map [("[Type]", .text "３")]])], .null]),
    ("columns", .list [.map [("ColumnType", .int 3)], .map [("Type", .int 2), ("TableName", .text "Date")]]),
    ("relationships", .list [.map [("IsActive", .bool false)]])]

theorem one_object_per_mixed_record :
    ∃ (os : List ModelObject) (r : Records) (s : Sections), objects mixedRecords = .ok os ∧
      Records.ofValue mixedRecords = .ok r ∧ os = s.objects ∧ s.AreOf r ∧ os.length = 7 ∧ r.columns.length = 4 ∧
      s.columns.length = 2 ∧ (Index.ofObjects os).CountsAddUp 7 := by
  obtain ⟨os, accepted, checked⟩ := exists_of_accepts mixedRecords
    (fun os => os.length == 7 && (Index.ofObjects os).columns.length == 2) (by decide +kernel)
  have recorded : (Records.ofValue mixedRecords).toOption.map (fun r => r.columns.length) = some 4 := by decide +kernel
  obtain ⟨r, s, read, whole, areOf, -, -, slices, -, counts⟩ := one_object_per_record accepted
  simp only [Bool.and_eq_true, beq_iff_eq] at checked
  simp only [Index.slices, List.cons.injEq] at slices
  rw [read] at recorded
  exact ⟨os, r, s, accepted, read, whole, areOf, checked.1, Option.some.inj recorded, slices.2.1 ▸ checked.2,
    checked.1 ▸ counts⟩

end Snapshot

end TabularAudit
