import TabularAudit.Model.Shape
import TabularAudit.Proofs.Census
import TabularAudit.Proofs.Codes
import TabularAudit.Proofs.RelationshipEnds

/-!
Which snapshots are read. Of records in their places nothing can stop the reading, whatever values they hold, but a code
that no number is read from: a text of digit signs of which one does not count in a numeral.
-/

namespace TabularAudit

/-- What succeeds exactly under a condition, and otherwise fails for a bad numeral. -/
structure ReadsIf {α : Type} (p : Prop) (x : Except Fault α) : Prop where
  accepted : p → ∃ a, x = .ok a
  refused : ¬p → x = .error .badNumeral

namespace ReadsIf

variable {α β : Type} {p q : Prop} {x : Except Fault α} {a : α} {as : List α}

theorem of_eq_ok (read : x = .ok a) : ReadsIf True x := ⟨fun _ => ⟨a, read⟩, fun never => absurd trivial never⟩

theorem congr (same : p ↔ q) (reads : ReadsIf p x) : ReadsIf q x := ⟨reads.accepted ∘ same.2, reads.refused ∘ mt same.1⟩

theorem map (f : α → β) (reads : ReadsIf p x) : ReadsIf p (x.map f) := by
  constructor
  · intro holds
    obtain ⟨a, read⟩ := reads.accepted holds
    exact ⟨f a, by rw [read]; rfl⟩
  · intro fails
    rw [reads.refused fails]
    rfl

theorem bind {f : α → Except Fault β} (first : ReadsIf p x) (next : ∀ a, x = .ok a → ReadsIf q (f a)) :
    ReadsIf (p ∧ q) (x >>= f) := by
  by_cases holds : p
  · obtain ⟨a, read⟩ := first.accepted holds
    rw [read]
    exact (next a read).congr (and_iff_right holds).symm
  · refine ⟨fun both => absurd both.1 holds, fun _ => ?_⟩
    rw [first.refused holds]
    rfl

theorem after {f : α → Except Fault β} (first : x = .ok a) (next : ReadsIf p (f a)) : ReadsIf p (x >>= f) := by
  rw [first]
  exact next

theorem mapM {f : α → Except Fault β} {p : α → Prop} (each : ∀ a ∈ as, ReadsIf (p a) (f a)) :
    ReadsIf (∀ a ∈ as, p a) (as.mapM f) := by
  induction as with
  | nil => exact (of_eq_ok rfl).congr (iff_of_true trivial (List.forall_mem_nil _))
  | cons a as ih =>
      obtain ⟨first, rest⟩ := List.forall_mem_cons.1 each
      rw [List.mapM_cons]
      refine (first.bind fun b _ => ?_).congr List.forall_mem_cons.symm
      exact ((ih rest).bind fun bs _ => of_eq_ok rfl).congr (and_iff_left trivial)

end ReadsIf

theorem exists_mapM {α β : Type} {f : α → Except Fault β} {as : List α} (each : ∀ a ∈ as, ∃ b, f a = .ok b) :
    ∃ bs, as.mapM f = .ok bs := by
  have reads : ReadsIf (∀ a ∈ as, True) (as.mapM f) := ReadsIf.mapM fun a member => by
    obtain ⟨b, read⟩ := each a member
    exact .of_eq_ok read
  exact reads.accepted fun _ _ => trivial

namespace Record

variable {codes : Codes} {b : Bag} {raw : Value}

theorem readsIf_decode_digits {s : String} (digits : s.toList.all Text.isDigit = true) :
    ReadsIf ((s.toList.all Text.isDecimal && s.length ≤ Numeral.maxDigits) = true) (decode codes (.text s)) := by
  by_cases given : s = ""
  · subst given
    exact (ReadsIf.of_eq_ok rfl).congr (iff_of_true trivial (by decide))
  · have number := Numeral.int?_of_digits (List.all_eq_true.1 digits) given
    rw [Bool.and_eq_true, decide_eq_true_eq]
    split at number
    · next decimal => exact (ReadsIf.of_eq_ok (decode_of_digits digits given number)).congr (iff_of_true trivial decimal)
    · next other =>
      refine ⟨fun decimal => absurd decimal other, fun _ => ?_⟩
      rw [decode, digits, String.isEmpty_eq_false_iff.2 given, number]
      rfl

theorem readsIf_decode (short : ∀ e ∈ codes, (Numeral.text? e.1).isSome = true) (v : Value) :
    ReadsIf (isReadable v = true) (decode codes v) := by
  cases v with
  | int n =>
      rw [decode, isReadable]
      cases known : codes.lookup n with
      | some name =>
          obtain ⟨before, after, split, -⟩ := List.lookup_eq_some_iff.1 known
          have written := short (n, name) (by simp [split])
          exact (ReadsIf.of_eq_ok rfl).congr (iff_of_true trivial written)
      | none =>
          rw [Option.none_or]
          cases Numeral.text? n with
          | none => exact ⟨fun never => absurd never Bool.false_ne_true, fun _ => rfl⟩
          | some s => exact (ReadsIf.of_eq_ok rfl).congr (iff_of_true trivial rfl)
  | text s =>
      cases digits : s.toList.all Text.isDigit with
      | false =>
          refine (ReadsIf.of_eq_ok (decode_of_not_digits digits)).congr (iff_of_true trivial ?_)
          rw [isReadable, digits]
          rfl
      | true => exact (readsIf_decode_digits digits).congr (by rw [isReadable, digits, Bool.not_true, Bool.false_or])
  | _ => exact (ReadsIf.of_eq_ok rfl).congr (iff_of_true trivial rfl)

theorem readsIf_decoded (short : ∀ e ∈ codes, (Numeral.text? e.1).isSome = true) (b : Bag) (name : String)
    (given : Option Value) : ReadsIf (∀ code ∈ given.toList, isReadable code = true) (decoded b codes name given) := by
  cases given with
  | none => exact (ReadsIf.of_eq_ok rfl).congr (iff_of_true trivial (List.forall_mem_nil _))
  | some v => exact ((readsIf_decode short v).map (b.put name)).congr (by simp)

theorem readsIf_columnType (b : Bag) :
    ReadsIf (∀ code ∈ (firstGiven b ["Type", "ColumnType"]).toList, isReadable code = true) (columnType b) := by
  refine ((readsIf_decode (by decide) _).map _).congr ?_
  cases firstGiven b ["Type", "ColumnType"] with
  | none => exact iff_of_true rfl (List.forall_mem_nil _)
  | some v => simp

theorem readsIf_column (b : Bag) : ReadsIf (∀ code ∈ codesOfColumn b, isReadable code = true) (column b) := by
  rw [codesOfColumn]
  refine ((readsIf_columnType b).bind fun type typeRead => ?_).congr List.forall_mem_append.symm
  have row := columnType_eq_rowNumber_iff typeRead
  by_cases word : type = "RowNumber"
  · rw [if_pos (row.1 word), if_pos (beq_iff_eq.2 word)]
    exact (ReadsIf.of_eq_ok rfl).congr (iff_of_true trivial (List.forall_mem_nil _))
  · rw [if_neg (mt row.2 word), if_neg (mt beq_iff_eq.1 word)]
    refine ((readsIf_decoded (by decide) b "DataType" _).bind fun typed _ => ?_).congr (and_iff_left trivial)
    exact .of_eq_ok rfl

theorem readsIf_relationship (b : Bag) :
    ReadsIf (∀ code ∈ codesOfRelationship b, isReadable code = true) (relationship b) := by
  have kept : ∀ name ∈ ["CrossFilteringBehavior", "CrossFilterDirection"] ++ ["FromCardinality", "ToCardinality"],
      (endProperties.foldl (withEnd b) b).find? name = b.find? name := by
    have apart : ∀ name ∈ ["CrossFilteringBehavior", "CrossFilterDirection"] ++ ["FromCardinality", "ToCardinality"],
        ∀ property ∈ endProperties, Bag.fold property ≠ Bag.fold name := by decide
    exact fun name member => find?_withEnds (apart name member) b
  have direction : firstGiven (endProperties.foldl (withEnd b) b) ["CrossFilteringBehavior", "CrossFilterDirection"] =
      firstGiven b ["CrossFilteringBehavior", "CrossFilterDirection"] :=
    firstGiven_congr fun name member => Bag.get_congr (kept name (List.mem_append_left _ member))
  have whole : ∀ code, code ∈ codesOfRelationship b ↔
      code ∈ (firstGiven b ["CrossFilteringBehavior", "CrossFilterDirection"]).toList ∨
        code ∈ (b.find? "FromCardinality").toList ∨ code ∈ (b.find? "ToCardinality").toList := by
    intro code
    rw [codesOfRelationship, List.mem_append, List.mem_append, or_assoc]
  simp only [whole, or_imp, forall_and]
  rw [relationship, direction]
  refine (readsIf_decoded (by decide) _ _ _).bind fun directed stored => ?_
  have source : directed.find? "FromCardinality" = b.find? "FromCardinality" := by
    rw [find?_decoded_of_ne (by decide) stored, kept _ (by decide)]
  rw [source]
  refine (readsIf_decoded (by decide) _ _ _).bind fun half halfStored => ?_
  have target : half.find? "ToCardinality" = b.find? "ToCardinality" := by
    rw [find?_decoded_of_ne (by decide) halfStored, find?_decoded_of_ne (by decide) stored, kept _ (by decide)]
  rw [target]
  refine ((readsIf_decoded (by decide) _ _ _).bind fun whole _ => ?_).congr (and_iff_left trivial)
  exact .of_eq_ok rfl

end Record

namespace Snapshot

open Record

variable {snapshot raw table : Value} {raws : List Value} {b : Bag} {name : String}

theorem ofValue_of_isRecord (record : isRecord raw = true) : Record.ofValue raw = .ok (bagOf raw) := by
  cases raw with
  | map entries => rfl
  | _ => cases record

theorem exists_records (given : areRecords (b.get name) = true) :
    ∃ raws, records b name = .ok raws ∧ ∀ raw ∈ raws, isRecord raw = true := by
  rw [records]
  cases found : b.get name with
  | null => exact ⟨[], rfl, List.forall_mem_nil _⟩
  | list items =>
      rw [found] at given
      cases items with
      | nil => exact ⟨[], rfl, List.forall_mem_nil _⟩
      | cons raw raws => exact ⟨raw :: raws, rfl, List.all_eq_true.1 given⟩
  | _ =>
      rw [found] at given
      cases given

theorem exists_nestedRecords (each : ∀ raw ∈ raws, isRecord raw = true) (owner : Value) :
    ∃ handed, raws.mapM (nestedRecord owner) = .ok handed ∧ ∀ raw ∈ handed, isRecord raw = true := by
  have handOn : ∀ raw ∈ raws, ∃ entries, nestedRecord owner raw = .ok (.map entries) := by
    intro raw member
    have record := each raw member
    cases raw with
    | map entries => exact ⟨_, rfl⟩
    | _ => cases record
  obtain ⟨handed, read⟩ := exists_mapM (f := nestedRecord owner) fun raw member => by
    obtain ⟨entries, one⟩ := handOn raw member
    exact ⟨_, one⟩
  refine ⟨handed, read, fun raw member => ?_⟩
  obtain ⟨before, inside, one⟩ := exists_of_mem_mapM read raw member
  obtain ⟨entries, same⟩ := handOn before inside
  cases one.symm.trans same
  rfl

structure Nested.AreRecords (n : Nested) : Prop where
  columns : ∀ raw ∈ n.columns, isRecord raw = true
  measures : ∀ raw ∈ n.measures, isRecord raw = true

theorem exists_ofTable (record : isRecord table = true)
    (inside : ∀ name ∈ ["Columns", "Measures"], areRecords ((bagOf table).get name) = true) :
    ∃ n, Nested.ofTable table = .ok n ∧ n.AreRecords := by
  obtain ⟨rawColumns, columnsGiven, eachColumn⟩ := exists_records (inside "Columns" (by decide))
  obtain ⟨rawMeasures, measuresGiven, eachMeasure⟩ := exists_records (inside "Measures" (by decide))
  obtain ⟨columns, columnsRead, areColumns⟩ := exists_nestedRecords eachColumn ((givenName? table).getD .null)
  obtain ⟨measures, measuresRead, areMeasures⟩ := exists_nestedRecords eachMeasure ((givenName? table).getD .null)
  exact ⟨⟨columns, measures⟩, bind_eq_ok_of (ofValue_of_isRecord record) <| bind_eq_ok_of columnsGiven <|
    bind_eq_ok_of columnsRead <| bind_eq_ok_of measuresGiven <| bind_eq_ok_of measuresRead rfl, areColumns, areMeasures⟩

theorem exists_ofTables (each : ∀ table ∈ raws, isRecord table = true)
    (inside : ∀ table ∈ raws, ∀ name ∈ ["Columns", "Measures"], areRecords ((bagOf table).get name) = true) :
    ∃ n, Nested.ofTables raws = .ok n ∧ n.AreRecords := by
  induction raws with
  | nil => exact ⟨{}, rfl, List.forall_mem_nil _, List.forall_mem_nil _⟩
  | cons table raws ih =>
      obtain ⟨record, others⟩ := List.forall_mem_cons.1 each
      obtain ⟨here, later⟩ := List.forall_mem_cons.1 inside
      obtain ⟨one, oneRead, oneRecords⟩ := exists_ofTable record here
      obtain ⟨more, moreRead, moreRecords⟩ := ih others later
      refine ⟨_, bind_eq_ok_of oneRead (bind_eq_ok_of moreRead rfl), ?_, ?_⟩
      · exact List.forall_mem_append.2 ⟨oneRecords.columns, moreRecords.columns⟩
      · exact List.forall_mem_append.2 ⟨oneRecords.measures, moreRecords.measures⟩

theorem readsIf_readColumns (each : ∀ raw ∈ raws, isRecord raw = true) :
    ReadsIf (∀ raw ∈ raws, ∀ code ∈ codesOfColumn (bagOf raw), isReadable code = true) (readColumns raws) := by
  refine (ReadsIf.mapM fun raw member => ?_).map _
  exact .after (ofValue_of_isRecord (each raw member)) (readsIf_column (bagOf raw))

theorem readsIf_readRelationships (each : ∀ raw ∈ raws, isRecord raw = true) :
    ReadsIf (∀ raw ∈ raws, ∀ code ∈ codesOfRelationship (bagOf raw), isReadable code = true)
      (raws.mapM readRelationship) :=
  ReadsIf.mapM fun raw member => .after (ofValue_of_isRecord (each raw member)) (readsIf_relationship (bagOf raw))

structure HasShape (b : Bag) : Prop where
  model : b.get "model" = .null ∨ isRecord (b.get "model") = true
  sections : ∀ name ∈ ["tables", "columns", "measures", "relationships"], areRecords (b.get name) = true
  inside : ∀ table ∈ (records b "tables").toOption.getD [], ∀ name ∈ ["Columns", "Measures"],
    areRecords ((bagOf table).get name) = true

theorem exists_hasShape (shaped : isShaped snapshot = true) : ∃ b, Bag.ofValue snapshot = .ok b ∧ HasShape b := by
  cases snapshot with
  | map entries =>
      rw [isShaped, Bool.and_eq_true, Bool.and_eq_true, Bool.or_eq_true, beq_iff_eq] at shaped
      obtain ⟨⟨model, sections⟩, inside⟩ := shaped
      refine ⟨_, rfl, model, List.all_eq_true.1 sections, fun table member => ?_⟩
      exact List.all_eq_true.1 (List.all_eq_true.1 inside table member)
  | _ => cases shaped

/-- A snapshot of records in their places is read exactly if all codes can be read that are decoded in it, and otherwise it
fails for a bad numeral. Nothing else in the records can stop the reading. -/
theorem read_unless_code_is_unreadable (shaped : isShaped snapshot = true) :
    ∃ r, Records.ofValue snapshot = .ok r ∧
      ((∀ code ∈ r.codes, isReadable code = true) → ∃ os, objects snapshot = .ok os) ∧
      (¬(∀ code ∈ r.codes, isReadable code = true) → objects snapshot = .error .badNumeral) := by
  obtain ⟨b, given, shape⟩ := exists_hasShape shaped
  obtain ⟨tables, tablesGiven, areTables⟩ := exists_records (shape.sections "tables" (by decide))
  obtain ⟨columns, columnsGiven, areColumns⟩ := exists_records (shape.sections "columns" (by decide))
  obtain ⟨measures, measuresGiven, areMeasures⟩ := exists_records (shape.sections "measures" (by decide))
  obtain ⟨relationships, relationshipsGiven, areRelationships⟩ := exists_records (shape.sections "relationships" (by decide))
  have inside := shape.inside
  rw [tablesGiven] at inside
  obtain ⟨nested, nestedGiven, areNested⟩ := exists_ofTables areTables inside
  obtain ⟨nestedColumns, nestedMeasures, columnsInside, measuresInside, rfl⟩ := inside_of_ofTables nestedGiven
  let r : Records := ⟨b.get "model", tables, columns ++ nestedColumns.flatten, measures ++ nestedMeasures.flatten,
    relationships⟩
  have recorded : Records.ofValue snapshot = .ok r :=
    bind_eq_ok_of given <| bind_eq_ok_of tablesGiven <| bind_eq_ok_of columnsGiven <| bind_eq_ok_of measuresGiven <|
      bind_eq_ok_of relationshipsGiven <| bind_eq_ok_of columnsInside <| bind_eq_ok_of measuresInside rfl
  obtain ⟨tableObjects, tablesRead⟩ : ∃ os, r.tables.mapM readTable = .ok os :=
    exists_mapM fun raw member => ⟨_, congrArg (Except.map Record.table) (ofValue_of_isRecord (areTables raw member))⟩
  obtain ⟨measureObjects, measuresRead⟩ : ∃ os, r.measures.mapM readMeasure = .ok os :=
    exists_mapM fun raw member => ⟨_, congrArg (Except.map Record.measure)
      (ofValue_of_isRecord (List.forall_mem_append.2 ⟨areMeasures, areNested.measures⟩ raw member))⟩
  obtain ⟨modelObject, modelRead⟩ : ∃ o, readModel (b.get "model") = .ok o := by
    rcases shape.model with missing | record
    · rw [missing]
      exact ⟨_, rfl⟩
    · exact ⟨_, congrArg (Except.map Record.model) (ofValue_of_isRecord record)⟩
  have reads : ReadsIf ((∀ raw ∈ r.columns, ∀ code ∈ codesOfColumn (bagOf raw), isReadable code = true) ∧
      ∀ raw ∈ r.relationships, ∀ code ∈ codesOfRelationship (bagOf raw), isReadable code = true) (objects snapshot) := by
    rw [objects]
    refine .after given (.after tablesGiven (.after nestedGiven (.after tablesRead (.after columnsGiven ?_))))
    refine (readsIf_readColumns (List.forall_mem_append.2 ⟨areColumns, areNested.columns⟩)).bind fun columnObjects _ => ?_
    refine .after measuresGiven (.after measuresRead (.after relationshipsGiven ?_))
    refine ((readsIf_readRelationships areRelationships).bind fun relationshipObjects _ => ?_).congr (and_iff_left trivial)
    exact .after modelRead (.of_eq_ok rfl)
  have codes : (∀ code ∈ r.codes, isReadable code = true) ↔
      (∀ raw ∈ r.columns, ∀ code ∈ codesOfColumn (bagOf raw), isReadable code = true) ∧
        ∀ raw ∈ r.relationships, ∀ code ∈ codesOfRelationship (bagOf raw), isReadable code = true := by
    rw [Records.codes, List.forall_mem_append, List.forall_mem_flatMap, List.forall_mem_flatMap]
  exact ⟨r, recorded, (reads.congr codes.symm).accepted, (reads.congr codes.symm).refused⟩

def oddRecords : Value :=
  .map [("model", .map [("Name", .list [])]),
    ("Tables", .list [.map [("Name", .int 7), ("Measures", .list [.map []]),
      ("Columns", .list [.map [("[Type]", .text "２"), ("Name", .bool false)]])]]),
    ("columns", .list [.map [("ColumnType", .int 3), ("DataType", .text "²")]]), ("measures", .null),
    ("relationships", .list [.map [("FromCardinality", .text "07"), ("CrossFilterDirection", .map []), ("ToTable", .int 0)]])]

theorem read_of_odd_records :
    isShaped oddRecords = true ∧ ∃ r os, Records.ofValue oddRecords = .ok r ∧ (∀ code ∈ r.codes, isReadable code = true) ∧
      objects oddRecords = .ok os ∧
      os.map ModelObject.name = ["Model", "'7'", "'7'[False]", "'7'[Unknown_Measure]", "Unknown_Relationship"] := by
  have shaped : isShaped oddRecords = true := by decide
  obtain ⟨r, recorded, accepted, -⟩ := read_unless_code_is_unreadable shaped
  have readable : (Records.ofValue oddRecords).toOption.all (fun r => r.codes.all isReadable) = true := by decide +kernel
  have named : (objects oddRecords).toOption.all (fun os => os.map ModelObject.name ==
      ["Model", "'7'", "'7'[False]", "'7'[Unknown_Measure]", "Unknown_Relationship"]) = true := by decide +kernel
  rw [recorded] at readable
  have codes := List.all_eq_true.1 readable
  obtain ⟨os, read⟩ := accepted codes
  rw [read] at named
  exact ⟨shaped, r, os, recorded, codes, read, beq_iff_eq.1 named⟩

def superscriptType : Value :=
  .map [("columns", .list [.map [("Name", .text "c"), ("TableName", .text "T"), ("Type", .text "²")]])]

/-- A superscript is a digit sign, but no number is read from it. -/
theorem reading_fails_of_superscript :
    isShaped superscriptType = true ∧ "²".length ≤ Numeral.maxDigits ∧ objects superscriptType = .error .badNumeral ∧
      ¬∃ os, objects superscriptType = .ok os := by
  have failed : objects superscriptType = .error .badNumeral := by decide +kernel
  refine ⟨by decide, by decide, failed, ?_⟩
  rintro ⟨os, read⟩
  rw [failed] at read
  cases read

end Snapshot

end TabularAudit
