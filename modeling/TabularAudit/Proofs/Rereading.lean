import TabularAudit.Proofs.Codes
import TabularAudit.Proofs.RelationshipEnds
import TabularAudit.Proofs.Tidy

/-!
The properties of an object are a record of it: read once more, they give the same object. Whatever is written back under
a name that is also read is a fixed point of what reads it.
-/

namespace TabularAudit

namespace Record

section
variable {b c p : Bag} {name property : String} {names : List String} {kind : Kind} {table : Option String}

theorem firstText_congr (same : ∀ name ∈ names, b.get name = c.get name) : firstText b names = firstText c names := by
  rw [firstText, firstText, firstGiven_congr same]

theorem firstGiven_of_find? {v : Value} (found : b.find? name = some v) (given : isBlank v = false) (rest : List String) :
    firstGiven b (name :: rest) = some v := by
  rw [firstGiven, Bag.get_of_find? found, given]
  rfl

theorem firstText_of_find? {s : String} (found : b.find? name = some (.text s)) (given : s ≠ "") (rest : List String) :
    firstText b (name :: rest) = some s := by
  rw [firstText, firstGiven_of_find? found (String.isEmpty_eq_false_iff.2 given)]
  rfl

theorem ne_empty_of_firstText {s : String} (found : firstText b names = some s) : s ≠ "" := by
  obtain ⟨v, given, rfl⟩ := Option.map_eq_some_iff.1 found
  exact display_ne_empty (isBlank_of_firstGiven_eq_some given)

theorem find?_identified_name (b : Bag) (name : String) (kind : Kind) :
    (identified b name kind).find? "Name" = some (.text name) := by
  rw [identified, Bag.find?_put_of_ne (by decide), Bag.find?_put, if_pos rfl]

theorem identified_of_find? (named : p.find? "Name" = some (.text name))
    (typed : p.find? "ObjectTypeName" = some (.text kind.text)) : identified p name kind = p := by
  rw [identified, Bag.put_of_find? named, Bag.put_of_find? typed]

/-- What is stored with a table, column or measure. -/
def labelProperties : List String := ["Name", "ObjectTypeName", "TableName", "IsHidden"]

theorem find?_shown_of_apart (b : Bag) (name : String) (kind : Kind) (table : Option String)
    (apart : ∀ label ∈ labelProperties, Bag.fold label ≠ Bag.fold property) :
    (shown (owned (identified b name kind) table)).find? property = b.find? property := by
  have owner : (owned (identified b name kind) table).find? property = (identified b name kind).find? property := by
    cases table with
    | none => rfl
    | some table => exact Bag.find?_put_of_ne (apart _ (by decide)) _ _
  rw [shown, Bag.find?_putIfAbsent_of_ne (apart _ (by decide)), owner, identified,
    Bag.find?_put_of_ne (apart _ (by decide)), Bag.find?_put_of_ne (apart _ (by decide))]

structure HasLabels (p : Bag) (name : String) (kind : Kind) (table : Option String) : Prop where
  name : p.find? "Name" = some (.text name)
  kind : p.find? "ObjectTypeName" = some (.text kind.text)
  table : ∀ t, table = some t → p.find? "TableName" = some (.text t)
  hidden : p.contains "IsHidden" = true

theorem hasLabels_shown (b : Bag) (name : String) (kind : Kind) (table : Option String) :
    HasLabels (shown (owned (identified b name kind) table)) name kind table where
  name := Bag.find?_of_get_eq (get_name_of_shown b name kind table) nofun
  kind := by
    have owner : (owned (identified b name kind) table).find? "ObjectTypeName" =
        (identified b name kind).find? "ObjectTypeName" := by
      cases table with
      | none => rfl
      | some table => exact Bag.find?_put_of_ne (by decide) _ _
    rw [shown, Bag.find?_putIfAbsent_of_ne (by decide), owner, identified, Bag.find?_put, if_pos rfl]
  table := by
    rintro t rfl
    rw [shown, Bag.find?_putIfAbsent_of_ne (by decide), owned, Bag.find?_put, if_pos rfl]
  hidden := Bag.contains_putIfAbsent _ _ _

theorem HasLabels.shown_eq (labelled : HasLabels p name kind table) :
    shown (owned (identified p name kind) table) = p := by
  have owner : owned p table = p := by
    cases table with
    | none => rfl
    | some t => exact Bag.put_of_find? (labelled.table t rfl)
  rw [identified_of_find? labelled.name labelled.kind, owner, shown, Bag.putIfAbsent_of_contains labelled.hidden]

theorem firstText_owner_of_shown (owner : firstText b ["TableName", "Table"] = table) (name : String) (kind : Kind) :
    firstText (shown (owned (identified b name kind) table)) ["TableName", "Table"] = table := by
  cases table with
  | some t => exact firstText_of_find? ((hasLabels_shown b name kind _).table t rfl) (ne_empty_of_firstText owner) _
  | none =>
      have apart : ∀ property ∈ ["TableName", "Table"], ∀ label ∈ ["Name", "ObjectTypeName", "IsHidden"],
          Bag.fold label ≠ Bag.fold property := by decide
      refine (firstText_congr fun property member => Bag.get_congr ?_).trans owner
      rw [owned, shown, Bag.find?_putIfAbsent_of_ne (apart property member _ (by decide)), identified,
        Bag.find?_put_of_ne (apart property member _ (by decide)), Bag.find?_put_of_ne (apart property member _ (by decide))]

theorem firstGiven_of_shown (b : Bag) (name : String) (kind : Kind) (table : Option String)
    (apart : ∀ property ∈ names, ∀ label ∈ labelProperties, Bag.fold label ≠ Bag.fold property) :
    firstGiven (shown (owned (identified b name kind) table)) names = firstGiven b names :=
  firstGiven_congr fun property member => Bag.get_congr (find?_shown_of_apart b name kind table (apart property member))

theorem firstText_of_shown (b : Bag) (name : String) (kind : Kind) (table : Option String)
    (apart : ∀ property ∈ names, ∀ label ∈ labelProperties, Bag.fold label ≠ Bag.fold property) :
    firstText (shown (owned (identified b name kind) table)) names = firstText b names := by
  rw [firstText, firstText, firstGiven_of_shown b name kind table apart]

end

theorem model_model (b : Bag) : model (model b).properties = model b := by
  let given := (firstGiven b ["Name", "ModelName", "DatabaseName"]).getD .null
  let name := (given.orElse (.text "Model")).display
  have named : (model b).properties.find? "Name" = some (.text name) := find?_identified_name _ _ _
  have typed : (model b).properties.find? "ObjectTypeName" = some (.text Kind.model.text) := by
    rw [model, ModelObject.named, identified, Bag.find?_put, if_pos rfl]
  have filled : name ≠ "" := by
    intro nothing
    have shown := Value.display_eq_empty_iff.1 nothing
    rw [Value.orElse] at shown
    split at shown
    · exact absurd shown (by decide)
    · next other =>
      rw [shown] at other
      exact other rfl
  have again : firstGiven (model b).properties ["Name", "ModelName", "DatabaseName"] = some (.text name) :=
    firstGiven_of_find? named (String.isEmpty_eq_false_iff.2 filled) _
  have stays : ((Value.text name).orElse (.text "Model")).display = name := by
    rw [Value.orElse, Value.isEmpty_text]
    simp [filled, Value.display_text]
  calc
    model (model b).properties = .named name .model (identified (model b).properties name .model) none none := by
      rw [model, again, Option.getD_some, stays]
    _ = model b := by
      rw [identified_of_find? named typed]
      rfl

theorem measure_measure (b : Bag) : measure (measure b).properties = measure b := by
  let name := (firstText b ["Name", "MeasureName"]).getD (ModelObject.unnamed .measure)
  let table := firstText b ["TableName", "Table"]
  have labelled : HasLabels (measure b).properties name .measure table := hasLabels_shown _ _ _ _
  have named : firstText (measure b).properties ["Name", "MeasureName"] = some name :=
    firstText_of_find? labelled.name (name_ne_empty _ _ _) _
  have owner : firstText (measure b).properties ["TableName", "Table"] = table := firstText_owner_of_shown rfl name .measure
  have expression : firstText (measure b).properties ["Expression"] = firstText b ["Expression"] :=
    firstText_of_shown b name .measure table (by decide)
  calc
    measure (measure b).properties = .named (memberName table name) .measure
        (shown (owned (identified (measure b).properties name .measure) table)) (firstText b ["Expression"]) table := by
      rw [measure, named, owner, expression]
      rfl
    _ = measure b := by
      rw [labelled.shown_eq]
      rfl

theorem not_isGenerated_unnamed (calculated : Bool) :
    isGenerated (ModelObject.unnamed (if calculated then .calculatedTable else .table)) = false := by
  cases calculated <;> decide

/-- Whether a table is calculated does not depend on its labels, nor on a name that was made up. -/
theorem isCalculated_of_shown (b : Bag) (name : String) (kind : Kind) {given again : Option String}
    (same : again.any isGenerated = given.any isGenerated) :
    isCalculated (shown (identified b name kind)) again = isCalculated b given := by
  have picked : firstGiven (shown (identified b name kind)) ["PartitionSourceType", "PartitionMode", "SourceType", "Type"] =
      firstGiven b ["PartitionSourceType", "PartitionMode", "SourceType", "Type"] :=
    firstGiven_of_shown b name kind none (by decide)
  have source : sourceType (shown (identified b name kind)) = sourceType b :=
    congrArg (fun v : Option Value => Text.lower ((v.getD .null).orElse (.text "")).display) picked
  have flag : (shown (identified b name kind)).get "IsCalculated" = b.get "IsCalculated" :=
    Bag.get_congr (find?_shown_of_apart b name kind none (by decide))
  have expression : firstGiven (shown (identified b name kind)) ["Expression"] = firstGiven b ["Expression"] :=
    firstGiven_of_shown b name kind none (by decide)
  rw [isCalculated, isCalculated, same, source, flag, expression]

theorem table_table (b : Bag) : table (table b).properties = table b := by
  let given := firstText b ["Name", "TableName"]
  let kind : Kind := if isCalculated b given then .calculatedTable else .table
  let name := given.getD (ModelObject.unnamed kind)
  have labelled : HasLabels (table b).properties name kind none := hasLabels_shown _ _ _ none
  have named : firstText (table b).properties ["Name", "TableName"] = some name :=
    firstText_of_find? labelled.name (name_ne_empty _ _ _) _
  have expression : firstText (table b).properties ["Expression"] = firstText b ["Expression"] :=
    firstText_of_shown b name kind none (by decide)
  have generated : (some name).any isGenerated = given.any isGenerated := by
    change isGenerated (given.getD _) = _
    cases given with
    | none => exact not_isGenerated_unnamed _
    | some s => rfl
  have calculated : isCalculated (table b).properties (some name) = isCalculated b given :=
    isCalculated_of_shown b name kind generated
  calc
    table (table b).properties = .named (tableLabel name) kind (shown (identified (table b).properties name kind))
        (firstText b ["Expression"]) (some name) := by
      rw [table, named, expression, calculated]
      rfl
    _ = table b := by
      rw [show shown (identified (table b).properties name kind) = (table b).properties from labelled.shown_eq]
      rfl

section
variable {b c p : Bag} {codes : Codes} {name type : String} {given : Option Value}

theorem decoded_of_find? {v w : Value} (words : ∀ e ∈ codes, e.2.toList.all Text.isDigit = false)
    (read : decode codes v = .ok w) (found : p.find? name = some w) : decoded p codes name (some w) = .ok p := by
  rw [decoded, decode_decode words read]
  exact congrArg Except.ok (Bag.put_of_find? found)

/-- What has been stored in decoded form is read and stored as it is, whatever has been stored under other names since. -/
theorem decoded_again (words : ∀ e ∈ codes, e.2.toList.all Text.isDigit = false)
    (stored : decoded b codes name given = .ok c) (filled : ∀ v, given = some v → isBlank v = false) (rest : List String)
    (kept : p.find? name = c.find? name)
    (missing : given = none → firstGiven p (name :: rest) = none) :
    decoded p codes name (firstGiven p (name :: rest)) = .ok p := by
  cases given with
  | none =>
      rw [missing rfl]
      rfl
  | some v =>
      obtain ⟨w, read, rfl⟩ := exists_of_map_eq_ok stored
      have found : p.find? name = some w := by rw [kept, Bag.find?_put, if_pos rfl]
      rw [firstGiven_of_find? found (isBlank_of_decode words read (filled v rfl))]
      exact decoded_of_find? words read found

theorem decode_of_columnType (read : columnType b = .ok type) :
    decode columnCodes (.text type) = .ok (.text type) ∧ type ≠ "" := by
  have words : ∀ e ∈ columnCodes, e.2.toList.all Text.isDigit = false := by decide
  obtain ⟨v, code, rfl⟩ := exists_of_map_eq_ok read
  rw [Value.orElse]
  split
  · exact ⟨decode_of_not_digits (by decide), by decide⟩
  · next filled =>
    refine ⟨decode_display words code, fun nothing => filled ?_⟩
    rw [Value.display_eq_empty_iff.1 nothing]
    rfl

theorem columnType_of_find? (stored : p.find? "Type" = some (.text type))
    (code : decode columnCodes (.text type) = .ok (.text type)) (given : type ≠ "") : columnType p = .ok type := by
  rw [columnType, firstGiven_of_find? stored (String.isEmpty_eq_false_iff.2 given), Option.getD_some, code]
  simp [Except.map, Value.orElse, Value.isEmpty_text, given, Value.display_text]

def storedType (kind : Kind) (type : String) : String := if kind = .calculatedColumn then "Calculated" else type

def columnObject (b typed : Bag) (type : String) : ModelObject :=
  let kind := columnKind type (firstGiven b ["Expression"]).isSome
  let table := firstText b ["TableName", "Table"]
  let name := (firstText b ["Name", "ExplicitName", "ColumnName", "InferredName"]).getD (ModelObject.unnamed kind)
  .named (memberName table name) kind
    (shown (owned (identified (typed.put "Type" (.text (storedType kind type))) name kind) table))
    (firstText b ["Expression"]) table

theorem column_eq_some_iff {o : ModelObject} : column b = .ok (some o) ↔ ∃ type typed, columnType b = .ok type ∧
    type ≠ "RowNumber" ∧ decoded b dataCodes "DataType" (firstGiven b ["DataType", "ExplicitDataType"]) = .ok typed ∧
    columnObject b typed type = o := by
  constructor
  · intro read
    obtain ⟨type, typeRead, read⟩ := exists_of_bind_eq_ok read
    split at read
    · cases read
    · next noRow =>
      obtain ⟨typed, stored, read⟩ := exists_of_bind_eq_ok read
      cases read
      exact ⟨type, typed, typeRead, fun row => noRow (beq_iff_eq.2 row), stored, rfl⟩
  · rintro ⟨type, typed, typeRead, noRow, stored, rfl⟩
    refine bind_eq_ok_of typeRead ?_
    rw [if_neg (mt beq_iff_eq.1 noRow)]
    exact bind_eq_ok_of stored rfl

section
variable {kind : Kind}

theorem columnKind_storedType (type : String) (hasExpression : Bool) :
    columnKind (storedType (columnKind type hasExpression) type) hasExpression = columnKind type hasExpression := by
  rw [storedType]
  split
  · next calculated =>
    rw [calculated]
    rfl
  · rfl

theorem storedType_storedType (kind : Kind) (type : String) : storedType kind (storedType kind type) = storedType kind type := by
  rw [storedType, storedType]
  split <;> rfl

theorem columnType_of_storedType (typeRead : columnType b = .ok type) (noRow : type ≠ "RowNumber")
    (stored : p.find? "Type" = some (.text (storedType kind type))) :
    columnType p = .ok (storedType kind type) ∧ storedType kind type ≠ "RowNumber" := by
  rw [storedType] at stored ⊢
  split at stored
  · next calculated =>
    rw [if_pos calculated]
    exact ⟨columnType_of_find? stored (decode_of_not_digits (by decide)) (by decide), by decide⟩
  · next data =>
    rw [if_neg data]
    obtain ⟨code, filled⟩ := decode_of_columnType typeRead
    exact ⟨columnType_of_find? stored code filled, noRow⟩

end

theorem column_column {o : ModelObject} (read : column b = .ok (some o)) : column o.properties = .ok (some o) := by
  obtain ⟨type, typed, typeRead, noRow, stored, rfl⟩ := column_eq_some_iff.1 read
  let kind := columnKind type (firstGiven b ["Expression"]).isSome
  let table := firstText b ["TableName", "Table"]
  let name := (firstText b ["Name", "ExplicitName", "ColumnName", "InferredName"]).getD (ModelObject.unnamed kind)
  let base := typed.put "Type" (.text (storedType kind type))
  let p := shown (owned (identified base name kind) table)
  have labelled : HasLabels p name kind table := hasLabels_shown _ _ _ _
  have typeStored : p.find? "Type" = some (.text (storedType kind type)) := by
    rw [find?_shown_of_apart base name kind table (by decide), Bag.find?_put, if_pos rfl]
  -- Besides the labels, nothing but the two types is stored.
  have kept : ∀ property, Bag.fold "Type" ≠ Bag.fold property ∧ Bag.fold "DataType" ≠ Bag.fold property →
      base.get property = b.get property := fun property apart =>
    Bag.get_congr ((Bag.find?_put_of_ne apart.1 _ _).trans (find?_decoded_of_ne apart.2 stored))
  have named : firstText p ["Name", "ExplicitName", "ColumnName", "InferredName"] = some name :=
    firstText_of_find? labelled.name (name_ne_empty _ _ _) _
  have owner : firstText p ["TableName", "Table"] = table := by
    refine firstText_owner_of_shown (firstText_congr fun property member => kept property ?_) name kind
    revert property
    decide
  have expression : firstGiven p ["Expression"] = firstGiven b ["Expression"] := by
    refine (firstGiven_of_shown base name kind table (by decide)).trans (firstGiven_congr fun property member => ?_)
    rw [List.mem_singleton.1 member]
    exact kept "Expression" (by decide)
  have expressionText : firstText p ["Expression"] = firstText b ["Expression"] := congrArg (Option.map Value.display) expression
  have dataAgain : decoded p dataCodes "DataType" (firstGiven p ["DataType", "ExplicitDataType"]) = .ok p := by
    refine decoded_again (by decide) stored (fun v => isBlank_of_firstGiven_eq_some) _ ?_ fun missing => ?_
    · rw [find?_shown_of_apart base name kind table (by decide), Bag.find?_put_of_ne (by decide)]
    · rw [missing] at stored
      cases stored
      rw [← missing]
      refine (firstGiven_of_shown base name kind table (by decide)).trans (firstGiven_congr fun property member => ?_)
      refine Bag.get_put_of_ne ?_ _ _
      revert property
      decide
  have typeAgain := columnType_of_storedType typeRead noRow typeStored
  refine column_eq_some_iff.2 ⟨storedType kind type, p, typeAgain.1, typeAgain.2, dataAgain, ?_⟩
  calc
    columnObject p p (storedType kind type) = .named (memberName table name) kind
        (shown (owned (identified (p.put "Type" (.text (storedType kind type))) name kind) table))
        (firstText b ["Expression"]) table := by
      rw [columnObject, expressionText, expression, columnKind_storedType, storedType_storedType, owner, named]
      rfl
    _ = columnObject b typed type := by
      rw [Bag.put_of_find? typeStored, labelled.shown_eq]
      rfl

end

section
variable {given p b c : Bag} {name property : String} {properties : List String} {codes : Codes} {r : ModelObject}

theorem find?_withEnd (given b : Bag) (property other : String) : (withEnd given b property).find? other =
    if Bag.fold property = Bag.fold other then ((endValue given property).map fun v => .text v.display).or (b.find? other)
    else b.find? other := by
  rw [withEnd]
  cases endValue given property with
  | none => simp
  | some v => exact Bag.find?_put b property other _

theorem find?_withEnds_of_mem (member : property ∈ properties)
    (alone : ∀ other ∈ properties, Bag.fold other = Bag.fold property → other = property) (b : Bag) :
    (properties.foldl (withEnd given) b).find? property =
      ((endValue given property).map fun v => .text v.display).or (b.find? property) := by
  induction properties generalizing b with
  | nil => cases member
  | cons head properties ih =>
      obtain ⟨first, rest⟩ := List.forall_mem_cons.1 alone
      rw [List.foldl_cons]
      by_cases later : property ∈ properties
      · rw [ih later rest, find?_withEnd]
        split
        · next same =>
          rw [first same, ← Option.or_assoc, Option.or_self]
        · rfl
      · have here : property = head := (List.mem_cons.1 member).resolve_right later
        subst here
        have apart : ∀ other ∈ properties, Bag.fold other ≠ Bag.fold property := fun other inside same =>
          later (rest other inside same ▸ inside)
        rw [find?_withEnds apart, find?_withEnd, if_pos rfl]

theorem withEnds_eq_self (fixed : ∀ property ∈ properties, withEnd p p property = p) :
    properties.foldl (withEnd p) p = p := by
  induction properties with
  | nil => rfl
  | cons property properties ih =>
      obtain ⟨first, rest⟩ := List.forall_mem_cons.1 fixed
      rw [List.foldl_cons, first, ih rest]

theorem decoded_find?_again (words : ∀ e ∈ codes, e.2.toList.all Text.isDigit = false)
    (stored : decoded b codes name (b.find? name) = .ok c) (kept : p.find? name = c.find? name) :
    decoded p codes name (p.find? name) = .ok p := by
  cases found : b.find? name with
  | none =>
      rw [found] at stored
      cases stored
      rw [kept, found]
      rfl
  | some v =>
      rw [found] at stored
      obtain ⟨w, read, rfl⟩ := exists_of_map_eq_ok stored
      have again : p.find? name = some w := by rw [kept, Bag.find?_put, if_pos rfl]
      rw [again]
      exact decoded_of_find? words read again

theorem relationshipName_ne_empty (given : Bag) : relationshipName given ≠ "" := by
  rw [relationshipName]
  cases found : firstText given ["Name"] with
  | some s => exact ne_empty_of_firstText found
  | none =>
      rw [Option.getD_none]
      split
      · exact ModelObject.unnamed_ne_empty _
      · simp

theorem withEnd_of_relationship (read : relationship given = .ok r) (member : property ∈ endProperties) :
    withEnd r.properties r.properties property = r.properties := by
  have apart : ∀ property ∈ endProperties, (∀ fact ∈ factProperties, Bag.fold fact ≠ Bag.fold property) ∧
      (∀ fact ∈ factProperties ++ endProperties, Bag.fold fact ≠ Bag.fold (property ++ "Name")) ∧
      ∀ other ∈ endProperties, Bag.fold other = Bag.fold property → other = property := by decide
  obtain ⟨noFact, noAlias, alone⟩ := apart property member
  have stored := (find?_of_relationship read noFact).trans (find?_withEnds_of_mem member alone given)
  have other : r.properties.find? (property ++ "Name") = given.find? (property ++ "Name") := by
    rw [find?_of_relationship read fun fact among => noAlias fact (List.mem_append_left _ among),
      find?_withEnds fun fact among => noAlias fact (List.mem_append_right _ among)]
  cases found : endValue given property with
  | some v =>
      rw [found] at stored
      have shown : isBlank (.text v.display) = false :=
        String.isEmpty_eq_false_iff.2 (display_ne_empty (isBlank_of_firstGiven_eq_some found))
      have again : endValue r.properties property = some (.text v.display) := firstGiven_of_find? stored shown _
      rw [withEnd, again]
      exact Bag.put_of_find? stored
  | none =>
      rw [found] at stored
      have again : endValue r.properties property = none := by
        refine (firstGiven_congr fun name among => ?_).trans found
        rcases List.mem_cons.1 among with rfl | last
        · exact Bag.get_congr stored
        · rw [List.mem_singleton.1 last]
          exact Bag.get_congr other
      rw [withEnd, again]

theorem relationship_relationship (read : relationship given = .ok r) : relationship r.properties = .ok r := by
  have ends : endProperties.foldl (withEnd r.properties) r.properties = r.properties :=
    withEnds_eq_self fun property member => withEnd_of_relationship read member
  obtain ⟨directed, direction, read⟩ := exists_of_bind_eq_ok read
  obtain ⟨half, source, read⟩ := exists_of_bind_eq_ok read
  obtain ⟨whole, target, read⟩ := exists_of_bind_eq_ok read
  cases read
  let name := relationshipName given
  let p := identified (whole.putIfAbsent "IsActive" (.bool true)) name .relationship
  change endProperties.foldl (withEnd p) p = p at ends
  have kept : ∀ property, (∀ fact ∈ ["IsActive", "Name", "ObjectTypeName"], Bag.fold fact ≠ Bag.fold property) →
      p.find? property = whole.find? property := by
    intro property apart
    rw [show p = identified _ _ _ from rfl, identified, Bag.find?_put_of_ne (apart _ (by decide)),
      Bag.find?_put_of_ne (apart _ (by decide)), Bag.find?_putIfAbsent_of_ne (apart _ (by decide))]
  have targetAgain : decoded p cardinalityCodes "ToCardinality" (p.find? "ToCardinality") = .ok p :=
    decoded_find?_again (by decide) target (kept _ (by decide))
  have sourceAgain : decoded p cardinalityCodes "FromCardinality" (p.find? "FromCardinality") = .ok p := by
    refine decoded_find?_again (by decide) source ?_
    rw [kept _ (by decide), find?_decoded_of_ne (by decide) target]
  have directionAgain : decoded p directionCodes "CrossFilteringBehavior"
      (firstGiven p ["CrossFilteringBehavior", "CrossFilterDirection"]) = .ok p := by
    refine decoded_again (by decide) direction (fun v => isBlank_of_firstGiven_eq_some) _ ?_ fun missing => ?_
    · rw [kept _ (by decide), find?_decoded_of_ne (by decide) target, find?_decoded_of_ne (by decide) source]
    · rw [missing] at direction
      cases direction
      rw [← missing]
      refine firstGiven_congr fun property member => Bag.get_congr ?_
      have apart : ∀ property ∈ ["CrossFilteringBehavior", "CrossFilterDirection"],
          ∀ fact ∈ ["IsActive", "Name", "ObjectTypeName", "FromCardinality", "ToCardinality"],
            Bag.fold fact ≠ Bag.fold property := by decide
      rw [kept _ fun fact among => apart property member fact (List.mem_append_left ["FromCardinality", "ToCardinality"] among),
        find?_decoded_of_ne (apart property member _ (by decide)) target,
        find?_decoded_of_ne (apart property member _ (by decide)) source]
  have named : p.find? "Name" = some (.text name) := find?_identified_name _ _ _
  have typed : p.find? "ObjectTypeName" = some (.text Kind.relationship.text) := by
    rw [show p = identified _ _ _ from rfl, identified, Bag.find?_put, if_pos rfl]
  have active : p.contains "IsActive" = true := by
    rw [Bag.contains, show p = identified _ _ _ from rfl, identified, Bag.find?_put_of_ne (by decide),
      Bag.find?_put_of_ne (by decide)]
    exact Bag.contains_putIfAbsent _ _ _
  have nameAgain : relationshipName p = name := by
    rw [relationshipName, firstText_of_find? named (relationshipName_ne_empty given)]
    rfl
  change relationship p = .ok (.named name .relationship p none none)
  rw [relationship, ends]
  refine bind_eq_ok_of directionAgain (bind_eq_ok_of sourceAgain (bind_eq_ok_of targetAgain ?_))
  rw [Bag.putIfAbsent_of_contains active, nameAgain]
  exact congrArg (fun c => Except.ok (ModelObject.named name .relationship c none none)) (identified_of_find? named typed)

end

end Record

namespace Snapshot

open Record

variable {kind : RecordKind} {raw : Value} {b : Bag} {o : ModelObject}

def RecordKind.ofBag : RecordKind → Bag → Except Fault (Option ModelObject)
  | model, b => .ok (some (Record.model b))
  | table, b => .ok (some (Record.table b))
  | column, b => Record.column b
  | measure, b => .ok (some (Record.measure b))
  | relationship, b => (Record.relationship b).map some

theorem RecordKind.read_eq (kind : RecordKind) (raw : Value) : kind.read raw = ofValue raw >>= kind.ofBag := by
  cases kind with
  | column => rfl
  | _ =>
      simp only [read, readModel, readTable, readMeasure, readRelationship]
      cases ofValue raw <;> rfl

theorem RecordKind.ofBag_again (made : kind.ofBag b = .ok (some o)) : kind.ofBag o.properties = .ok (some o) := by
  cases kind with
  | model =>
      cases made
      exact congrArg (Except.ok ∘ some) (model_model b)
  | table =>
      cases made
      exact congrArg (Except.ok ∘ some) (table_table b)
  | column => exact column_column made
  | measure =>
      cases made
      exact congrArg (Except.ok ∘ some) (measure_measure b)
  | relationship =>
      obtain ⟨r, read, same⟩ := exists_of_map_eq_ok made
      cases same
      exact congrArg (Except.map some) (relationship_relationship read)

theorem isTidy_of_ofBag (tidy : IsTidy b) (made : kind.ofBag b = .ok (some o)) : IsTidy o.properties := by
  cases kind with
  | model =>
      cases made
      exact isTidy_identified tidy _ _
  | table =>
      cases made
      exact isTidy_shown tidy _ _ none
  | column =>
      obtain ⟨type, typed, -, -, stored, rfl⟩ := column_eq_some_iff.1 made
      exact isTidy_shown ((isTidy_decoded tidy (by decide) stored).put (by decide) _) _ _ _
  | measure =>
      cases made
      exact isTidy_shown tidy _ _ _
  | relationship =>
      obtain ⟨r, read, same⟩ := exists_of_map_eq_ok made
      cases same
      obtain ⟨directed, direction, read⟩ := exists_of_bind_eq_ok read
      obtain ⟨half, source, read⟩ := exists_of_bind_eq_ok read
      obtain ⟨whole, target, read⟩ := exists_of_bind_eq_ok read
      cases read
      have directedTidy := isTidy_decoded (isTidy_withEnds (by decide) tidy) (by decide) direction
      have halfTidy := isTidy_decoded directedTidy (by decide) source
      have wholeTidy := isTidy_decoded halfTidy (by decide) target
      exact isTidy_identified (wholeTidy.putIfAbsent (by decide) _) _ _

theorem isTidy_of_ofValue (bare : ∀ key ∈ keys raw, IsBare (fieldName key)) (given : ofValue raw = .ok b) : IsTidy b := by
  cases raw with
  | map es =>
      cases given
      exact IsTidy.ofEntries fun e member => fieldName_of_isBare (bare e.1 (List.mem_map_of_mem member))
  | _ =>
      simp only [ofValue] at given
      split at given <;> cases given
      exact ⟨List.nodup_nil, List.forall_mem_nil _⟩

/-- Whatever kind of record it is, the properties of the object that has been made of it are read as that very object. -/
theorem reading_again_changes_nothing (bare : ∀ key ∈ keys raw, IsBare (fieldName key))
    (read : kind.read raw = .ok (some o)) : kind.read (.map o.properties.entries) = .ok (some o) := by
  rw [RecordKind.read_eq] at read ⊢
  obtain ⟨b, given, made⟩ := exists_of_bind_eq_ok read
  have tidy : IsTidy o.properties := isTidy_of_ofBag (isTidy_of_ofValue bare given) made
  exact bind_eq_ok_of tidy.ofValue_entries (RecordKind.ofBag_again made)

def namelessColumn : Value :=
  .map [(" [Table] ", .text "Sales"), ("[columntype]", .text "07"), ("ExplicitDataType", .int 6), ("datatype", .text ""),
    ("EXPRESSION", .int 0)]

theorem reading_again_of_nameless_column :
    (∀ key ∈ keys namelessColumn, IsBare (fieldName key)) ∧
      ∃ o, RecordKind.column.read namelessColumn = .ok (some o) ∧
        RecordKind.column.read (.map o.properties.entries) = .ok (some o) ∧ o.name = "'Sales'[Unknown_CalculatedColumn]" ∧
        o.properties.names = ["Table", "columntype", "ExplicitDataType", "datatype", "EXPRESSION", "Type", "Name",
          "ObjectTypeName", "TableName", "IsHidden"] := by
  have bare : ∀ key ∈ keys namelessColumn, IsBare (fieldName key) := by decide +kernel
  have accepted : (RecordKind.column.read namelessColumn).toOption.any (fun found => found.any fun o =>
      o.name == "'Sales'[Unknown_CalculatedColumn]" && o.properties.names == ["Table", "columntype", "ExplicitDataType",
        "datatype", "EXPRESSION", "Type", "Name", "ObjectTypeName", "TableName", "IsHidden"]) = true := by decide +kernel
  obtain ⟨found, read, given⟩ := exists_of_toOption_any accepted
  obtain ⟨o, rfl, checked⟩ := (Option.any_eq_true _ _).1 given
  rw [Bool.and_eq_true, beq_iff_eq, beq_iff_eq] at checked
  exact ⟨bare, o, read, reading_again_changes_nothing bare read, checked⟩

end Snapshot

end TabularAudit
