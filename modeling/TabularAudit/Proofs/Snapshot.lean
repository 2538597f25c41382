import Mathlib.Data.List.Forall2
import TabularAudit.Model.Snapshot

/-!
What the objects of an accepted snapshot look like. Each comes from a record of its kind, and the ends
of a relationship are texts or missing.
-/

namespace TabularAudit

theorem exists_of_bind_eq_ok {α β : Type} {x : Except Fault α} {f : α → Except Fault β} {b : β}
    (ok : x >>= f = .ok b) : ∃ a, x = .ok a ∧ f a = .ok b := by
  cases x with
  | error fault => cases ok
  | ok a => exact ⟨a, rfl, ok⟩

theorem bind_eq_ok_of {α β : Type} {x : Except Fault α} {f : α → Except Fault β} {a : α} {b : β} (first : x = .ok a)
    (next : f a = .ok b) : x >>= f = .ok b := by
  rw [first]
  exact next

theorem exists_of_map_eq_ok {α β : Type} {x : Except Fault α} {f : α → β} {b : β} (ok : x.map f = .ok b) :
    ∃ a, x = .ok a ∧ f a = b := by
  cases x with
  | error fault => cases ok
  | ok a =>
      cases ok
      exact ⟨a, rfl, rfl⟩

theorem map_bind_eq {α β γ : Type} (x : Except Fault α) (f : α → Except Fault β) (g : β → γ) :
    (x >>= f).map g = x >>= fun a => (f a).map g := by
  cases x <;> rfl

theorem exists_of_mem_forall₂ {α β : Type} {R : α → β → Prop} {as : List α} {bs : List β} (related : List.Forall₂ R as bs) :
    (∀ a ∈ as, ∃ b ∈ bs, R a b) ∧ ∀ b ∈ bs, ∃ a ∈ as, R a b := by
  induction related with
  | nil => exact ⟨nofun, nofun⟩
  | cons first _ ih =>
      constructor
      · refine List.forall_mem_cons.2 ⟨⟨_, List.mem_cons_self, first⟩, fun a member => ?_⟩
        obtain ⟨b, inside, found⟩ := ih.1 a member
        exact ⟨b, List.mem_cons_of_mem _ inside, found⟩
      · refine List.forall_mem_cons.2 ⟨⟨_, List.mem_cons_self, first⟩, fun b member => ?_⟩
        obtain ⟨a, inside, found⟩ := ih.2 b member
        exact ⟨a, List.mem_cons_of_mem _ inside, found⟩

theorem mapM_eq_ok_iff {α β : Type} {f : α → Except Fault β} {as : List α} {bs : List β} :
    as.mapM f = .ok bs ↔ List.Forall₂ (fun a b => f a = .ok b) as bs := by
  induction as generalizing bs with
  | nil => cases bs <;> simp [Pure.pure, Except.pure]
  | cons a as ih =>
      rw [List.mapM_cons]
      constructor
      · intro found
        obtain ⟨b, first, found⟩ := exists_of_bind_eq_ok found
        obtain ⟨bs, rest, found⟩ := exists_of_bind_eq_ok found
        cases found
        exact .cons first (ih.1 rest)
      · intro related
        cases related with
        | cons first rest =>
            rw [first, ih.2 rest]
            rfl

theorem mapM_eq_ok_map {α β : Type} {f : α → Except Fault β} {g : α → β} {as : List α}
    (each : ∀ a ∈ as, f a = .ok (g a)) : as.mapM f = .ok (as.map g) := by
  apply mapM_eq_ok_iff.2
  rw [List.forall₂_map_right_iff]
  exact List.forall₂_same.2 each

theorem exists_of_mem_mapM {α β : Type} {f : α → Except Fault β} {xs : List α} {ys : List β}
    (ok : xs.mapM f = .ok ys) : ∀ y ∈ ys, ∃ x ∈ xs, f x = .ok y :=
  (exists_of_mem_forall₂ (mapM_eq_ok_iff.1 ok)).2

theorem mem_of_mapM {α β : Type} {f : α → Except Fault β} {xs : List α} {ys : List β} (ok : xs.mapM f = .ok ys) {x : α}
    (member : x ∈ xs) {y : β} (found : f x = .ok y) : y ∈ ys := by
  obtain ⟨z, inside, same⟩ := (exists_of_mem_forall₂ (mapM_eq_ok_iff.1 ok)).1 x member
  rw [found] at same
  cases same
  exact inside

theorem filter_constant {α : Type} {p : α → Bool} {as : List α} {kept : Bool} (same : ∀ a ∈ as, p a = kept) :
    as.filter p = if kept then as else [] := by
  cases kept with
  | true => exact List.filter_eq_self.2 same
  | false => exact List.filter_eq_nil_iff.2 fun a member => by simp [same a member]

namespace Bag

theorem get_put (b : Bag) (name other : String) (v : Value) :
    (b.put name v).get other = if fold name = fold other then v else b.get other := by
  rw [get, find?_put]
  split <;> rfl

theorem get_put_of_ne {name other : String} (differ : fold name ≠ fold other) (b : Bag) (v : Value) :
    (b.put name v).get other = b.get other := by
  rw [get_put, if_neg differ]

theorem find?_put_of_ne {name other : String} (differ : fold name ≠ fold other) (b : Bag) (v : Value) :
    (b.put name v).find? other = b.find? other := by
  rw [find?_put, if_neg differ]

theorem find?_putIfAbsent_of_ne {name other : String} (differ : fold name ≠ fold other) (b : Bag) (v : Value) :
    (b.putIfAbsent name v).find? other = b.find? other := by
  rw [putIfAbsent]
  split
  · rfl
  · exact find?_put_of_ne differ b v

theorem get_putIfAbsent_of_ne {name other : String} (differ : fold name ≠ fold other) (b : Bag) (v : Value) :
    (b.putIfAbsent name v).get other = b.get other := by
  rw [get, find?_putIfAbsent_of_ne differ, get]

theorem get_congr {b c : Bag} {name : String} (same : b.find? name = c.find? name) : b.get name = c.get name := by
  rw [get, get, same]

def Related (R : String → Value → Value → Prop) (b c : Bag) : Prop :=
  ∀ name, Option.Rel (R (fold name)) (b.find? name) (c.find? name)

variable {R : String → Value → Value → Prop}

theorem related_ofEntries {es es' : Entries}
    (same : List.Forall₂ (fun e e' => fold e.1 = fold e'.1 ∧ R (fold e.1) e.2 e'.2) es es') :
    Related R (ofEntries es) (ofEntries es') := by
  suffices general : ∀ b c : Bag, Related R b c → Related R (b.putAll es) (c.putAll es') from
    general _ _ fun _ => .none
  induction same with
  | nil => exact fun b c related => related
  | cons head tail ih =>
      obtain ⟨names, value⟩ := head
      intro b c related
      apply ih
      intro name
      rw [find?_put, find?_put, ← names]
      split
      · next here => exact .some (here ▸ value)
      · exact related name

theorem Related.get {b c : Bag} (related : Related R b c) (name : String) (missing : R (fold name) .null .null) :
    R (fold name) (b.get name) (c.get name) := by
  have found := related name
  rw [Bag.get, Bag.get]
  generalize b.find? name = x at found ⊢
  generalize c.find? name = y at found ⊢
  cases found with
  | none => exact missing
  | some same => exact same

end Bag

/-- An object has a name, and the name of a table or column is made from what the object is found under. -/
structure ModelObject.IsLabelled (o : ModelObject) : Prop where
  named : o.name ≠ ""
  table : o.kind.isTable = true → o.name = Record.tableLabel o.shortName
  column : o.kind.isColumn = true → o.name = Record.memberName o.table o.shortName

theorem Kind.eq_of_isTable {k : Kind} (among : k.isTable = true) : k = table ∨ k = calculatedTable := by
  simpa [isTable] using among

theorem Kind.eq_of_isColumn {k : Kind} (among : k.isColumn = true) : k = dataColumn ∨ k = calculatedColumn := by
  simpa [isColumn] using among

theorem Kind.isTable_eq_false {k : Kind} (column : k.isColumn = true) : k.isTable = false := by
  cases k <;> first | rfl | cases column

namespace Record

variable {given b : Bag} {property other : String}

theorem find?_decoded_of_ne {codes : Codes} {name : String} {v : Option Value} {c : Bag}
    (differ : Bag.fold name ≠ Bag.fold other) (stored : decoded b codes name v = .ok c) :
    c.find? other = b.find? other := by
  cases v with
  | none =>
      cases stored
      rfl
  | some v =>
      rw [decoded] at stored
      cases code : decode codes v with
      | error fault => rw [code] at stored; cases stored
      | ok w =>
          rw [code] at stored
          cases stored
          exact Bag.find?_put_of_ne differ b w

theorem firstGiven_congr {c : Bag} {names : List String} (same : ∀ name ∈ names, b.get name = c.get name) :
    firstGiven b names = firstGiven c names := by
  induction names with
  | nil => rfl
  | cons name names ih =>
      obtain ⟨first, rest⟩ := List.forall_mem_cons.1 same
      rw [firstGiven, firstGiven, first, ih rest]

theorem isBlank_of_firstGiven_eq_none {names : List String} (missing : firstGiven b names = none) :
    ∀ name ∈ names, isBlank (b.get name) = true := by
  induction names with
  | nil => simp
  | cons name names ih =>
      rw [firstGiven] at missing
      split at missing
      · next blank => exact List.forall_mem_cons.2 ⟨blank, ih missing⟩
      · cases missing

theorem get_withEnd (given b : Bag) (property other : String) :
    (withEnd given b property).get other = b.get other ∨ ∃ s, (withEnd given b property).get other = .text s := by
  rw [withEnd]
  split
  · rw [Bag.get_put]
    split
    · exact .inr ⟨_, rfl⟩
    · exact .inl rfl
  · exact .inl rfl

theorem get_withEnds (given : Bag) (properties : List String) (b : Bag) (other : String) :
    (properties.foldl (withEnd given) b).get other = b.get other ∨
      ∃ s, (properties.foldl (withEnd given) b).get other = .text s := by
  induction properties generalizing b with
  | nil => exact .inl rfl
  | cons property properties ih =>
      rw [List.foldl_cons]
      rcases ih (withEnd given b property) with same | stored
      · rw [same]
        exact get_withEnd given b property other
      · exact .inr stored

theorem get_withEnds_of_mem {v : Value} (found : endValue given property = some v) {properties : List String}
    (member : property ∈ properties) (b : Bag) :
    ∃ s, (properties.foldl (withEnd given) b).get property = .text s := by
  induction properties generalizing b with
  | nil => cases member
  | cons head properties ih =>
      rw [List.foldl_cons]
      rcases List.mem_cons.1 member with rfl | member
      · rcases get_withEnds given properties (withEnd given b property) property with same | stored
        · rw [same, withEnd, found]
          exact ⟨v.display, by rw [Bag.get_put, if_pos rfl]⟩
        · exact stored
      · exact ih member _

def IsName (v : Value) : Prop := v = .null ∨ ∃ s, v = .text s

theorem isName_of_isBlank {v : Value} (blank : isBlank v = true) : IsName v := by
  cases v with
  | null => exact .inl rfl
  | text s => exact .inr ⟨s, rfl⟩
  | _ => cases blank

theorem isName_withEnds (given : Bag) (member : property ∈ endProperties) :
    IsName ((endProperties.foldl (withEnd given) given).get property) := by
  cases found : endValue given property with
  | some v => exact .inr (get_withEnds_of_mem found member given)
  | none =>
      rcases get_withEnds given endProperties given property with same | stored
      · rw [same]
        exact isName_of_isBlank (isBlank_of_firstGiven_eq_none found property (by simp))
      · exact .inr stored

def factProperties : List String :=
  ["CrossFilteringBehavior", "FromCardinality", "ToCardinality", "IsActive", "Name", "ObjectTypeName"]

theorem find?_of_relationship {r : ModelObject} (accepted : relationship given = .ok r)
    (apart : ∀ name ∈ factProperties, Bag.fold name ≠ Bag.fold other) :
    r.properties.find? other = (endProperties.foldl (withEnd given) given).find? other := by
  simp only [factProperties, List.mem_cons, List.not_mem_nil, or_false, forall_eq_or_imp, forall_eq] at apart
  obtain ⟨direction, source, target, active, name, kind⟩ := apart
  obtain ⟨directed, directionStored, accepted⟩ := exists_of_bind_eq_ok accepted
  obtain ⟨half, sourceStored, accepted⟩ := exists_of_bind_eq_ok accepted
  obtain ⟨whole, targetStored, accepted⟩ := exists_of_bind_eq_ok accepted
  cases accepted
  change (identified (whole.putIfAbsent "IsActive" (.bool true)) (relationshipName given) .relationship).find? other = _
  rw [identified, Bag.find?_put_of_ne kind, Bag.find?_put_of_ne name, Bag.find?_putIfAbsent_of_ne active,
    find?_decoded_of_ne target targetStored, find?_decoded_of_ne source sourceStored,
    find?_decoded_of_ne direction directionStored]

theorem get_end_of_relationship {r : ModelObject} (accepted : relationship given = .ok r)
    (member : property ∈ endProperties) :
    r.properties.get property = (endProperties.foldl (withEnd given) given).get property := by
  have apart : ∀ last ∈ endProperties, ∀ name ∈ factProperties, Bag.fold name ≠ Bag.fold last := by decide
  rw [Bag.get, find?_of_relationship accepted (apart property member), Bag.get]

theorem isName_of_relationship {r : ModelObject} (accepted : relationship given = .ok r)
    (member : property ∈ endProperties) : IsName (r.properties.get property) := by
  rw [get_end_of_relationship accepted member]
  exact isName_withEnds given member

theorem isColumn_of_column {b : Bag} {c : ModelObject} (accepted : column b = .ok (some c)) :
    c.kind.isColumn = true := by
  obtain ⟨type, -, accepted⟩ := exists_of_bind_eq_ok accepted
  split at accepted
  · cases accepted
  · obtain ⟨typed, -, accepted⟩ := exists_of_bind_eq_ok accepted
    cases accepted
    change (columnKind type _).isColumn = true
    rw [columnKind]
    split <;> rfl

theorem isTable_of_table (b : Bag) : (table b).kind.isTable = true := by
  change Kind.isTable (if isCalculated b _ then .calculatedTable else .table) = true
  split <;> rfl

theorem display_ne_empty {v : Value} (given : isBlank v = false) : v.display ≠ "" := by
  intro nothing
  rw [Value.display_eq_empty_iff.1 nothing] at given
  cases given

theorem isBlank_of_firstGiven_eq_some {names : List String} {v : Value} (found : firstGiven b names = some v) :
    isBlank v = false := by
  induction names with
  | nil => cases found
  | cons name names ih =>
      rw [firstGiven] at found
      split at found
      · exact ih found
      · next filled =>
          cases found
          exact Bool.not_eq_true _ ▸ filled

theorem name_ne_empty (b : Bag) (names : List String) (kind : Kind) :
    (firstText b names).getD (ModelObject.unnamed kind) ≠ "" := by
  rw [firstText]
  cases found : firstGiven b names with
  | none => exact ModelObject.unnamed_ne_empty kind
  | some v => exact display_ne_empty (isBlank_of_firstGiven_eq_some found)

theorem tableLabel_ne_empty (table : String) : tableLabel table ≠ "" := by simp [tableLabel]

theorem memberName_ne_empty {name : String} (given : name ≠ "") (table : Option String) : memberName table name ≠ "" := by
  cases table with
  | none => exact given
  | some table => simp [memberName, fieldLabel]

theorem shortName_of_get {o : ModelObject} {name : String} (stored : o.properties.get "Name" = .text name)
    (given : name ≠ "") : o.shortName = name := by
  rw [ModelObject.shortName, stored, Value.orElse, Value.isEmpty_text]
  simp [given, Value.display_text]

theorem named_name {name : String} (given : name ≠ "") {kind : Kind} {b : Bag} {expression table : Option String} :
    (ModelObject.named name kind b expression table).name = name :=
  if_neg given

theorem get_name_of_shown (b : Bag) (name : String) (kind : Kind) (table : Option String) :
    (shown (owned (identified b name kind) table)).get "Name" = .text name := by
  have apart : ∀ other ∈ ["IsHidden", "TableName", "ObjectTypeName"], Bag.fold other ≠ Bag.fold "Name" := by decide
  rw [shown, Bag.get_putIfAbsent_of_ne (apart _ (by simp))]
  have kept : (owned (identified b name kind) table).get "Name" = (identified b name kind).get "Name" := by
    cases table with
    | none => rfl
    | some table => exact Bag.get_put_of_ne (apart _ (by simp)) _ _
  rw [kept, identified, Bag.get_put_of_ne (apart _ (by simp)), Bag.get_put, if_pos rfl]

theorem isLabelled_of_model (b : Bag) : (model b).IsLabelled where
  named := ModelObject.named_name_ne_empty _ _ _ _ _
  table := nofun
  column := nofun

theorem isLabelled_of_measure (b : Bag) : (measure b).IsLabelled where
  named := ModelObject.named_name_ne_empty _ _ _ _ _
  table := nofun
  column := nofun

theorem table_of_table (b : Bag) : (table b).table = some (table b).shortName := by
  have stored : (table b).properties.get "Name" = .text ((firstText b ["Name", "TableName"]).getD
      (ModelObject.unnamed (table b).kind)) := get_name_of_shown b _ _ none
  rw [shortName_of_get stored (name_ne_empty _ _ _)]
  rfl

theorem isLabelled_of_table (b : Bag) : (table b).IsLabelled where
  named := ModelObject.named_name_ne_empty _ _ _ _ _
  table := by
    intro _
    rw [← Option.some.inj (table_of_table b)]
    exact named_name (tableLabel_ne_empty _)
  column := by
    intro column
    have isTable := isTable_of_table b
    rw [Kind.isTable_eq_false column] at isTable
    cases isTable

theorem isLabelled_of_column {b : Bag} {c : ModelObject} (accepted : column b = .ok (some c)) : c.IsLabelled := by
  have isTable := Kind.isTable_eq_false (isColumn_of_column accepted)
  obtain ⟨type, -, accepted⟩ := exists_of_bind_eq_ok accepted
  split at accepted
  · cases accepted
  · obtain ⟨typed, -, accepted⟩ := exists_of_bind_eq_ok accepted
    cases accepted
    constructor
    · exact ModelObject.named_name_ne_empty _ _ _ _ _
    · intro table
      rw [isTable] at table
      cases table
    · intro _
      rw [shortName_of_get (get_name_of_shown _ _ _ _) (name_ne_empty _ _ _)]
      exact named_name (memberName_ne_empty (name_ne_empty _ _ _) _)

theorem kind_of_relationship {b : Bag} {r : ModelObject} (accepted : relationship b = .ok r) :
    r.kind = .relationship := by
  obtain ⟨directed, -, accepted⟩ := exists_of_bind_eq_ok accepted
  obtain ⟨half, -, accepted⟩ := exists_of_bind_eq_ok accepted
  obtain ⟨whole, -, accepted⟩ := exists_of_bind_eq_ok accepted
  cases accepted
  rfl

theorem isLabelled_of_relationship {b : Bag} {r : ModelObject} (accepted : relationship b = .ok r) : r.IsLabelled := by
  obtain ⟨directed, -, accepted⟩ := exists_of_bind_eq_ok accepted
  obtain ⟨half, -, accepted⟩ := exists_of_bind_eq_ok accepted
  obtain ⟨whole, -, accepted⟩ := exists_of_bind_eq_ok accepted
  cases accepted
  exact ⟨ModelObject.named_name_ne_empty _ _ _ _ _, nofun, nofun⟩

end Record

namespace Snapshot

structure Sections where
  model : ModelObject
  tables : List ModelObject
  columns : List ModelObject
  measures : List ModelObject
  relationships : List ModelObject

def Sections.objects (s : Sections) : List ModelObject :=
  s.model :: s.tables ++ s.columns ++ s.measures ++ s.relationships

def sections (snapshot : Value) : Except Fault Sections := do
  let b ← Bag.ofValue snapshot
  let rawTables ← records b "tables"
  let nested ← Nested.ofTables rawTables
  let tables ← rawTables.mapM readTable
  let columns ← readColumns ((← records b "columns") ++ nested.columns)
  let measures ← ((← records b "measures") ++ nested.measures).mapM readMeasure
  let relationships ← (← records b "relationships").mapM readRelationship
  let model ← readModel (b.get "model")
  return ⟨model, tables.map (withCounts columns measures), columns, measures, relationships⟩

theorem objects_eq (snapshot : Value) : objects snapshot = (sections snapshot).map Sections.objects := by
  simp only [objects, sections, map_bind_eq]
  rfl

structure Sections.AreRead (s : Sections) : Prop where
  model : ∃ given, s.model = Record.model given
  tables : ∀ t ∈ s.tables, ∃ columns measures given, t = withCounts columns measures (Record.table given)
  columns : ∀ c ∈ s.columns, ∃ given, Record.column given = .ok (some c)
  measures : ∀ m ∈ s.measures, ∃ given, m = Record.measure given
  relationships : ∀ r ∈ s.relationships, ∃ given, Record.relationship given = .ok r

theorem areRead_of_sections {snapshot : Value} {s : Sections} (accepted : sections snapshot = .ok s) : s.AreRead := by
  obtain ⟨b, -, accepted⟩ := exists_of_bind_eq_ok accepted
  obtain ⟨rawTables, -, accepted⟩ := exists_of_bind_eq_ok accepted
  obtain ⟨nested, -, accepted⟩ := exists_of_bind_eq_ok accepted
  obtain ⟨tables, readTables, accepted⟩ := exists_of_bind_eq_ok accepted
  obtain ⟨rawColumns, -, accepted⟩ := exists_of_bind_eq_ok accepted
  obtain ⟨columns, readColumns, accepted⟩ := exists_of_bind_eq_ok accepted
  obtain ⟨rawMeasures, -, accepted⟩ := exists_of_bind_eq_ok accepted
  obtain ⟨measures, readMeasures, accepted⟩ := exists_of_bind_eq_ok accepted
  obtain ⟨rawRelationships, -, accepted⟩ := exists_of_bind_eq_ok accepted
  obtain ⟨relationships, readRelationships, accepted⟩ := exists_of_bind_eq_ok accepted
  obtain ⟨model, readModel, accepted⟩ := exists_of_bind_eq_ok accepted
  cases accepted
  constructor
  · obtain ⟨given, -, rfl⟩ := exists_of_map_eq_ok readModel
    exact ⟨given, rfl⟩
  · intro t member
    obtain ⟨t, inside, rfl⟩ := List.mem_map.1 member
    obtain ⟨raw, -, read⟩ := exists_of_mem_mapM readTables t inside
    obtain ⟨given, -, rfl⟩ := exists_of_map_eq_ok read
    exact ⟨columns, measures, given, rfl⟩
  · intro c member
    obtain ⟨found, readFound, rfl⟩ := exists_of_map_eq_ok readColumns
    obtain ⟨_, present, rfl⟩ := List.mem_filterMap.1 member
    obtain ⟨raw, -, read⟩ := exists_of_mem_mapM readFound _ present
    obtain ⟨given, -, read⟩ := exists_of_bind_eq_ok read
    exact ⟨given, read⟩
  · intro m member
    obtain ⟨raw, -, read⟩ := exists_of_mem_mapM readMeasures m member
    obtain ⟨given, -, rfl⟩ := exists_of_map_eq_ok read
    exact ⟨given, rfl⟩
  · intro r member
    obtain ⟨raw, -, read⟩ := exists_of_mem_mapM readRelationships r member
    obtain ⟨given, -, read⟩ := exists_of_bind_eq_ok read
    exact ⟨given, read⟩

variable {s : Sections}

theorem isTable_of_mem_tables (read : s.AreRead) {t : ModelObject} (member : t ∈ s.tables) : t.kind.isTable = true := by
  obtain ⟨columns, measures, given, rfl⟩ := read.tables t member
  exact Record.isTable_of_table given

theorem isColumn_of_mem_columns (read : s.AreRead) {c : ModelObject} (member : c ∈ s.columns) :
    c.kind.isColumn = true := by
  obtain ⟨given, accepted⟩ := read.columns c member
  exact Record.isColumn_of_column accepted

theorem kind_of_mem_measures (read : s.AreRead) {m : ModelObject} (member : m ∈ s.measures) : m.kind = .measure := by
  obtain ⟨given, rfl⟩ := read.measures m member
  rfl

theorem kind_of_mem_relationships (read : s.AreRead) {r : ModelObject} (member : r ∈ s.relationships) :
    r.kind = .relationship := by
  obtain ⟨given, accepted⟩ := read.relationships r member
  exact Record.kind_of_relationship accepted

theorem mem_objects {o : ModelObject} : o ∈ s.objects ↔
    o = s.model ∨ o ∈ s.tables ∨ o ∈ s.columns ∨ o ∈ s.measures ∨ o ∈ s.relationships := by
  simp [Sections.objects]

/-- A test that takes tables as a whole and columns as a whole selects sections, in order. -/
theorem filter_objects (read : s.AreRead) (p : Kind → Bool) (tables : p .calculatedTable = p .table)
    (columns : p .calculatedColumn = p .dataColumn) :
    s.objects.filter (fun o => p o.kind) = (if p .model then [s.model] else []) ++ (if p .table then s.tables else []) ++
      (if p .dataColumn then s.columns else []) ++ (if p .measure then s.measures else []) ++
      (if p .relationship then s.relationships else []) := by
  have modelKept : ∀ o ∈ [s.model], p o.kind = p .model := by
    obtain ⟨given, modelRead⟩ := read.model
    intro o member
    rw [List.mem_singleton.1 member, modelRead]
    rfl
  have tablesKept : ∀ t ∈ s.tables, p t.kind = p .table := by
    intro t member
    rcases Kind.eq_of_isTable (isTable_of_mem_tables read member) with kind | kind
    · rw [kind]
    · rw [kind, tables]
  have columnsKept : ∀ c ∈ s.columns, p c.kind = p .dataColumn := by
    intro c member
    rcases Kind.eq_of_isColumn (isColumn_of_mem_columns read member) with kind | kind
    · rw [kind]
    · rw [kind, columns]
  have measuresKept : ∀ m ∈ s.measures, p m.kind = p .measure := fun m member => by rw [kind_of_mem_measures read member]
  have relationshipsKept : ∀ r ∈ s.relationships, p r.kind = p .relationship := fun r member => by
    rw [kind_of_mem_relationships read member]
  have split : s.objects = [s.model] ++ s.tables ++ s.columns ++ s.measures ++ s.relationships := rfl
  rw [split, List.filter_append, List.filter_append, List.filter_append, List.filter_append, filter_constant modelKept,
    filter_constant tablesKept, filter_constant columnsKept, filter_constant measuresKept,
    filter_constant relationshipsKept]

theorem mem_relationships_of_kind (read : s.AreRead) {r : ModelObject} (member : r ∈ s.objects)
    (kind : r.kind = .relationship) : r ∈ s.relationships := by
  have selected : s.objects.filter (fun o => o.kind = .relationship) = s.relationships := by
    simpa using filter_objects read (fun k => k = .relationship) rfl rfl
  rw [← selected]
  exact List.mem_filter.2 ⟨member, decide_eq_true kind⟩

theorem relationship_of_mem_objects {snapshot : Value} {os : List ModelObject} {r : ModelObject}
    (accepted : objects snapshot = .ok os) (member : r ∈ os) (kind : r.kind = .relationship) :
    ∃ given, Record.relationship given = .ok r := by
  rw [objects_eq] at accepted
  obtain ⟨s, found, rfl⟩ := exists_of_map_eq_ok accepted
  have read := areRead_of_sections found
  exact read.relationships r (mem_relationships_of_kind read member kind)

theorem shortName_withCounts (columns measures : List ModelObject) (t : ModelObject) :
    (withCounts columns measures t).shortName = t.shortName := by
  rw [ModelObject.shortName, ModelObject.shortName, withCounts, Bag.get_putIfAbsent_of_ne (by decide),
    Bag.get_putIfAbsent_of_ne (by decide)]

theorem isLabelled_of_withCounts {t : ModelObject} (labelled : t.IsLabelled) (columns measures : List ModelObject) :
    (withCounts columns measures t).IsLabelled := by
  constructor
  · exact labelled.named
  · intro table
    rw [shortName_withCounts]
    exact labelled.table table
  · intro column
    rw [shortName_withCounts]
    exact labelled.column column

theorem isLabelled_of_mem_objects (read : s.AreRead) {o : ModelObject} (member : o ∈ s.objects) : o.IsLabelled := by
  rcases mem_objects.1 member with rfl | member | member | member | member
  · obtain ⟨given, model⟩ := read.model
    rw [model]
    exact Record.isLabelled_of_model given
  · obtain ⟨columns, measures, given, rfl⟩ := read.tables o member
    exact isLabelled_of_withCounts (Record.isLabelled_of_table given) columns measures
  · obtain ⟨given, accepted⟩ := read.columns o member
    exact Record.isLabelled_of_column accepted
  · obtain ⟨given, rfl⟩ := read.measures o member
    exact Record.isLabelled_of_measure given
  · obtain ⟨given, accepted⟩ := read.relationships o member
    exact Record.isLabelled_of_relationship accepted

variable {snapshot : Value} {os : List ModelObject} {o : ModelObject}

theorem isLabelled_of_accepted (accepted : objects snapshot = .ok os) (member : o ∈ os) : o.IsLabelled := by
  rw [objects_eq] at accepted
  obtain ⟨s, found, rfl⟩ := exists_of_map_eq_ok accepted
  exact isLabelled_of_mem_objects (areRead_of_sections found) member

theorem kind_ne_other (accepted : objects snapshot = .ok os) (member : o ∈ os) (name : String) : o.kind ≠ .other name := by
  rw [objects_eq] at accepted
  obtain ⟨s, found, rfl⟩ := exists_of_map_eq_ok accepted
  have selected : s.objects.filter (fun o => o.kind = .other name) = [] := by
    simpa using filter_objects (areRead_of_sections found) (fun k => k = .other name) (by simp) (by simp)
  intro kind
  exact List.filter_eq_nil_iff.1 selected o member (decide_eq_true kind)

theorem exists_of_toOption_any {α : Type} {x : Except Fault α} {p : α → Bool} (found : x.toOption.any p = true) :
    ∃ a, x = .ok a ∧ p a = true := by
  cases x with
  | error fault => cases found
  | ok a => exact ⟨a, rfl, found⟩

theorem exists_of_accepts (snapshot : Value) (p : List ModelObject → Bool)
    (checked : (objects snapshot).toOption.any p = true) : ∃ os, objects snapshot = .ok os ∧ p os = true :=
  exists_of_toOption_any checked

end Snapshot

end TabularAudit
