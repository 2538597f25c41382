import TabularAudit.Model.Object

/-! What rules can look up across the objects of a model. -/

namespace TabularAudit

abbrev Tally := List (String × Nat)

namespace Tally

def add : Tally → String → Tally
  | [], k => [(k, 1)]
  | (j, n) :: rest, k => if j = k then (j, n + 1) :: rest else (j, n) :: add rest k

def count : Tally → String → Nat
  | [], _ => 0
  | (j, n) :: rest, k => if j = k then n else count rest k

def ofList (names : List String) : Tally := names.foldl add []

theorem count_add (t : Tally) (k j : String) : count (add t k) j = count t j + if k = j then 1 else 0 := by
  induction t with
  | nil => by_cases h : k = j <;> simp [add, count, h]
  | cons e t ih =>
      obtain ⟨i, n⟩ := e
      by_cases hi : i = k
      · subst hi
        by_cases h : i = j <;> simp [add, count, h]
      · by_cases h : i = j
        · subst h
          simp [add, count, hi, Ne.symm hi]
        · simp [add, count, hi, h, ih]

theorem count_ofList (names : List String) (k : String) : count (ofList names) k = names.count k := by
  suffices h : ∀ t : Tally, count (names.foldl add t) k = count t k + names.count k by
    simpa [ofList, count] using h []
  induction names with
  | nil => simp
  | cons name names ih =>
      intro t
      simp only [List.foldl_cons, ih, count_add, List.count_cons, beq_iff_eq]
      omega

theorem any_add (t : Tally) (k j : String) :
    (add t k).any (fun e => e.1 == j) = (t.any (fun e => e.1 == j) || k == j) := by
  induction t with
  | nil => simp [add]
  | cons e t ih =>
      obtain ⟨i, n⟩ := e
      by_cases same : i = k
      · subst same
        simp only [add, if_true, List.any_cons]
        cases i == j <;> simp
      · simp only [add, if_neg same, List.any_cons, ih, Bool.or_assoc]

theorem any_ofList (names : List String) (k : String) :
    (ofList names).any (fun e => e.1 == k) = names.any (· == k) := by
  suffices general : ∀ t : Tally, (names.foldl add t).any (fun e => e.1 == k) =
      (t.any (fun e => e.1 == k) || names.any (· == k)) from general []
  induction names with
  | nil => simp
  | cons name names ih =>
      intro t
      rw [List.foldl_cons, ih, any_add, List.any_cons, Bool.or_assoc]

end Tally

def qualifiedColumn (table column : String) : String := table ++ "[" ++ column ++ "]"

/-- Tables under their short names; a later table takes the place of an earlier one. -/
def indexTable : List (String × ModelObject) → ModelObject → List (String × ModelObject)
  | [], t => [(t.shortName, t)]
  | (name, u) :: rest, t =>
      if name = t.shortName then (name, t) :: rest else (name, u) :: indexTable rest t

structure Index where
  tables : List ModelObject := []
  columns : List ModelObject := []
  measures : List ModelObject := []
  relationships : List ModelObject := []
  tableEnds : Tally := []
  columnEnds : Tally := []
  tablesByName : List (String × ModelObject) := []
  aggregates : List (String × Nat) := []
  modelName : String := "Model"

namespace Index

def empty : Index := {}

def namedEnds (relationships : List ModelObject) : List (String × String) :=
  relationships.flatMap fun r => Side.all.filterMap fun side =>
    if (r.endTable side).isEmpty then none
    else some ((r.endTable side).display, ((r.endColumn side).orElse (.text "")).display)

def reads (r : ModelObject) (property word : String) : Bool :=
  Text.lower ((r.properties.get property).orElse (.text "")).display == word

def isBidirectional (r : ModelObject) : Bool := reads r "CrossFilteringBehavior" "bothdirections"

def isManyToMany (r : ModelObject) : Bool :=
  reads r "FromCardinality" "many" && reads r "ToCardinality" "many"

def isInactive (r : ModelObject) : Bool :=
  match r.properties.get "IsActive" with
  | .bool false => true
  | _ => false

def ofKind (objects : List ModelObject) (k : Kind) : List ModelObject :=
  objects.filter fun o => o.kind = k

def aggregatesOf (objects : List ModelObject) : List (String × Nat) :=
  let relationships := ofKind objects .relationship
  [("TableCount", (objects.filter (·.kind.isTable)).length),
    ("CalculatedTableCount", (ofKind objects .calculatedTable).length),
    ("ColumnCount", (objects.filter (·.kind.isColumn)).length),
    ("DataColumnCount", (ofKind objects .dataColumn).length),
    ("CalculatedColumnCount", (ofKind objects .calculatedColumn).length),
    ("MeasureCount", (ofKind objects .measure).length),
    ("RelationshipCount", relationships.length),
    ("BidirectionalRelationshipCount", (relationships.filter isBidirectional).length),
    ("ManyToManyRelationshipCount", (relationships.filter isManyToMany).length),
    ("InactiveRelationshipCount", (relationships.filter isInactive).length)]

/-- The last object of kind "model" names the model. -/
def modelNameOf (objects : List ModelObject) : String :=
  match (ofKind objects .model).getLast? with
  | some o => o.name
  | none => "Model"

def ofObjects (objects : List ModelObject) : Index :=
  let tables := objects.filter (·.kind.isTable)
  let relationships := ofKind objects .relationship
  let ends := namedEnds relationships
  { tables
    columns := objects.filter (·.kind.isColumn)
    measures := ofKind objects .measure
    relationships
    tableEnds := Tally.ofList (ends.map Prod.fst)
    columnEnds := Tally.ofList (ends.map fun e => qualifiedColumn e.1 e.2)
    tablesByName := tables.foldl indexTable []
    aggregates := aggregatesOf objects
    modelName := modelNameOf objects }

def table? (c : Index) (name : String) : Option ModelObject := c.tablesByName.lookup name

def column? (c : Index) (table name : Value) : Option ModelObject :=
  c.columns.find? fun o => table.names o.table && name.names (some o.shortName)

def aggregate? (c : Index) (name : String) : Option Nat := c.aggregates.lookup name

def columnInRelationships (c : Index) (key : String) : Bool := c.columnEnds.any fun e => e.1 == key

def relationshipsOf (c : Index) (o : ModelObject) : List ModelObject :=
  c.relationships.filter fun r => Side.all.any fun side => r.endsOn side o

end Index

end TabularAudit
