import TabularAudit.Model.Index
import TabularAudit.Model.Record
import TabularAudit.Value.Entries

/-! Snapshots of a model, read as the list of its objects. -/

namespace TabularAudit.Snapshot

def records (b : Bag) (name : String) : Except Fault (List Value) :=
  ((b.get name).orElse (.list [])).items

/-- A record inside a table names that table, unless it names its own. -/
def nestedRecord (table : Value) : Value → Except Fault Value
  | .map entries => .ok (.map (Entries.merge [("TableName", table)] entries))
  | _ => .error .wrongKind

structure Nested where
  columns : List Value := []
  measures : List Value := []

def Nested.ofTable (raw : Value) : Except Fault Nested := do
  let b ← Record.ofValue raw
  let table := (Record.firstGiven b ["Name", "TableName"]).getD .null
  let columns ← (← records b "Columns").mapM (nestedRecord table)
  let measures ← (← records b "Measures").mapM (nestedRecord table)
  return ⟨columns, measures⟩

def Nested.ofTables : List Value → Except Fault Nested
  | [] => .ok {}
  | raw :: rest => do
    let one ← ofTable raw
    let more ← ofTables rest
    return ⟨one.columns ++ more.columns, one.measures ++ more.measures⟩

def readModel (raw : Value) : Except Fault ModelObject := (Record.ofValue raw).map Record.model

def readTable (raw : Value) : Except Fault ModelObject := (Record.ofValue raw).map Record.table

def readColumn (raw : Value) : Except Fault (Option ModelObject) :=
  Record.ofValue raw >>= Record.column

def readMeasure (raw : Value) : Except Fault ModelObject := (Record.ofValue raw).map Record.measure

def readRelationship (raw : Value) : Except Fault ModelObject :=
  Record.ofValue raw >>= Record.relationship

def readColumns (raw : List Value) : Except Fault (List ModelObject) :=
  (raw.mapM readColumn).map fun cs => cs.filterMap id

def membersOf (members : List ModelObject) (table : ModelObject) : Value :=
  .int (members.filter fun o => o.table = table.table).length

/-- Tables know how many columns and measures name them, unless their records say otherwise. -/
def withCounts (columns measures : List ModelObject) (t : ModelObject) : ModelObject :=
  { t with
    properties := (t.properties.putIfAbsent "ColumnCount" (membersOf columns t)).putIfAbsent "MeasureCount"
      (membersOf measures t) }

/-- The model itself comes first, then tables, columns, measures and relationships. -/
def objects (snapshot : Value) : Except Fault (List ModelObject) := do
  let b ← Bag.ofValue snapshot
  let rawTables ← records b "tables"
  let nested ← Nested.ofTables rawTables
  let tables ← rawTables.mapM readTable
  let columns ← readColumns ((← records b "columns") ++ nested.columns)
  let measures ← ((← records b "measures") ++ nested.measures).mapM readMeasure
  let relationships ← (← records b "relationships").mapM readRelationship
  let model ← readModel (b.get "model")
  return model :: tables.map (withCounts columns measures) ++ columns ++ measures ++ relationships

end TabularAudit.Snapshot
