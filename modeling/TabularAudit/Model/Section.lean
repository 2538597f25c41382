import TabularAudit.Model.Snapshot

/-! The records of a snapshot by section, those that stand in tables included. -/

namespace TabularAudit.Snapshot

/-- Columns and measures that stand in tables come behind those of their own section. -/
structure Records where
  model : Value
  tables : List Value
  columns : List Value
  measures : List Value
  relationships : List Value
  deriving Repr, DecidableEq

def inside (name : String) (table : Value) : Except Fault (List Value) := do
  let b ← Record.ofValue table
  (← records b name).mapM (nestedRecord ((Record.firstGiven b ["Name", "TableName"]).getD .null))

def Records.ofValue (snapshot : Value) : Except Fault Records := do
  let b ← Bag.ofValue snapshot
  let tables ← records b "tables"
  let columns ← records b "columns"
  let measures ← records b "measures"
  let relationships ← records b "relationships"
  let nestedColumns ← tables.mapM (inside "Columns")
  let nestedMeasures ← tables.mapM (inside "Measures")
  return ⟨b.get "model", tables, columns ++ nestedColumns.flatten, measures ++ nestedMeasures.flatten, relationships⟩

def bagOf (record : Value) : Bag := (Record.ofValue record).toOption.getD .empty

def standingIn (name : String) (table : Value) : List Value := (records (bagOf table) name).toOption.getD []

def givenName? (table : Value) : Option Value := Record.firstGiven (bagOf table) ["Name", "TableName"]

def givenUnder (name : String) (es : Entries) : List Value :=
  (es.filter fun e => Bag.fold (Record.fieldName e.1) = Bag.fold name).map Prod.snd

def namesTable : Value → Bool
  | .map es => ["TableName", "Table"].any fun name => (givenUnder name es).any fun v => !Record.isBlank v
  | _ => false

def hasTableName : Value → Bool
  | .map es => !(givenUnder "TableName" es).isEmpty
  | _ => false

def tableObject (c : Index) (table : Value) : Except Fault ModelObject :=
  (readTable table).map (withCounts c.columns c.measures)

def memberObject (name : String) (table record : Value) : Except Fault (Option ModelObject) := do
  let raw ← nestedRecord ((givenName? table).getD .null) record
  if name = "Columns" then readColumn raw else (readMeasure raw).map some

/-- The type of row numbers is given as a word, as a code or as the digits of the code. -/
def isRowNumberType : Option Value → Bool
  | some (.int n) => n == 3
  | some (.text s) => s == "RowNumber" || (s.toList.all Text.isDigit && Numeral.int? s == some 3)
  | _ => false

def isRowNumber (record : Value) : Bool :=
  match Record.ofValue record with
  | .ok b => isRowNumberType (Record.firstGiven b ["Type", "ColumnType"])
  | .error _ => false

def sizeProperties : List String :=
  ["Columns.Count", "ColumnsCount", "ColumnCount", "Measures.Count", "MeasuresCount", "MeasureCount"]

def givesSize (record : Value) : Bool :=
  match Record.ofValue record with
  | .ok b => sizeProperties.any b.contains
  | .error _ => false

end TabularAudit.Snapshot
