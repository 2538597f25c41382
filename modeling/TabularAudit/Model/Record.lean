import TabularAudit.Model.Object
import TabularAudit.Text.Digit

/-! Records of a snapshot, read as model objects. -/

namespace TabularAudit.Record

abbrev Codes := List (Int × String)

def columnCodes : Codes :=
  [(1, "Data"), (2, "Calculated"), (3, "RowNumber"), (4, "CalculatedTableColumn")]

def dataCodes : Codes :=
  [(1, "Automatic"), (2, "String"), (6, "Int64"), (8, "Double"), (9, "DateTime"),
    (10, "Decimal"), (11, "Boolean"),
    (17, "Binary"), (19, "Unknown"), (20, "Variant")]

def directionCodes : Codes := [(1, "OneDirection"), (2, "BothDirections"), (3, "Automatic")]

def cardinalityCodes : Codes := [(1, "One"), (2, "Many")]

/-- The name behind a code, given as an integer or in digits; unknown integers keep their digits. -/
def decode (codes : Codes) : Value → Except Fault Value
  | .int n =>
    match (codes.lookup n).or (Numeral.text? n) with
    | some name => .ok (.text name)
    | none => .error .badNumeral
  | .text s =>
    if !s.isEmpty && s.toList.all Text.isDigit then
      match Numeral.int? s with
      | some n => .ok (.text ((codes.lookup n).getD s))
      | none => .error .badNumeral
    else .ok (.text s)
  | v => .ok v

def unbracketed (cs : List Char) : List Char :=
  match cs with
  | '[' :: rest => if rest.getLast? = some ']' then rest.dropLast else cs
  | _ => cs

def fieldName (key : String) : String := String.ofList (unbracketed (Text.strip key.toList))

def ofEntries (entries : Entries) : Bag :=
  entries.foldl (fun b e => b.put (fieldName e.1) e.2) Bag.empty

def ofValue : Value → Except Fault Bag
  | .map entries => .ok (ofEntries entries)
  | v => if v.isEmpty then .ok Bag.empty else .error .notRecord

def isBlank : Value → Bool
  | .null => true
  | .text s => s.isEmpty
  | _ => false

def firstGiven (b : Bag) : List String → Option Value
  | [] => none
  | name :: rest => if isBlank (b.get name) then firstGiven b rest else some (b.get name)

def firstText (b : Bag) (names : List String) : Option String :=
  (firstGiven b names).map Value.display

/-- Flags are Booleans, numbers, or words in any letter case. -/
def isOn : Value → Bool
  | .bool b => b
  | .int n => n != 0
  | .float x => !x.isZero
  | .text s => ["true", "1", "yes"].contains (Text.lower (Text.trim s))
  | _ => false

def isGenerated (name : String) : Bool :=
  ["DateTableTemplate_", "LocalDateTable_"].any fun start => start.toList.isPrefixOf name.toList

def tableLabel (table : String) : String := "'" ++ table ++ "'"

def fieldLabel (table name : String) : String := tableLabel table ++ "[" ++ name ++ "]"

def memberName (table : Option String) (name : String) : String :=
  match table with
  | some t => fieldLabel t name
  | none => name

def endName (table column : Option Value) : String :=
  let table := (table.getD .null).orElse (.text "")
  let column := (column.getD .null).orElse (.text "")
  if table.isEmpty then column.display
  else if column.isEmpty then tableLabel table.display
  else fieldLabel table.display column.display

def identified (b : Bag) (name : String) (kind : Kind) : Bag :=
  (b.put "Name" (.text name)).put "ObjectTypeName" (.text kind.text)

def owned (b : Bag) : Option String → Bag
  | some table => b.put "TableName" (.text table)
  | none => b

/-- What is not said to be hidden is shown. -/
def shown (b : Bag) : Bag := b.putIfAbsent "IsHidden" (.bool false)

def model (b : Bag) : ModelObject :=
  let given := (firstGiven b ["Name", "ModelName", "DatabaseName"]).getD .null
  let name := (given.orElse (.text "Model")).display
  .named name .model (identified b name .model) none none

def sourceType (b : Bag) : String :=
  let picked := firstGiven b ["PartitionSourceType", "PartitionMode", "SourceType", "Type"]
  Text.lower ((picked.getD .null).orElse (.text "")).display

def isCalculated (b : Bag) (name : Option String) : Bool :=
  name.any isGenerated || ["calculated", "calculatedtable", "calculationgroup"].contains (sourceType b) ||
    isOn (b.get "IsCalculated") ||
    ((firstGiven b ["Expression"]).isSome && ["", "unknown"].contains (sourceType b))

def table (b : Bag) : ModelObject :=
  let given := firstText b ["Name", "TableName"]
  let kind : Kind := if isCalculated b given then .calculatedTable else .table
  let name := given.getD (ModelObject.unnamed kind)
  .named (tableLabel name) kind (shown (identified b name kind)) (firstText b ["Expression"]) (some name)

def columnType (b : Bag) : Except Fault String :=
  (decode columnCodes ((firstGiven b ["Type", "ColumnType"]).getD .null)).map fun v =>
    (v.orElse (.text "Data")).display

def columnKind (type : String) (hasExpression : Bool) : Kind :=
  if type == "Calculated" || (hasExpression && type != "CalculatedTableColumn") then
    .calculatedColumn
  else .dataColumn

def decoded (b : Bag) (codes : Codes) (name : String) : Option Value → Except Fault Bag
  | some v => (decode codes v).map (b.put name)
  | none => .ok b

/-- Row numbers are no columns of their own. -/
def column (b : Bag) : Except Fault (Option ModelObject) := do
  let type ← columnType b
  if type == "RowNumber" then return none
  let kind := columnKind type (firstGiven b ["Expression"]).isSome
  let table := firstText b ["TableName", "Table"]
  let given := firstText b ["Name", "ExplicitName", "ColumnName", "InferredName"]
  let name := given.getD (ModelObject.unnamed kind)
  let typed ← decoded b dataCodes "DataType" (firstGiven b ["DataType", "ExplicitDataType"])
  let typed := typed.put "Type" (.text (if kind = .calculatedColumn then "Calculated" else type))
  return some (.named (memberName table name) kind (shown (owned (identified typed name kind) table))
    (firstText b ["Expression"]) table)

def measure (b : Bag) : ModelObject :=
  let table := firstText b ["TableName", "Table"]
  let name := (firstText b ["Name", "MeasureName"]).getD (ModelObject.unnamed .measure)
  .named (memberName table name) .measure (shown (owned (identified b name .measure) table))
    (firstText b ["Expression"])
    table

def endValue (b : Bag) (property : String) : Option Value :=
  firstGiven b [property, property ++ "Name"]

def endNames (b : Bag) (side : Side) : String :=
  endName (endValue b (side.word ++ "Table")) (endValue b (side.word ++ "Column"))

def relationshipName (b : Bag) : String :=
  let source := endNames b .source
  let target := endNames b .target
  (firstText b ["Name"]).getD
    (if source = "" ∨ target = "" then ModelObject.unnamed .relationship else source ++ " -> " ++ target)

def withEnd (given : Bag) (b : Bag) (property : String) : Bag :=
  match endValue given property with
  | some v => b.put property (.text v.display)
  | none => b

def endProperties : List String := ["FromTable", "FromColumn", "ToTable", "ToColumn"]

/-- The name comes from the ends as they were given. -/
def relationship (given : Bag) : Except Fault ModelObject := do
  let b := endProperties.foldl (withEnd given) given
  let b ← decoded b directionCodes "CrossFilteringBehavior"
    (firstGiven b ["CrossFilteringBehavior", "CrossFilterDirection"])
  let b ← decoded b cardinalityCodes "FromCardinality" (b.find? "FromCardinality")
  let b ← decoded b cardinalityCodes "ToCardinality" (b.find? "ToCardinality")
  let b := b.putIfAbsent "IsActive" (.bool true)
  let name := relationshipName given
  return .named name .relationship (identified b name .relationship) none none

end TabularAudit.Record
