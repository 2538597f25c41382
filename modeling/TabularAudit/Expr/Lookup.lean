import TabularAudit.Model.Index
import TabularAudit.Value.Text

/-! What names in a rule expression stand for. -/

namespace TabularAudit.Expr

def families : List String :=
  ["AggregateFunction", "Alignment", "ColumnType", "CrossFilteringBehavior", "DataType", "DataViewType",
    "DateTimeRelationshipBehavior", "EncodingHintType", "ModeType", "ObjectType",
    "PartitionSourceType", "RegexOptions",
    "RelationshipEndCardinality", "SecurityFilteringBehavior", "StringComparison"]

def collectionNames : List String :=
  ["UsedInRelationships", "Columns", "Measures", "Partitions", "Hierarchies", "Tables", "Relationships"]

structure Reference where
  name : String
  object : Option ModelObject

structure Env where
  index : Index := {}
  current : Option Reference := none

def receiver : Option ModelObject → Except Fault ModelObject
  | some o => .ok o
  | none => .error .notRecord

def isFlagName (name : String) : Bool :=
  match name.toList with
  | 'I' :: 's' :: c :: _ => c.isUpper
  | _ => false

def storedProperty (o : ModelObject) (name : String) : Value :=
  match o.properties.find? name with
  | some v => v
  | none =>
    if name = "ObjectType" ∨ name = "ObjectTypeName" then .text o.kind.text
    else if isFlagName name then .bool false
    else .null

/-- The expression of an object hides a property of that name. -/
def readProperty (o : ModelObject) (name : String) : Value :=
  if name = "Expression" then (o.expression.map Value.text).getD (storedProperty o name)
  else storedProperty o name

def endObject? (c : Index) (r : ModelObject) (name : String) : Option ModelObject :=
  match name with
  | "FromTable" => c.table? ((r.endTable .source).orElse (.text "")).display
  | "ToTable" => c.table? ((r.endTable .target).orElse (.text "")).display
  | "FromColumn" => c.column? (r.endTable .source) (r.endColumn .source)
  | "ToColumn" => c.column? (r.endTable .target) (r.endColumn .target)
  | _ => none

def joinedProperty? (o : ModelObject) (parts : List String) : Option Value :=
  (o.properties.find? (Text.join "." parts)).orElse fun _ => o.properties.find? (Text.join "" parts)

/-- `X.Name` is the property `X` itself; at the end of a relationship any property can be read. -/
def endProperty? (c : Index) (o : ModelObject) (parts : List String) : Option Value :=
  match parts with
  | [owner, name] =>
    (if name = "Name" then o.properties.find? owner else none).orElse fun _ =>
      if o.kind = .relationship then (endObject? c o owner).map fun found => readProperty found name else none
  | _ => none

def lengthOf (v : Value) : Value := .int v.plainText.length

def usageCount (c : Index) (o : ModelObject) : Nat :=
  if o.kind.isTable then c.tableEnds.count o.shortName
  else c.columnEnds.count (qualifiedColumn (o.table.getD "") o.shortName)

def isUsed (c : Index) (o : ModelObject) : Bool :=
  if o.kind.isTable then 0 < c.tableEnds.count o.shortName
  else c.columnInRelationships (qualifiedColumn (o.table.getD "") o.shortName)

def singular (name : String) : String :=
  match name.toList.reverse with
  | 's' :: rest => String.ofList rest.reverse
  | _ => name

def storedCount? (o : ModelObject) (name : String) : Option Value :=
  [name ++ ".Count", name ++ "Count", singular name ++ "Count"].findSome? o.properties.find?

def members? (c : Index) (o : ModelObject) (name : String) : Option (List ModelObject) :=
  if !o.kind.isTable then none
  else if name = "Columns" then some (c.columns.filter fun m => m.table = some o.shortName)
  else if name = "Measures" then some (c.measures.filter fun m => m.table = some o.shortName)
  else none

/-- A stored count comes before a stored list, and both before counting the members. -/
def memberCount (c : Index) (o : ModelObject) (name : String) : Except Fault Int :=
  if name = "UsedInRelationships" then .ok (usageCount c o)
  else match storedCount? o name, o.properties.get name, members? c o name with
    | some v, _, _ => v.toNumber >>= Value.wholePart
    | none, .list items, _ => .ok items.length
    | none, _, some members => .ok members.length
    | none, _, none => .error (.unsupported (.count name))

def sizeAt (c : Index) : Option ModelObject → List String → Except Fault Int
  | obj, [name] => do memberCount c (← receiver obj) name
  | obj, head :: rest => do
    if head = "Table" then
      match c.table? ((← receiver obj).table.getD "") with
      | some owner => sizeAt c (some owner) rest
      | none => .error (.unsupported .ownerUnknown)
    else .error (.unsupported (.collection (head :: rest)))
  | _, [] => .error (.unsupported (.collection []))

def hasMembers (c : Index) (obj : Option ModelObject) (path : List String) : Except Fault Bool := do
  if path = ["UsedInRelationships"] then return isUsed c (← receiver obj)
  else return 0 < (← sizeAt c obj path)

def countedCollection? (parts : List String) : Option (List String) :=
  match parts.reverse with
  | "Count" :: name :: rest =>
      if collectionNames.contains name then some (name :: rest).reverse else none
  | _ => none

/-- A name is read as an enum member, the current object, a property of the owning table, a count, a
property or its length. -/
def denote (env : Env) (obj : Option ModelObject) (head : String) (rest : List String) : Except Fault Value :=
  if families.contains head && rest.length == 1 then .ok (.enum head (rest.headD ""))
  else if head = "current" then
    match env.current with
    | none => .error (.unsupported .currentOutsidePredicate)
    | some reference =>
      match rest with
      | [] => .ok (.text reference.name)
      | part :: parts =>
        if part = "Name" ∧ parts = [] then .ok (.text reference.name)
        else match reference.object with
          | some o => denote { env with current := none } (some o) part parts
          | none => .ok .null
  else
    match rest with
    | [] => do return readProperty (← receiver obj) head
    | part :: parts =>
      if head = "Table" then do
        let o ← receiver obj
        if parts = [] ∧ part = "Name" then return Value.ofOption o.table
        match env.index.table? (o.table.getD "") with
        | some owner => denote env (some owner) part parts
        | none => return .null
      else match countedCollection? (head :: part :: parts) with
        | some path => (sizeAt env.index obj path).map .int
        | none => do
          let o ← receiver obj
          match joinedProperty? o (head :: part :: parts) with
          | some v => return v
          | none =>
            if (part :: parts).getLast? = some "Length" then
              (denote env obj head (part :: parts).dropLast).map lengthOf
            else return (endProperty? env.index o (head :: part :: parts)).getD .null
termination_by rest.length

end TabularAudit.Expr
