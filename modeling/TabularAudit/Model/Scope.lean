import TabularAudit.Model.Object

/-! The kinds of objects that a rule applies to. -/

namespace TabularAudit.Scope

def groups : List (String × List Kind) :=
  [("Model", [.model]), ("Table", [.table]), ("Tables", [.table, .calculatedTable]),
    ("CalculatedTable", [.calculatedTable]), ("Column", [.dataColumn, .calculatedColumn]),
    ("Columns", [.dataColumn, .calculatedColumn]), ("DataColumn", [.dataColumn]),
    ("CalculatedColumn", [.calculatedColumn]), ("Measure", [.measure]), ("Measures", [.measure]),
    ("Relationship", [.relationship]), ("SingleColumnRelationship", [.relationship]),
    ("Relationships", [.relationship])]

def ignored : List String :=
  ["KPI", "Hierarchy", "Level", "Perspective", "Partition", "Culture", "CalculationGroup", "CalculationItem",
    "ModelRole", "ModelRoleMember", "TablePermission", "ProviderDataSource", "StructuredDataSource",
    "NamedExpression", "Variation", "CalculatedTableColumn"]

/-- A word that is no group stands for the kind spelled in the same way. -/
def wordKinds (word : String) : List String :=
  if word.isEmpty || ignored.contains word then []
  else match groups.lookup word with
    | some kinds => kinds.map Kind.text
    | none => [word]

def words (scope : String) : List String :=
  (Text.splitOn ',' scope.toList).map fun w => String.ofList (Text.strip w)

def kinds (scope : String) : List String := ((words scope).flatMap wordKinds).eraseDups

def ofValue : Value → Except Fault (List String)
  | .text scope => .ok (kinds scope)
  | v => .error (.scopeNotText v.kindName)

def select (scope : Value) (objects : List ModelObject) : Except Fault (List ModelObject) :=
  (ofValue scope).map fun kinds => objects.filter fun o => kinds.contains o.kind.text

end TabularAudit.Scope
