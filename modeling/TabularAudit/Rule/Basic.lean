import TabularAudit.Model.Bag

/-! Best-practice rules. -/

namespace TabularAudit

/-- A rule with a threshold fires once, for the model, when the named aggregate is greater. Any
other rule fires for each object in its scope for which the expression holds. -/
structure Rule where
  id : String
  name : String
  category : String
  severity : Value
  description : String
  scope : Value
  expression : Value := .text ""
  fixExpression : Value := .null
  compatibilityLevel : Value := .null
  threshold : Value := .null
  aggregate : Value := .null
  deriving Repr, DecidableEq

namespace Rule

def hasAutoFix (r : Rule) : Bool := !r.fixExpression.isEmpty

def isThreshold (r : Rule) : Bool :=
  match r.threshold with
  | .null => false
  | _ => true

def inField {α : Type} (id : Value) : Except Fault α → Except Fault α
  | .error .wrongKind | .error .badNumeral => .error (.catalog (.malformedField id.literal))
  | r => r

def wholeOrNull : Value → Except Fault Value
  | .null => .ok .null
  | v => v.toInt.map .int

def textOr (b : Bag) (name : String) (fallback : Value) : String :=
  ((b.get name).orElse fallback).display

def ofBag (b : Bag) : Except Fault Rule := do
  let id := b.get "ID"
  if id.isEmpty then .error (.catalog (.withoutId (b.get "Name").literal))
  else
    let severity ← inField id ((b.get "Severity").orElse (.int 2)).toInt
    let compatibilityLevel ← inField id (wholeOrNull (b.get "CompatibilityLevel"))
    let threshold ← inField id (wholeOrNull (b.get "Threshold"))
    return {
      id := id.display
      name := textOr b "Name" id
      category := textOr b "Category" (.text "Uncategorized")
      severity := .int severity
      description := textOr b "Description" (.text "")
      scope := (b.get "Scope").orElse (.text "")
      expression := .text (textOr b "Expression" (.text ""))
      fixExpression := (b.get "FixExpression").orElse .null
      compatibilityLevel
      threshold
      aggregate := (b.get "Aggregate").orElse .null }

def ofValue (v : Value) : Except Fault Rule := Bag.ofValue v >>= ofBag

/-- Fields without a value are left out; an aggregate is written only beside a threshold. -/
def entries (r : Rule) : Entries :=
  [("ID", .text r.id), ("Name", .text r.name), ("Category", .text r.category), ("Severity", r.severity),
    ("Description", .text r.description), ("Scope", r.scope), ("Expression", r.expression)] ++
  (if r.hasAutoFix then [("FixExpression", r.fixExpression)] else []) ++
  (match r.compatibilityLevel with
    | .null => []
    | level => [("CompatibilityLevel", level)]) ++
  (if r.isThreshold then [("Threshold", r.threshold), ("Aggregate", r.aggregate)] else [])

end Rule

end TabularAudit
