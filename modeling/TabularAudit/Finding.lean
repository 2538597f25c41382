import TabularAudit.Model.Object

/-! Violations of a rule by an object. -/

namespace TabularAudit

/-- Findings of earlier runs are read from files, where object and kind may be any value. -/
structure Finding where
  ruleId : String
  ruleName : String
  category : String
  severity : Int
  description : String
  affectedObject : Value
  objectType : Value
  hasAutoFix : Bool
  deriving Repr, DecidableEq

namespace Finding

def sameKey (f g : Finding) : Bool :=
  f.ruleId == g.ruleId && f.affectedObject.sameKey g.affectedObject

def textField (r : Entries) (name : String) : String := ((r.find? name).getD (.text "")).display

def field (r : Entries) (name : String) (fallback : Value) : Value :=
  ((r.find? name).getD .null).orElse fallback

def ofEntries (r : Entries) : Except Fault Finding := do
  let severity ← (field r "severity" (.int 1)).toInt
  let objectType := field r "objectType" (.text "Unknown")
  return {
    ruleId := textField r "ruleId"
    ruleName := textField r "ruleName"
    category := textField r "category"
    severity
    description := (field r "description" (.text "")).display
    affectedObject := field r "affectedObject" (.text ("Unknown_" ++ objectType.display))
    objectType
    hasAutoFix := !(field r "hasAutoFix" (.bool false)).isEmpty }

def ofValue : Value → Except Fault Finding
  | .map r => ofEntries r
  | _ => .error .notRecord

def entries (f : Finding) : Entries :=
  [("ruleId", .text f.ruleId), ("ruleName", .text f.ruleName), ("category", .text f.category),
    ("severity", .int f.severity), ("description", .text f.description), ("affectedObject", f.affectedObject),
    ("objectType", f.objectType), ("hasAutoFix", .bool f.hasAutoFix)]

def keyEntries (f : Finding) : Entries :=
  [("ruleId", .text f.ruleId), ("ruleName", .text f.ruleName), ("affectedObject", f.affectedObject)]

/-- The order of the fields before the object: the gravest first, then category and rule. -/
def rank (f g : Finding) : Ordering :=
  (compareOfLessAndEq g.severity f.severity).then
    ((compareOfLessAndEq f.category g.category).then (compareOfLessAndEq f.ruleId g.ruleId))

def objectBefore (f g : Finding) : Except Fault Bool :=
  Value.before f.affectedObject g.affectedObject

def clashes (f g : Finding) : Bool :=
  !(f.affectedObject.isText && g.affectedObject.isText) && f.rank g == .eq &&
    !f.affectedObject.same g.affectedObject && (f.objectBefore g).toOption.isNone

def precedes (f g : Finding) : Bool :=
  match f.rank g with
  | .lt => true
  | .gt => false
  | .eq => !f.affectedObject.same g.affectedObject && (f.objectBefore g).toOption.getD false

def ordered (fs : List Finding) : Except Fault (List Finding) :=
  if fs.any fun f => fs.any f.clashes then .error .wrongKind
  else .ok (fs.mergeSort fun f g => !g.precedes f)

end Finding

end TabularAudit
