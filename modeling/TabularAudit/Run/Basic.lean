import TabularAudit.Expr.Meaning
import TabularAudit.Finding
import TabularAudit.Model.Scope
import TabularAudit.Rule.Basic

/-! Runs of rules over the objects of a model. -/

namespace TabularAudit

namespace Rule

def finding (r : Rule) (object : String) (kind : Kind) : Except Fault Finding := do
  let severity ← r.severity.toInt
  return {
    ruleId := r.id
    ruleName := r.name
    category := r.category
    severity
    description := r.description
    affectedObject := .text (if object = "" then ModelObject.unnamed kind else object)
    objectType := .text kind.text
    hasAutoFix := r.hasAutoFix }

def count (r : Rule) (c : Index) : Except Fault Nat :=
  match r.aggregate with
  | .text name =>
    match c.aggregate? name with
    | some n => .ok n
    | none => .error .missingKey
  | _ => .error .missingKey

def thresholdFindings (r : Rule) (c : Index) : Except Fault (List Finding) := do
  let n ← r.count c
  let exceeded ← Value.before r.threshold (.int n)
  if exceeded then return [← r.finding c.modelName .model] else return []

/-- An object whose finding cannot be made is passed over. -/
def objectFinding? (r : Rule) (c : Index) (o : ModelObject) : Option Finding :=
  if Expr.holds r.expression o c then (r.finding o.name o.kind).toOption else none

def objectFindings (r : Rule) (objects : List ModelObject) (c : Index) :
    Except Fault (List Finding) := do
  return (← Scope.select r.scope objects).filterMap (r.objectFinding? c)

def findings (r : Rule) (objects : List ModelObject) (c : Index) : Except Fault (List Finding) :=
  if r.isThreshold then r.thresholdFindings c else r.objectFindings objects c

end Rule

structure Attempt where
  ruleId : String
  findings : Except Fault (List Finding)

namespace Attempt

def ofRule (objects : List ModelObject) (c : Index) (r : Rule) : Attempt :=
  ⟨r.id, r.findings objects c⟩

def missing : Attempt := ⟨"?", .error .notRecord⟩

end Attempt

structure Run where
  findings : List Finding := []
  skipped : List String := []
  evaluated : Nat := 0
  deriving Repr, DecidableEq

structure Merge where
  run : Run := {}
  seen : List (String × Value) := []

namespace Merge

def add (m : Merge) (f : Finding) : Merge :=
  if m.seen.any fun k => k.1 == f.ruleId && k.2.sameKey f.affectedObject then m
  else ⟨{ m.run with findings := m.run.findings ++ [f] }, m.seen ++ [(f.ruleId, f.affectedObject)]⟩

/-- A rule that fails as a whole is skipped and never ends the run. -/
def attempt (m : Merge) (a : Attempt) : Merge :=
  match a.findings with
  | .error _ => { m with run := { m.run with skipped := m.run.skipped ++ [a.ruleId] } }
  | .ok found => found.foldl add { m with run := { m.run with evaluated := m.run.evaluated + 1 } }

end Merge

namespace Run

def ofAttempts (attempts : List Attempt) : Run := (attempts.foldl Merge.attempt {}).run

def ofRules (rules : List Rule) (objects : List ModelObject) : Run :=
  ofAttempts (rules.map (Attempt.ofRule objects (Index.ofObjects objects)))

end Run

end TabularAudit
