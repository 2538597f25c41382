import TabularAudit.Run.Basic

/-!
What a run has to report, said rule by rule and object by object: the violations in order, and the
rules that cannot be evaluated.
-/

namespace TabularAudit

namespace Finding

def key (f : Finding) : String × String := (f.ruleId, f.affectedObject.display)

def firsts : List Finding → List Finding
  | [] => []
  | f :: rest => f :: (firsts rest).filter fun g => g.key ≠ f.key

end Finding

namespace Rule

def severityNumber (r : Rule) : Int :=
  match r.severity with
  | .int n => n
  | _ => 0

def report (r : Rule) (object kind : String) : Finding where
  ruleId := r.id
  ruleName := r.name
  category := r.category
  severity := r.severityNumber
  description := r.description
  affectedObject := .text object
  objectType := .text kind
  hasAutoFix := r.hasAutoFix

def isViolatedBy (r : Rule) (scope : String) (c : Index) (o : ModelObject) : Bool :=
  (Scope.kinds scope).contains o.kind.text && Expr.holds r.expression o c

def known? (r : Rule) (c : Index) : Option Nat :=
  match r.aggregate with
  | .text name => c.aggregate? name
  | _ => none

def objectViolations (r : Rule) (scope : String) (objects : List ModelObject) (c : Index) : List Finding :=
  (objects.filter (r.isViolatedBy scope c)).map fun o => r.report o.name o.kind.text

def thresholdViolations (r : Rule) (limit : Int) (n : Nat) (c : Index) : List Finding :=
  if limit < n then [r.report c.modelName "Model"] else []

def violations? (r : Rule) (objects : List ModelObject) (c : Index) : Option (List Finding) :=
  match r.threshold, r.scope with
  | .null, .text scope => some (r.objectViolations scope objects c)
  | .int limit, _ => (r.known? c).map fun n => r.thresholdViolations limit n c
  | _, _ => none

/-- A rule with a threshold needs a known aggregate, any other a text for its scope. -/
def isSkipped (r : Rule) (c : Index) : Bool :=
  if r.isThreshold then (r.known? c).isNone else !r.scope.isText

end Rule

end TabularAudit
