import TabularAudit.Run.Basic

/-! Runs as they are reported: counts, and the findings in order. -/

namespace TabularAudit

structure Summary where
  total : Nat
  errors : Nat
  warnings : Nat
  infos : Nat
  autoFixable : Nat
  byCategory : List (String × Nat)
  byObjectType : List (Value × Nat)
  evaluated : Nat
  skipped : List String
  deriving Repr

namespace Summary

def ofSeverity (fs : List Finding) (severity : Int) : Nat :=
  (fs.filter fun f => f.severity = severity).length

def categoryCounts (fs : List Finding) : List (String × Nat) :=
  (Tally.ofList (fs.map Finding.category)).mergeSort fun a b => decide (a.1 ≤ b.1)

/-- Kinds are counted as keys, so numbers of equal size are one kind. -/
def addKind : List (Value × Nat) → Value → List (Value × Nat)
  | [], v => [(v, 1)]
  | (w, n) :: rest, v => if v.sameKey w then (w, n + 1) :: rest else (w, n) :: addKind rest v

/-- Kinds that cannot be ordered cannot be reported. -/
def orderedKinds (counts : List (Value × Nat)) : Except Fault (List (Value × Nat)) :=
  if counts.any fun a => counts.any fun b => !a.1.sameKey b.1 && (Value.before a.1 b.1).toOption.isNone then
    .error .wrongKind
  else .ok (counts.mergeSort fun a b => !(Value.before b.1 a.1).toOption.getD false)

def kindCounts (fs : List Finding) : Except Fault (List (Value × Nat)) :=
  let kinds := fs.map Finding.objectType
  if kinds.all Value.isAtom then orderedKinds (kinds.foldl addKind []) else .error .wrongKind

def ofRun (r : Run) : Except Fault Summary := do
  let byObjectType ← kindCounts r.findings
  return {
    total := r.findings.length
    errors := ofSeverity r.findings 3
    warnings := ofSeverity r.findings 2
    infos := ofSeverity r.findings 1
    autoFixable := (r.findings.filter Finding.hasAutoFix).length
    byCategory := categoryCounts r.findings
    byObjectType
    evaluated := r.evaluated
    skipped := r.skipped }

def counts (pairs : List (String × Nat)) : Value := .map (pairs.map fun p => (p.1, .int p.2))

def entries (s : Summary) : Entries :=
  [("totalCount", .int s.total), ("errorCount", .int s.errors), ("warningCount", .int s.warnings),
    ("infoCount", .int s.infos), ("autoFixableCount", .int s.autoFixable),
    ("byCategory", counts s.byCategory),
    ("byObjectType", counts (s.byObjectType.map fun p => (p.1.display, p.2))),
    ("rulesEvaluated", .int s.evaluated),
    ("rulesSkipped", .int s.skipped.length), ("skippedRules", .list (s.skipped.map .text))]

end Summary

structure Bundle where
  summary : Summary
  findings : List Finding
  deriving Repr

namespace Bundle

def ofRun (r : Run) : Except Fault Bundle := do
  let findings ← Finding.ordered r.findings
  return ⟨← Summary.ofRun r, findings⟩

def entries (b : Bundle) : Entries :=
  [("summary", .map b.summary.entries),
    ("findings", .list (b.findings.map fun f => .map f.entries))]

end Bundle

end TabularAudit
