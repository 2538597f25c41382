import TabularAudit.Json.Writer
import TabularAudit.Report.Page
import TabularAudit.Run.Comparison
import TabularAudit.Run.Summary
import TabularAudit.Storage.Document

/-! Audits of a model: from the files of a snapshot to the files of a report. -/

namespace TabularAudit

namespace Audit

/-- Without `rules` the bundled catalog is used; `previous` holds the findings of an earlier
audit. -/
structure Request where
  metadata : Path
  out : Path
  rules : Option Path := none
  previous : Option Path := none

structure Outcome where
  model : String
  bundle : Bundle
  comparison : Option Comparison

def document (model : String) (b : Bundle) : Value := .map (b.entries ++ [("model", .text model)])

def catalogFor (d : Disk) : Option Path → Except Fault Catalog
  | some p => d.catalog p true
  | none => Catalog.bundled

def compareWith (d : Disk) (run : Run) : Option Path → Except Fault (Option Comparison)
  | some p => do
    let previous ← d.findings p
    (Comparison.ofRuns run.findings previous).map some
  | none => .ok none

def comparisonValue : Option Comparison → Value
  | some c => .map c.entries
  | none => .null

/-- An audit whose findings are on the disk. -/
structure Record where
  catalog : Catalog
  snapshot : Value
  model : String
  run : Run
  bundle : Bundle

def record (q : Request) : Effect Record := do
  Effect.makeDirectory q.out
  let catalog ← Effect.look fun d => catalogFor d q.rules
  let snapshot ← Effect.look fun d => d.snapshot q.metadata
  let objects ← Effect.ofResult (Snapshot.objects snapshot)
  let model := (Index.ofObjects objects).modelName
  let run := Run.ofRules catalog.rules objects
  let bundle ← Effect.ofResult (Bundle.ofRun run)
  Effect.write (q.out.child "findings.json") (Json.text (document model bundle))
  Effect.write (q.out.child "summary.json") (Json.text (.map bundle.summary.entries))
  return ⟨catalog, snapshot, model, run, bundle⟩

def publish (q : Request) (r : Record) : Effect Outcome := do
  let comparison ← Effect.look fun d => compareWith d r.run q.previous
  if let some c := comparison then
    Effect.write (q.out.child "comparison.json") (Json.text (.map c.entries))
  let html ← Effect.ofResult (Report.html (document r.model r.bundle) (comparisonValue comparison))
  Effect.write (q.out.child "report.html") html
  return ⟨r.model, r.bundle, comparison⟩

/-- Findings and summary are written before an earlier audit is looked at. -/
def perform (q : Request) : Effect Outcome := record q >>= publish q

end Audit

end TabularAudit
