import TabularAudit.Model.Snapshot
import TabularAudit.Run.Comparison
import TabularAudit.Run.Violations

/-! Sessions: one catalog is run on a model again and again, and each run is compared with the one before. -/

namespace TabularAudit.Session

def findings (rules : List Rule) (snapshots : List Value) : Except Fault (List (List Finding)) :=
  snapshots.mapM fun snapshot => (Snapshot.objects snapshot).map fun objects => (Run.ofRules rules objects).findings

def comparisons : List (List Finding) → Except Fault (List Comparison)
  | previous :: current :: rest => do
    let c ← Comparison.ofRuns current previous
    return c :: (← comparisons (current :: rest))
  | _ => .ok []

def timesFresh (cs : List Comparison) (k : String × String) : Nat :=
  (cs.flatMap fun c => c.fresh.map Finding.key).count k

def timesResolved (cs : List Comparison) (k : String × String) : Nat :=
  (cs.flatMap fun c => c.resolved.map Finding.key).count k

end TabularAudit.Session
