import Mathlib.Data.List.Forall2
import TabularAudit.Model.Snapshot

/-! Snapshots that differ in the order of their records, and models that differ in the order of their relationships. -/

namespace TabularAudit

structure Relinked (os ps : List ModelObject) : Prop where
  others : os.filter (fun o => o.kind ≠ .relationship) = ps.filter fun o => o.kind ≠ .relationship
  relationships : (Index.ofKind os .relationship).Perm (Index.ofKind ps .relationship)

namespace Snapshot

def unorderedSections : List String := ["tables", "columns", "measures"]

/-- What stands in a snapshot under a name: a list of records in some order, or a value that is left alone. -/
inductive ReorderedSection : String → Value → Value → Prop
  | kept (name : String) (v : Value) : ReorderedSection name v v
  | permuted {name : String} {vs vs' : List Value} (named : name ∈ unorderedSections) (perm : vs.Perm vs') :
      ReorderedSection name (.list vs) (.list vs')

inductive Reordered : Value → Value → Prop
  | kept (v : Value) : Reordered v v
  | sections {es es' : Entries} (same : List.Forall₂ (fun e e' =>
      e.1 = e'.1 ∧ ReorderedSection (Bag.fold e.1) e.2 e'.2) es es') : Reordered (.map es) (.map es')

end Snapshot

end TabularAudit
