import TabularAudit.Model.Snapshot

/-! The kinds of records that a snapshot holds, each with its own way of being read. -/

namespace TabularAudit

def Record.IsBare (name : String) : Prop :=
  name.toList.head?.all (!Text.isBlank ·) ∧ name.toList.getLast?.all (!Text.isBlank ·) ∧
    ¬(name.toList.head? = some '[' ∧ name.toList.getLast? = some ']')

instance (name : String) : Decidable (Record.IsBare name) := inferInstanceAs (Decidable (_ ∧ _ ∧ ¬_))

def Record.keys : Value → List String
  | .map entries => entries.map Prod.fst
  | _ => []

namespace Snapshot

inductive RecordKind where
  | model
  | table
  | column
  | measure
  | relationship
  deriving DecidableEq, Repr

def RecordKind.read : RecordKind → Value → Except Fault (Option ModelObject)
  | model, raw => (readModel raw).map some
  | table, raw => (readTable raw).map some
  | column, raw => readColumn raw
  | measure, raw => (readMeasure raw).map some
  | relationship, raw => (readRelationship raw).map some

end Snapshot

end TabularAudit
