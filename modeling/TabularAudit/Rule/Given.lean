import TabularAudit.Rule.Basic
import TabularAudit.Value.Integer

/-! What the record of a rule gives, before any of it is read. -/

namespace TabularAudit.Rule

/-- The value under a name in any letter case; of several the last one counts, and null stands for none. -/
def given (raw : Entries) (name : String) : Value :=
  ((raw.filter fun e => Bag.fold e.1 = Bag.fold name).map Prod.snd).getLast?.getD .null

/-- The values that have to be integers, as they are read one after the other: a severity that is not empty, a level
and a threshold that are not null. -/
def numbers (raw : Entries) : List Value :=
  [given raw "Severity"].filter (fun v => !v.isEmpty) ++
    [given raw "CompatibilityLevel", given raw "Threshold"].filter fun v => v ≠ .null

def numberFault? (raw : Entries) : Option Fault := (numbers raw).findSome? Value.integerFault?

end TabularAudit.Rule
